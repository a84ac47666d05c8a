/-!
# Dictionaries

A dictionary is a list of entries in increasing order of their keys, each key once. Keys are texts
and are compared code point by code point.
-/

namespace Promotion

/-- The entries of a finite map from texts. -/
abbrev Dict (α : Type u) := List (String × α)

namespace Dict

variable {α : Type u} {β : Type v}

def get? (d : Dict α) (key : String) : Option α :=
  d.lookup key

/-- The keys in increasing order. -/
def keys (d : Dict α) : List String :=
  d.map (·.1)

def contains (d : Dict α) (key : String) : Bool :=
  (d.get? key).isSome

/-- Store a value under a key, in place of any value stored there. -/
def insert : Dict α → String → α → Dict α
  | [], key, value => [(key, value)]
  | (k, v) :: rest, key, value =>
    if key < k then (key, value) :: (k, v) :: rest
    else if key = k then (key, value) :: rest
    else (k, v) :: insert rest key value

def erase (d : Dict α) (key : String) : Dict α :=
  d.filter (·.1 ≠ key)

/-- Store all of a list, a later entry in place of an earlier one with its key. -/
def ofList (entries : List (String × α)) : Dict α :=
  entries.foldl (fun d (key, value) => d.insert key value) []

def mapValues (f : α → β) (d : Dict α) : Dict β :=
  d.map fun (key, value) => (key, f value)

/-- The keys stand in increasing order, each once. -/
def Sorted (d : Dict α) : Prop :=
  d.Pairwise (·.1 < ·.1)

end Dict

end Promotion
