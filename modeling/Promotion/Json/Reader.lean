import Promotion.Json.Mismatch

/-!
# Typed readers of JSON values

A `Reader` takes a JSON value to a value of a type of its own, or to the first mismatch.

Records are read by their `Fields`, in declaration order. In an object the first unfit member in the
order of the names decides, and only when there is none the first required member that is missing.
A record may be written as an array of its fields too; there the position decides.
-/

namespace Promotion

-- Powers are those of the core library, whichever others a theory has in scope.
attribute [local instance (20000)] instPowNat

abbrev Reader (α : Type) := Json → Except Mismatch α

namespace Reader

variable {α β : Type}

def map (f : α → β) (reader : Reader α) : Reader β :=
  fun json => (reader json).map f

/-! ### Single values -/

def any : Reader Json :=
  .ok

def text : Reader String
  | .string s => .ok s
  | json => .error (.kind json "a string")

def bool : Reader Bool
  | .bool b => .ok b
  | json => .error (.kind json "a boolean")

def number : Reader Number
  | .number n => .ok n
  | json => .error (.kind json "a JSON number")

/-- A whole number from `low` to `high`. A double never is one. -/
def integer (low high : Int) (expected : String) : Reader Int
  | .number (.integer i) =>
    if low ≤ i ∧ i ≤ high then .ok i else .error (.value (.number (.integer i)) expected)
  | json => .error (.kind json expected)

def natural64 : Reader Nat :=
  map Int.toNat (integer 0 (2 ^ (64 : Nat) - 1) "u64")

def natural32 : Reader Nat :=
  map Int.toNat (integer 0 (2 ^ (32 : Nat) - 1) "u32")

/-- A position in a list. -/
def position : Reader Nat :=
  map Int.toNat (integer 0 (2 ^ (64 : Nat) - 1) "usize")

def integer64 : Reader Int :=
  integer (-2 ^ (63 : Nat)) (2 ^ (63 : Nat) - 1) "i64"

/-- A value that may be null. -/
def optional (reader : Reader α) : Reader (Option α)
  | .null => .ok none
  | json => (reader json).map some

/-! ### Collections -/

def list (reader : Reader α) : Reader (List α)
  | .array items => items.mapM reader
  | json => .error (.kind json "a sequence")

/-- An object whose values are of one shape. -/
def dict (reader : Reader α) : Reader (Dict α)
  | .object members => members.mapM fun (name, json) => (reader json).map fun value => (name, value)
  | json => .error (.kind json "a map")

/-! ### Names -/

/-- The meaning of a name. -/
def named (known : List (String × α)) (name : String) : Except Mismatch α :=
  match known.lookup name with
  | some value => .ok value
  | none => .error (.variant name (known.map (·.1)))

/-- One of several names, written as a text or as the single member of an object with null. -/
def oneOf (known : List (String × α)) : Reader α
  | .string name => named known name
  | .object [(name, content)] => do
    let value ← named known name
    if content.isNull then .ok value else .error (.kind content "unit")
  | .object members => .error (.value (.object members) "map with a single key")
  | json => .error (.kind json "string or map")

end Reader

/-! ### Records -/

/-- Where the fields of a record are looked up. -/
inductive FieldSource where
  | ofObject (members : Dict Json)
  | ofArray (items : List Json)

/-- The value given for the field that comes next, if any. -/
def FieldSource.first? : FieldSource → String → Option Json
  | .ofObject members, name => members.get? name
  | .ofArray items, _ => items.head?

/-- What is left for the fields after the next `count`. -/
def FieldSource.skip (count : Nat) : FieldSource → FieldSource
  | .ofObject members => .ofObject members
  | .ofArray items => .ofArray (items.drop count)

/-- What is wrong with a record. -/
inductive FieldFault where
  /-- A member that does not fit. -/
  | unfit (name : String) (mismatch : Mismatch)
  /-- A required field that is missing, with its position in declaration order. -/
  | absent (position : Nat) (name : String)

namespace FieldFault

/-- The fault of a field that stands `count` fields later. -/
def later (count : Nat) : FieldFault → FieldFault
  | unfit name mismatch => unfit name mismatch
  | absent position name => absent (position + count) name

/-- Of two faults, the first declared one first, the one that is reported. -/
def first (source : FieldSource) : FieldFault → FieldFault → FieldFault
  | unfit a m, unfit b n =>
    match source with
    | .ofObject _ => if b < a then unfit b n else unfit a m
    | .ofArray _ => unfit a m
  | unfit a m, absent _ _ => unfit a m
  | absent _ _, unfit b n => unfit b n
  | absent i a, absent _ _ => absent i a

end FieldFault

/-- The fields of a record in declaration order, and how its value is made of them. -/
structure Fields (α : Type) where
  names : List String
  read : FieldSource → Except FieldFault α

namespace Fields

variable {α β : Type}

def pure (value : α) : Fields α :=
  ⟨[], fun _ => .ok value⟩

def map (f : α → β) (fields : Fields α) : Fields β :=
  ⟨fields.names, fun source => (fields.read source).map f⟩

def append (functions : Fields (α → β)) (fields : Fields α) : Fields β where
  names := functions.names ++ fields.names
  read source :=
    let count := functions.names.length
    match functions.read source, fields.read (source.skip count) with
    | .ok f, .ok value => .ok (f value)
    | .ok _, .error fault => .error (fault.later count)
    | .error fault, .ok _ => .error fault
    | .error fault, .error next => .error (FieldFault.first source fault (next.later count))

instance : Functor Fields where
  map := Fields.map

instance : Applicative Fields where
  pure := Fields.pure
  seq functions fields := functions.append (fields ())

/-- One field, with the value it has where it is not given, if there is one. -/
def single (name : String) (reader : Reader α) (default? : Option α) : Fields α where
  names := [name]
  read source :=
    match source.first? name with
    | some json => (reader json).mapError (.unfit name)
    | none =>
      match default? with
      | some value => .ok value
      | none => .error (.absent 0 name)

def required (name : String) (reader : Reader α) : Fields α :=
  single name reader none

def withDefault (name : String) (reader : Reader α) (value : α) : Fields α :=
  single name reader (some value)

/-- A field that may be null or missing. -/
def optional (name : String) (reader : Reader α) : Fields (Option α) :=
  single name reader.optional (some none)

end Fields

/-- A record of these fields, under the name by which mismatches call it. -/
def Reader.record {α : Type} (typeName : String) (fields : Fields α) : Reader α
  | .object members =>
    match fields.read (.ofObject members) with
    | .ok value => .ok value
    | .error (.unfit _ mismatch) => .error mismatch
    | .error (.absent _ name) => .error (.missing name)
  | .array items =>
    let count := fields.names.length
    match fields.read (.ofArray items) with
    | .ok value =>
      if items.length ≤ count then .ok value
      else .error (.length items.length "fewer elements in array")
    | .error (.unfit _ mismatch) => .error mismatch
    | .error (.absent position _) =>
      .error (.length position
        ("struct " ++ typeName ++ " with " ++ String.ofList (Text.numeral count)
          ++ (if count = 1 then " element" else " elements")))
  | json => .error (.kind json ("struct " ++ typeName))

end Promotion
