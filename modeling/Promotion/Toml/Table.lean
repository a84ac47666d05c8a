import Promotion.Config.Value

/-!
# Tables of TOML

The tables of a document while it is read. What may still be added to a table depends on how it came
to be (`Origin`): a header opens a table once, a dotted key reaches into no table that was opened,
and nothing is added to a value that stands on the right of an equals sign.
-/

namespace Promotion.Toml

/-- How a table came to be. -/
inductive Origin where
  /-- It was opened by a header. -/
  | opened
  /-- It lies on the way to a table that was opened. -/
  | implied
  /-- It lies on the way of a dotted key. -/
  | dotted
deriving DecidableEq, Repr

/-- What a name in a table stands for. -/
inductive Node where
  /-- What stands on the right of an equals sign. -/
  | value (content : ConfigValue)
  | table (origin : Origin) (members : List (String × Node))
  /-- Tables that were opened one after another under one name. Only the last can still grow. -/
  | tables (done : List ConfigValue) (last : List (String × Node))

abbrev Members := Dict Node

mutual

/-- A node as a value. -/
def Node.content : Node → ConfigValue
  | .value content => content
  | .table _ members => .table (contents members)
  | .tables done last => .list (done ++ [.table (contents last)])

def contents : List (String × Node) → List (String × ConfigValue)
  | [] => []
  | (name, node) :: members => (name, node.content) :: contents members

end

namespace Members

/-- Set what the names of a key lead to, which must be nothing yet. Of more than one name the last
but one leads to a table that dotted keys have made. -/
def assign? (value : ConfigValue) : List String → Members → Option Members
  | [], _ => none
  | [name], members =>
    if Dict.contains members name then none else some (Dict.insert members name (.value value))
  | name :: path, members => do
    let node ←
      match Dict.get? members name with
      | none => (assign? value path []).map (.table .dotted)
      | some (.table .dotted inner) => (assign? value path inner).map (.table .dotted)
      | some (.table .implied inner) =>
        if path.length = 1 then none else (assign? value path inner).map (.table .implied)
      | some (.tables done last) =>
        if path.length = 1 then none else (assign? value path last).map (.tables done)
      | some (.table .opened _) | some (.value _) => none
    some (Dict.insert members name node)

/-- Change the members of the table that a path leads to, through tables of any origin. -/
def within? (change : Members → Option Members) : List String → Members → Option Members
  | [], members => change members
  | name :: path, members => do
    let node ←
      match Dict.get? members name with
      | none => (within? change path []).map (.table .implied)
      | some (.table origin inner) => (within? change path inner).map (.table origin)
      | some (.tables done last) => (within? change path last).map (.tables done)
      | some (.value _) => none
    some (Dict.insert members name node)

/-- Open the table of a name, which must not have been opened. -/
def openTable? (name : String) (members : Members) : Option Members :=
  match Dict.get? members name with
  | none => some (Dict.insert members name (.table .opened []))
  | some (.table .implied inner) => some (Dict.insert members name (.table .opened inner))
  | _ => none

/-- Open one more of the tables under a name. -/
def openItem? (name : String) (members : Members) : Option Members :=
  match Dict.get? members name with
  | none => some (Dict.insert members name (.tables [] []))
  | some (.tables done last) =>
    some (Dict.insert members name (.tables (done ++ [.table (contents last)]) []))
  | _ => none

end Members

end Promotion.Toml
