import Promotion.Config.Value
import Promotion.Text.Class

/-!
# Trees of configuration values

What files and variables say is laid over one another, each source as a list of keys with their
values. A key is a path from the root of the tree, such as `engine.currencies[0]`.
-/

namespace Promotion

/-! ## Laying one tree over another -/

namespace ConfigValue

mutual

/-- A tree with another laid over it. Tables are merged member by member, where one without members
fills only a place without a value; any other value takes the place of what is below it. -/
def overlay (base : ConfigValue) : ConfigValue → ConfigValue
  | table [] => if base.isNothing then table [] else base
  | table (member :: members) =>
    table (overlayMembers ((base.members?).getD []) (member :: members))
  | value => value

/-- Members with others laid over them, one after another. -/
def overlayMembers (base : Dict ConfigValue) : List (String × ConfigValue) → Dict ConfigValue
  | [] => base
  | (name, value) :: rest =>
    overlayMembers (base.insert name (overlay ((base.get? name).getD nothing) value)) rest

end

end ConfigValue

/-! ## Paths -/

/-- A step from a value to a part of it. -/
inductive PathStep where
  | member (name : String)
  /-- An item, counted from the end where the index is negative. -/
  | item (index : Int)
deriving DecidableEq, Repr

namespace PathStep

def isNameChar (c : Char) : Bool :=
  Text.isAlphanumeric c || c == '_' || c == '-'

/-- A member's name at the start of a text. -/
def nameToken (cs : List Char) : Option (PathStep × List Char) :=
  match cs.takeWhile isNameChar with
  | [] => none
  | name => some (.member (String.ofList name), cs.dropWhile isNameChar)

/-- The blanks that may stand around an index. -/
def skipBlanks (cs : List Char) : List Char :=
  cs.dropWhile fun c => c == ' ' || c == '\t'

/-- An index whose opening bracket has been read. -/
def indexToken (cs : List Char) : Option (PathStep × List Char) :=
  let cs := skipBlanks cs
  let sign := if cs.head? = some '-' then ['-'] else []
  let digits := (cs.drop sign.length).takeWhile Text.isDigit
  match digits, skipBlanks (cs.drop (sign.length + digits.length)) with
  | [], _ => none
  | digits, ']' :: rest =>
    match Text.readInteger Text.maxInteger64 (sign ++ digits) with
    | .ok index => some (.item index, rest)
    | .error _ => none
  | _, _ => none

def laterSteps? (fuel : Nat) : List Char → Option (List PathStep)
  | [] => some []
  | mark :: cs =>
    match fuel with
    | 0 => none
    | fuel + 1 => do
      let (step, rest) ←
        if mark = '.' then nameToken cs else if mark = '[' then indexToken cs else none
      (laterSteps? fuel rest).map (step :: ·)

/-- The path a key stands for. A key of any other form is the name of a single member. -/
def ofKey (key : String) : List PathStep :=
  let path := do
    let (step, rest) ← nameToken key.toList
    (laterSteps? rest.length rest).map (step :: ·)
  path.getD [.member key]

end PathStep

/-! ## Values at paths -/

namespace ConfigValue

/-- The items among which one has an index, and its place from the start. Places without a value are
added where there are too few items. -/
def reaching (items : List ConfigValue) (index : Int) : List ConfigValue × Nat :=
  let back := index.natAbs
  if 0 ≤ index then (items ++ List.replicate (back + 1 - items.length) nothing, back)
  else (List.replicate (back - items.length) nothing ++ items, items.length - back)

/-- A tree with a value laid over what is at the end of a path. Tables and lists on the way are made
where there are none. -/
def place (base : ConfigValue) (value : ConfigValue) : List PathStep → ConfigValue
  | [] => overlay base value
  | .member name :: path =>
    let members := (base.members?).getD []
    table (Dict.insert members name (place ((Dict.get? members name).getD nothing) value path))
  | .item index :: path =>
    let (items, n) := reaching ((base.items?).getD []) index
    list (items.set n (place ((items[n]?).getD nothing) value path))

/-- A tree with the values under some keys laid over it, one after another. -/
def withEntries (tree : ConfigValue) (entries : List (String × ConfigValue)) : ConfigValue :=
  entries.foldl (fun tree (key, value) => tree.place value (PathStep.ofKey key)) tree

end ConfigValue

end Promotion
