import Promotion.Dict
import Promotion.Number.Shortest

/-!
# JSON values

Numbers keep the kind in which they were written: whole numbers of 64 bits are held apart from
doubles, so that `1` and `1.0` are two values. An object is the list of its members; one that was
read has them sorted by name (`Json.sorted`), one that the library writes has them in the order of
the record it came from.
-/

namespace Promotion

/-- A number together with the kind in which it was written. -/
inductive Number where
  /-- A whole number from `-2 ^ 63` to `2 ^ 64 - 1`. -/
  | integer (value : Int)
  | double (value : Double)
deriving DecidableEq, Repr

/-- The digits of a number; a double always shows that it is one. -/
def Number.text : Number → List Char
  | .integer i => Promotion.Text.signedNumeral i
  | .double x => x.text

inductive Json where
  | null
  | bool (value : Bool)
  | number (value : Number)
  | string (value : String)
  | array (items : List Json)
  | object (members : List (String × Json))
deriving Inhabited, Repr

namespace Json

def ofInt (i : Int) : Json :=
  .number (.integer i)

def ofNat (n : Nat) : Json :=
  .number (.integer n)

def object? : Json → Option (Dict Json)
  | .object members => some members
  | _ => none

def array? : Json → Option (List Json)
  | .array items => some items
  | _ => none

def string? : Json → Option String
  | .string s => some s
  | _ => none

def bool? : Json → Option Bool
  | .bool b => some b
  | _ => none

def isNull : Json → Bool
  | .null => true
  | _ => false

def isString : Json → Bool
  | .string _ => true
  | _ => false

def member? (json : Json) (name : String) : Option Json :=
  json.object?.bind fun members => Dict.get? members name

/-- A member that is left out where there is no value. -/
def optionalMember (name : String) (value : Option Json) : List (String × Json) :=
  match value with
  | some v => [(name, v)]
  | none => []

/-- Texts under texts. -/
def ofTexts (texts : Dict String) : Json :=
  .object (Dict.mapValues .string texts)

mutual

/-- The same value with the members of every object sorted by name. Where a name is written more
than once, the last one counts. -/
def sorted : Json → Json
  | .array items => .array (sortedItems items)
  | .object members => .object (Dict.ofList (sortedMembers members))
  | json => json

def sortedItems : List Json → List Json
  | [] => []
  | item :: items => sorted item :: sortedItems items

def sortedMembers : List (String × Json) → List (String × Json)
  | [] => []
  | (name, value) :: members => (name, sorted value) :: sortedMembers members

end

end Json

end Promotion
