import Promotion.Json.Basic
import Promotion.Number.Extended

/-!
# Configuration values

What files and variables say, before it is known what it is for. Single values are read leniently
(`ConfigValue.text?`, `ConfigValue.natural?`): a number does for a text, and a text or a truth value
for a number.
-/

namespace Promotion

-- Powers are those of the core library, whichever others a theory has in scope.
attribute [local instance (20000)] instPowNat

inductive ConfigValue where
  /-- A place without a value. -/
  | nothing
  | flag (value : Bool)
  | whole (value : Int)
  | real (value : ExtendedDouble)
  | text (value : String)
  | list (items : List ConfigValue)
  | table (members : List (String × ConfigValue))
deriving Inhabited, Repr

namespace ConfigValue

def isNothing : ConfigValue → Bool
  | nothing => true
  | _ => false

def members? : ConfigValue → Option (Dict ConfigValue)
  | table members => some members
  | _ => none

def items? : ConfigValue → Option (List ConfigValue)
  | list items => some items
  | _ => none

/-! ## Values of JSON -/

mutual

/-- A JSON value as a value of a configuration. A whole number beyond 64 bits with a sign is the
double nearest to it. -/
def ofJson : Json → ConfigValue
  | .null => nothing
  | .bool b => flag b
  | .number (.integer i) =>
    if i < 2 ^ (63 : Nat) then whole i
    else real (((Double.ofNat? i.toNat).map .finite).getD (.infinite false))
  | .number (.double x) => real (.finite x)
  | .string s => text s
  | .array items => list (ofJsonItems items)
  | .object members => table (ofJsonMembers members)

def ofJsonItems : List Json → List ConfigValue
  | [] => []
  | item :: items => ofJson item :: ofJsonItems items

def ofJsonMembers : List (String × Json) → List (String × ConfigValue)
  | [] => []
  | (name, json) :: members => (name, ofJson json) :: ofJsonMembers members

end

/-! ## Single values -/

/-- A value as a text. A double is written without an exponent. -/
def text? : ConfigValue → Option String
  | text s => some s
  | flag b => some (if b then "true" else "false")
  | whole i => some (String.ofList (Text.signedNumeral i))
  | real x => some (String.ofList x.plainDigits)
  | _ => none

/-- The natural number that a text stands for: the words for on and off stand for one and zero. -/
def wordNumber? (s : String) : Option Nat :=
  match s.map Text.lower with
  | "true" | "on" | "yes" => some 1
  | "false" | "off" | "no" => some 0
  | _ => (Text.readNatural Text.maxNatural64 s.toList).toOption

/-- A value as a natural number of 64 bits. A double is rounded to the nearest one. -/
def natural? : ConfigValue → Option Nat
  | flag b => some b.toNat
  | whole i => if 0 ≤ i then some i.toNat else none
  | real x => some (x.toNatural Text.maxNatural64)
  | text s => wordNumber? s
  | _ => none

def natural32? (value : ConfigValue) : Option Nat :=
  value.natural?.filter (· < 2 ^ (32 : Nat))

end ConfigValue

end Promotion
