import Promotion.Json.Basic
import Promotion.Text.Quoted

/-!
# JSON values that do not fit

Why a JSON value is not one of the expected shape, and how that is said.
-/

namespace Promotion

/-- Why a value does not have the shape that was expected. -/
inductive Mismatch where
  /-- A value of another kind. -/
  | kind (found : Json) (expected : String)
  /-- A value of the right kind that is not allowed. -/
  | value (found : Json) (expected : String)
  /-- An array of the wrong length. -/
  | length (found : Nat) (expected : String)
  /-- An object without a required member. -/
  | missing (field : String)
  /-- A name that is none of the known ones. -/
  | variant (found : String) (known : List String)
deriving Repr

/-- What a value is called where it does not fit. -/
def Json.description : Json → String
  | .null => "null"
  | .bool true => "boolean `true`"
  | .bool false => "boolean `false`"
  | .number (.integer i) => "integer `" ++ String.ofList (Text.signedNumeral i) ++ "`"
  | .number (.double x) => "floating point `" ++ String.ofList x.text ++ "`"
  | .string s => "string " ++ Text.quoted s
  | .array _ => "sequence"
  | .object _ => "map"

/-- A name between backticks. -/
def ticked (name : String) : String :=
  "`" ++ name ++ "`"

/-- The known names: two with "or" between them, more as a list. -/
def Mismatch.alternatives : List String → String
  | [a, b] => ticked a ++ " or " ++ ticked b
  | names => "one of " ++ String.intercalate ", " (names.map ticked)

def Mismatch.message : Mismatch → String
  | kind found expected => "invalid type: " ++ found.description ++ ", expected " ++ expected
  | value found expected => "invalid value: " ++ found.description ++ ", expected " ++ expected
  | length found expected =>
    "invalid length " ++ String.ofList (Text.numeral found) ++ ", expected " ++ expected
  | missing field => "missing field " ++ ticked field
  | variant found known =>
    "unknown variant " ++ ticked found ++ ", expected " ++ alternatives known

end Promotion
