import Promotion.Json.Basic
import Promotion.Text.Quoted

/-!
# Writing JSON

`Json.compact` writes a value without blanks, `Json.pretty` over several lines with an indent of two
blanks for each level. Both write the members of an object in the order in which it holds them.
-/

namespace Promotion

namespace Json

/-- A code of two hexadecimal digits. -/
def hexadecimalPair (n : Nat) : List Char :=
  (if n < 16 then ['0'] else []) ++ Text.hexadecimal n

/-- How one character stands in a JSON text. -/
def escapedChar (c : Char) : List Char :=
  match c with
  | '"' => ['\\', '"']
  | '\\' => ['\\', '\\']
  | '\n' => ['\\', 'n']
  | '\r' => ['\\', 'r']
  | '\t' => ['\\', 't']
  | '\x08' => ['\\', 'b']
  | '\x0c' => ['\\', 'f']
  | c => if c.toNat < 0x20 then ['\\', 'u', '0', '0'] ++ hexadecimalPair c.toNat else [c]

/-- A text between double quotes. -/
def stringChars (s : String) : List Char :=
  '"' :: s.toList.flatMap escapedChar ++ ['"']

/-- A value other than a list or an object with something in it. -/
def leafChars : Json → List Char
  | .null => "null".toList
  | .bool true => "true".toList
  | .bool false => "false".toList
  | .number n => n.text
  | .string s => stringChars s
  | .array _ => ['[', ']']
  | .object _ => ['{', '}']

mutual

/-- The characters of a value, without blanks. -/
def chars : Json → List Char
  | .array items => '[' :: itemsChars items ++ [']']
  | .object members => '{' :: membersChars members ++ ['}']
  | json => leafChars json

/-- Items with commas between them. -/
def itemsChars : List Json → List Char
  | [] => []
  | [item] => chars item
  | item :: next :: items => chars item ++ ',' :: itemsChars (next :: items)

/-- Members with commas between them. -/
def membersChars : List (String × Json) → List Char
  | [] => []
  | [(name, value)] => stringChars name ++ ':' :: chars value
  | (name, value) :: next :: members =>
    stringChars name ++ ':' :: chars value ++ ',' :: membersChars (next :: members)

end

/-- A line break and the indent of a level. -/
def newLine (level : Nat) : List Char :=
  '\n' :: List.replicate (2 * level) ' '

mutual

/-- The characters of a value whose first line is already indented to `level`. -/
def prettyChars (level : Nat) : Json → List Char
  | .array (item :: items) =>
    '[' :: newLine (level + 1) ++ prettyItems (level + 1) (item :: items) ++ newLine level ++ [']']
  | .object (member :: members) =>
    '{' :: newLine (level + 1) ++ prettyMembers (level + 1) (member :: members) ++ newLine level
      ++ ['}']
  | json => leafChars json

/-- Items, each on lines of its own. -/
def prettyItems (level : Nat) : List Json → List Char
  | [] => []
  | [item] => prettyChars level item
  | item :: next :: items =>
    prettyChars level item ++ ',' :: newLine level ++ prettyItems level (next :: items)

/-- Members, each on lines of its own. -/
def prettyMembers (level : Nat) : List (String × Json) → List Char
  | [] => []
  | [(name, value)] => stringChars name ++ ':' :: ' ' :: prettyChars level value
  | (name, value) :: next :: members =>
    stringChars name ++ ':' :: ' ' :: prettyChars level value ++ ',' :: newLine level
      ++ prettyMembers level (next :: members)

end

def compact (json : Json) : String :=
  String.ofList json.chars

def pretty (json : Json) : String :=
  String.ofList (json.prettyChars 0)

end Json

end Promotion
