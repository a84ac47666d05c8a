import Promotion.Text.Class
import Promotion.Text.Table.Unprintable

/-!
# Quoted texts

A text between double quotes in which the quote, the backslash and every character that would not
show are escaped.
-/

namespace Promotion.Text

/-- A code in hexadecimal, in lower case and without leading zeros. -/
def hexadecimal (n : Nat) : List Char :=
  Nat.toDigits 16 n

/-- Characters that show as themselves. -/
def isPrintable (c : Char) : Bool :=
  (0x20 ≤ c.toNat && c.toNat < 0x7F)
    || !(inRanges unprintableRanges c || inRanges graphemeExtendRanges c || inRanges fillerRanges c)

/-- How one character stands between the quotes. -/
def quotedChar (c : Char) : List Char :=
  match c with
  | '\x00' => ['\\', '0']
  | '\t' => ['\\', 't']
  | '\n' => ['\\', 'n']
  | '\r' => ['\\', 'r']
  | '"' => ['\\', '"']
  | '\\' => ['\\', '\\']
  | c => if isPrintable c then [c] else ['\\', 'u', '{'] ++ hexadecimal c.toNat ++ ['}']

/-- A text between double quotes, with escapes. -/
def quoted (s : String) : String :=
  String.ofList ('"' :: s.toList.flatMap quotedChar ++ ['"'])

end Promotion.Text
