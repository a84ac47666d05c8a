import Promotion.Text.Table.Alphabetic
import Promotion.Text.Table.Number
import Promotion.Text.Table.Word

/-!
# Letters, digits and word characters

What letters and digits are, in ASCII and in every script, and which characters words are made of.
-/

namespace Promotion.Text

/-- Membership in a list of ranges of code points. -/
def inRanges (ranges : List (Nat × Nat)) (c : Char) : Bool :=
  ranges.any fun (first, last) => first ≤ c.toNat && c.toNat ≤ last

/-- The digits 0 to 9. -/
def isDigit (c : Char) : Bool :=
  '0'.toNat ≤ c.toNat && c.toNat ≤ '9'.toNat

/-- The value of a digit 0 to 9. -/
def digit? (c : Char) : Option Nat :=
  if isDigit c then some (c.toNat - '0'.toNat) else none

/-- The letters a to z. -/
def isLower (c : Char) : Bool :=
  'a'.toNat ≤ c.toNat && c.toNat ≤ 'z'.toNat

/-- The letters A to Z. -/
def isUpper (c : Char) : Bool :=
  'A'.toNat ≤ c.toNat && c.toNat ≤ 'Z'.toNat

/-- A letter or digit of ASCII. -/
def isAlphanumeric (c : Char) : Bool :=
  isLower c || isUpper c || isDigit c

/-- The lower case of an ASCII letter; any other character is left alone. -/
def lower (c : Char) : Char :=
  if isUpper c then Char.ofNat (c.toNat + 32) else c

theorem toNat_lower_of_isUpper {c : Char} (h : isUpper c) : (lower c).toNat = c.toNat + 32 := by
  have hrange : 65 ≤ c.toNat ∧ c.toNat ≤ 90 := by simpa [isUpper] using h
  have hvalid : (c.toNat + 32).isValidChar := .inl (by omega)
  rw [lower, if_pos h, Char.ofNat, dif_pos hvalid]
  rfl

/-! ### Beyond ASCII -/

/-- A letter or number of any script. -/
def isLetterOrNumber (c : Char) : Bool :=
  isAlphanumeric c
    || (0x80 ≤ c.toNat && (inRanges alphabeticRanges c || inRanges decimalDigitRanges c
      || inRanges otherNumberRanges c))

/-- A character of version 16 of Unicode, if it is a letter, mark or digit. -/
def isEstablished (c : Char) : Bool :=
  !inRanges latestRanges c

/-- A decimal digit of any script. -/
def isDecimalDigit (c : Char) : Bool :=
  isDigit c || (0x80 ≤ c.toNat && inRanges decimalDigitRanges c && isEstablished c)

/-- A character that words are made of: a letter, mark, decimal digit or connector of any script. -/
def isWord (c : Char) : Bool :=
  isAlphanumeric c || c == '_'
    || (0x80 ≤ c.toNat && (inRanges alphabeticRanges c || inRanges markRanges c
      || inRanges decimalDigitRanges c || inRanges connectorRanges c) && isEstablished c)

end Promotion.Text
