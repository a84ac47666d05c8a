import Promotion.Text.Class

/-!
# Decimal numerals

Whole numbers as texts: how they are written, and how a text is read within bounds. The reader
goes from left to right, and the first character at which it cannot go on decides the fault.
-/

namespace Promotion.Text

-- Powers are those of the core library, whichever others a theory has in scope.
attribute [local instance (20000)] instPowNat

/-- The digits of a natural number, without leading zeros. -/
def numeral (n : Nat) : List Char :=
  Nat.toDigits 10 n

/-- The digits of an integer, with a minus sign where it is negative. -/
def signedNumeral (i : Int) : List Char :=
  if i < 0 then '-' :: numeral i.natAbs else numeral i.natAbs

/-- Why a text is not a numeral within the bounds. -/
inductive NumeralFault where
  | empty
  | digit
  | tooLarge
  | tooSmall
deriving DecidableEq, Repr

def NumeralFault.message : NumeralFault → String
  | .empty => "cannot parse integer from empty string"
  | .digit => "invalid digit found in string"
  | .tooLarge => "number too large to fit in target type"
  | .tooSmall => "number too small to fit in target type"

/-- Digits read after `value`, which must stay within `bound`. -/
def readDigits (bound : Nat) (beyond : NumeralFault) (value : Nat) :
    List Char → Except NumeralFault Nat
  | [] => .ok value
  | c :: cs =>
    match digit? c with
    | none => .error .digit
    | some d =>
      if 10 * value + d ≤ bound then readDigits bound beyond (10 * value + d) cs
      else .error beyond

/-- A sign must not stand alone. -/
def readSigned (bound : Nat) (beyond : NumeralFault) : List Char → Except NumeralFault Nat
  | [] => .error .digit
  | cs => readDigits bound beyond 0 cs

/-- A natural number of at most `bound`, which a plus sign may precede. -/
def readNatural (bound : Nat) : List Char → Except NumeralFault Nat
  | [] => .error .empty
  | '+' :: cs => readSigned bound .tooLarge cs
  | cs => readDigits bound .tooLarge 0 cs

/-- An integer from `-bound - 1` to `bound`, which a sign may precede. -/
def readInteger (bound : Nat) : List Char → Except NumeralFault Int
  | [] => .error .empty
  | '+' :: cs => (readSigned bound .tooLarge cs).map Int.ofNat
  | '-' :: cs => (readSigned (bound + 1) .tooSmall cs).map fun n => -Int.ofNat n
  | cs => (readDigits bound .tooLarge 0 cs).map Int.ofNat

/-- The largest unsigned number of 64 bits. -/
def maxNatural64 : Nat := 2 ^ (64 : Nat) - 1

/-- The largest signed number of 64 bits. -/
def maxInteger64 : Nat := 2 ^ (63 : Nat) - 1

end Promotion.Text
