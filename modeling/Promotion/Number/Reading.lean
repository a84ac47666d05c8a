import Promotion.Number.Double
import Promotion.Text.Numeral

/-!
# Reading a decimal text as a double

The texts accepted are an optional sign, digits with at most one point and a digit on at least one
side of it, and an optional exponent.
-/

namespace Promotion

namespace Double

def digitsValue (cs : List Char) : Nat :=
  cs.foldl (fun value c => 10 * value + (Text.digit? c).getD 0) 0

/-- The digits a text starts with, and the rest. -/
def spanDigits (cs : List Char) : List Char × List Char :=
  (cs.takeWhile Text.isDigit, cs.dropWhile Text.isDigit)

/-- An exponent: a mark, an optional sign, and digits to the end. No mark means zero. -/
def readExponent : List Char → Option Int
  | [] => some 0
  | c :: cs =>
    if c = 'e' ∨ c = 'E' then
      let (negative, ds) :=
        match cs with
        | '-' :: ds => (true, ds)
        | '+' :: ds => (false, ds)
        | ds => (false, ds)
      if ds ≠ [] ∧ ds.all Text.isDigit then
        some (if negative then -(digitsValue ds : Int) else digitsValue ds)
      else none
    else none

/-- The digits of a magnitude, without the point, and the power of ten they are multiplied by. -/
def readMagnitude (cs : List Char) : Option (Nat × Int) :=
  let (whole, rest) := spanDigits cs
  let (fraction, rest) :=
    match rest with
    | '.' :: more => spanDigits more
    | rest => ([], rest)
  if whole = [] ∧ fraction = [] then none
  else (readExponent rest).map fun exponent =>
    (digitsValue (whole ++ fraction), exponent - fraction.length)

/-- Whether a text starts with a minus sign, and the text without its sign. -/
def readSign : List Char → Bool × List Char
  | '-' :: cs => (true, cs)
  | '+' :: cs => (false, cs)
  | cs => (false, cs)

/-- The number a text stands for; none where it is no number, or one beyond the range. -/
def read? (cs : List Char) : Option Double := do
  let (negative, magnitude) := readSign cs
  let (digits, exponent) ← readMagnitude magnitude
  ofDecimal negative digits exponent

end Double

end Promotion
