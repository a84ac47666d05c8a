import Promotion.Number.Double
import Promotion.Text.Numeral

/-!
# The shortest decimal of a double

Among the decimals that read back as a given number, the one with the fewest digits, and of those
the nearest. `Double.text` writes it with a point or, where the number is very large or very small,
with an exponent; `Double.plainDigits` never uses an exponent.
-/

namespace Promotion

-- Powers are those of the core library, whichever others a theory has in scope.
attribute [local instance (20000)] instPowNat

/-- The number `digits * 10 ^ exponent`. -/
structure Shortest where
  digits : Nat
  exponent : Int
deriving DecidableEq, Repr

namespace Double

/-- A quarter of the distance between neighbours is a whole number of these units. -/
def fine : Nat := 4 * one

/-- The bounds, in fine units, between which every number rounds to this one. -/
def roundingBounds (x : Double) : Nat × Nat :=
  let gap := 2 ^ x.shift
  let below := if x.significand = 2 ^ (52 : Nat) ∧ x.shift ≠ 0 then gap else 2 * gap
  (4 * x.magnitude - below, 4 * x.magnitude + 2 * gap)

/-- Whether `num / den`, a magnitude, reads as this number. The bounds themselves do where the
significand is even. -/
def readsFrom (x : Double) (num den : Nat) : Bool :=
  let (low, high) := x.roundingBounds
  if x.significand % 2 = 0 then
    low * den ≤ num * fine && num * fine ≤ high * den
  else
    low * den < num * fine && num * fine < high * den

/-- `digits * 10 ^ exponent` as a quotient. -/
def decimalQuotient (digits : Nat) (exponent : Int) : Nat × Nat :=
  if exponent < 0 then (digits, 10 ^ exponent.natAbs) else (digits * 10 ^ exponent.natAbs, 1)

/-- The decimal with a unit of `10 ^ exponent` that reads as this number and is nearest to it, of
two equally near the even one. -/
def nearestOnGrid (x : Double) (exponent : Int) : Option Nat :=
  let (unitNum, unitDen) := decimalQuotient 1 exponent
  let num := x.magnitude * unitDen
  let den := one * unitNum
  let reads (digits : Nat) : Bool :=
    let (n, d) := decimalQuotient digits exponent
    x.readsFrom n d
  let nearest := RoundingMode.halfEven.roundQuotient num den
  let down := num / den
  if reads nearest then some nearest
  else if reads down then some down
  else if reads (down + 1) then some (down + 1)
  else none

/-- The number of digits before the point, negative where zeros follow it. -/
def pointPosition (x : Double) : Int :=
  let whole := x.magnitude * 10 ^ (400 : Nat) / one
  (Nat.toDigits 10 whole).length - 400

/-- Trailing zeros become part of the exponent. At most `fuel` are taken. -/
def withoutZeros (fuel : Nat) (s : Shortest) : Shortest :=
  match fuel with
  | 0 => s
  | fuel + 1 =>
    if s.digits ≠ 0 ∧ s.digits % 10 = 0 then withoutZeros fuel ⟨s.digits / 10, s.exponent + 1⟩
    else s

/-- The fewest digits that read back, for a number other than zero. Seventeen always do. -/
def shortest (x : Double) : Shortest :=
  let point := x.pointPosition
  let candidate (count : Nat) : Option Shortest :=
    (x.nearestOnGrid (point - count)).map fun digits => ⟨digits, point - count⟩
  withoutZeros 20 (((List.range 18).findSome? candidate).getD ⟨0, 0⟩)

def zeros (count : Nat) : List Char :=
  List.replicate count '0'

/-- Digits with a point in or around them, and at least one digit on either side of it. -/
def positional (digits : List Char) (exponent : Int) : List Char × List Char :=
  if exponent ≥ 0 then (digits ++ zeros exponent.natAbs, ['0'])
  else
    let places := exponent.natAbs
    if places < digits.length then
      (digits.take (digits.length - places), digits.drop (digits.length - places))
    else (['0'], zeros (places - digits.length) ++ digits)

def signed (x : Double) (magnitude : List Char) : List Char :=
  if x.negative then '-' :: magnitude else magnitude

/-- One digit, the others after a point, and the exponent with its sign. -/
def scientific (digits : List Char) (exponent : Int) : List Char :=
  let mantissa :=
    match digits with
    | [] => []
    | [d] => [d]
    | d :: ds => d :: '.' :: ds
  mantissa ++ ['e', if exponent < 0 then '-' else '+'] ++ Text.numeral exponent.natAbs

/-- The text of a number, always with a mark of being a double: a point, or an exponent where the
leading digit stands below `10 ^ -5` or above `10 ^ 15`. -/
def text (x : Double) : List Char :=
  if x.isZero then x.signed ['0', '.', '0']
  else
    let s := x.shortest
    let digits := Text.numeral s.digits
    let leading := s.exponent + digits.length - 1
    if -5 ≤ leading ∧ leading ≤ 15 then
      let (whole, fraction) := positional digits s.exponent
      x.signed (whole ++ '.' :: fraction)
    else x.signed (scientific digits leading)

/-- The text of a number without an exponent, and without a point where it is whole. -/
def plainDigits (x : Double) : List Char :=
  if x.isZero then x.signed ['0']
  else
    let s := x.shortest
    let (whole, fraction) := positional (Text.numeral s.digits) s.exponent
    x.signed (if s.exponent ≥ 0 then whole else whole ++ '.' :: fraction)

end Double

end Promotion
