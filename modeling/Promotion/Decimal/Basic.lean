import Promotion.Rounding

/-!
# Decimals

A decimal is a mantissa of 96 bits with up to 28 of its digits behind the point. The scale, which is
the number of those digits, is kept: `2.50` and `2.5` are two decimals of one value.
-/

namespace Promotion

-- Powers are those of the core library, whichever others a theory has in scope.
attribute [local instance (20000)] instPowNat

/-- The number `mantissa / 10 ^ scale` with a sign, which a zero may have too. -/
structure Decimal where
  negative : Bool
  mantissa : Nat
  scale : Nat
  mantissa_lt : mantissa < 2 ^ (96 : Nat)
  scale_le : scale ≤ 28
deriving DecidableEq, Repr

namespace Decimal

/-- The decimal of these parts, if they fit. A zero made in this way has no sign. -/
def make? (negative : Bool) (mantissa scale : Nat) : Option Decimal :=
  if h : mantissa < 2 ^ (96 : Nat) ∧ scale ≤ 28 then
    some ⟨negative && mantissa != 0, mantissa, scale, h.1, h.2⟩
  else none

def zero : Decimal :=
  ⟨false, 0, 0, by decide, by decide⟩

/-- A whole number; zero for one beyond 96 bits. -/
def ofInt (i : Int) : Decimal :=
  if h : i.natAbs < 2 ^ (96 : Nat) then ⟨i < 0, i.natAbs, 0, h, by decide⟩ else zero

/-- Zero of either sign and any scale. -/
def isZero (a : Decimal) : Bool :=
  a.mantissa == 0

/-- The mantissa with the sign. -/
def signed (a : Decimal) : Int :=
  if a.negative then -(a.mantissa : Int) else a.mantissa

/-- The decimal of the opposite sign, also for zero. -/
def negate (a : Decimal) : Decimal :=
  { a with negative := !a.negative }

/-! ### Rounding -/

/-- At most `places` decimals, a half going as the mode says. A shorter decimal stays as it is. -/
def roundTo (a : Decimal) (mode : RoundingMode) (places : Nat) : Decimal :=
  if h : a.scale ≤ places then a
  else
    let mantissa := mode.roundQuotient a.mantissa (10 ^ (a.scale - places))
    { negative := a.negative && mantissa != 0
      mantissa
      scale := places
      mantissa_lt := by
        have hpow : 10 ^ (1 : Nat) ≤ 10 ^ (a.scale - places) :=
          Nat.pow_le_pow_right (by decide) (by omega)
        have := mode.roundQuotient_le (n := a.mantissa) (d := 10 ^ (a.scale - places)) (by omega)
        have := a.mantissa_lt
        omega
      scale_le := by have := a.scale_le; omega }

/-- The same value with one more decimal, if 96 bits and the greatest scale have room for it. -/
def withZero? (a : Decimal) : Option Decimal :=
  if h : 10 * a.mantissa < 2 ^ (96 : Nat) ∧ a.scale < 28 then
    some ⟨a.negative, 10 * a.mantissa, a.scale + 1, h.1, h.2⟩
  else none

/-- Up to `count` zeros at the end, as many as there is room for. -/
def appendZeros (a : Decimal) : Nat → Decimal
  | 0 => a
  | count + 1 =>
    match a.withZero? with
    | some longer => longer.appendZeros count
    | none => a

/-- The decimal with `places` decimals, or with as many as fit. Decimals that are too many are
rounded away, a half going away from zero, and a zero that is left keeps its sign. -/
def rescaled (a : Decimal) (places : Nat) : Decimal :=
  if places < a.scale then { a.roundTo .halfUp places with negative := a.negative }
  else a.appendZeros (places - a.scale)

/-- The value in units of `10 ^ -places`, if it is whole in these units. -/
def inUnits (a : Decimal) (places : Nat) : Int :=
  a.signed * 10 ^ (places - a.scale)

/-! ### Sums and differences -/

/-- The decimal `mantissa / 10 ^ scale`. A mantissa that is too long loses as few decimals as
possible, a half going to the even neighbour; there is no answer when it has none left to lose. -/
def fit? (negative : Bool) (mantissa scale : Nat) : Option Decimal :=
  (List.range (scale + 1)).findSome? fun lost =>
    make? negative (RoundingMode.halfEven.roundQuotient mantissa (10 ^ lost)) (scale - lost)

/-- The sum of two decimals in the finer of their scales. Zero leaves the other one as it is. -/
def add? (a b : Decimal) : Option Decimal :=
  if a.isZero then some b
  else if b.isZero then some a
  else
    let scale := max a.scale b.scale
    let sum := a.inUnits scale + b.inUnits scale
    fit? (sum < 0) sum.natAbs scale

/-- The difference of two decimals in the finer of their scales. From zero, a zero is left as it
is. -/
def sub? (a b : Decimal) : Option Decimal :=
  if b.isZero then add? a b else add? a b.negate

/-! ### Division by a power of ten -/

/-- Take `count` decimals off if they are zeros. -/
def dropZeros (count : Nat) (a : Decimal) : Decimal :=
  if count ≤ a.scale ∧ a.mantissa % 10 ^ count = 0 then
    { a with
      mantissa := a.mantissa / 10 ^ count
      scale := a.scale - count
      mantissa_lt := Nat.lt_of_le_of_lt (Nat.div_le_self _ _) a.mantissa_lt
      scale_le := Nat.le_trans (Nat.sub_le _ _) a.scale_le }
  else a

/-- Take eight decimals off if they are zeros and the mantissa is a multiple of `2 ^ 32`. -/
def dropWord (a : Decimal) : Decimal :=
  if a.mantissa % 2 ^ (32 : Nat) = 0 then a.dropZeros 8 else a

/-- The decimal without zeros at its end. Only seven zeros are looked for, in steps of four, two and
one, unless the mantissa is divisible enough for steps of eight before. -/
def tidied (a : Decimal) : Decimal :=
  a.dropWord.dropWord.dropWord |>.dropZeros 4 |>.dropZeros 2 |>.dropZeros 1

/-- The decimals by which a quotient can be extended: nine at most, as many as the scale and 96 bits
allow. -/
def extension (quotient scale : Nat) : Nat :=
  ((List.range (min 9 (28 - scale) + 1)).reverse.find? fun places =>
    quotient * 10 ^ places < 2 ^ (96 : Nat)).getD 0

/-- The quotient by `10 ^ power`. A mantissa that is divisible keeps its scale. Any other is
extended as far as possible before the division, rounded to an even neighbour where decimals are
left over, and tidied. -/
def divPowerOfTen (a : Decimal) (power : Nat) : Decimal :=
  if a.isZero then zero
  else if a.mantissa % 10 ^ power = 0 then
    { a with
      mantissa := a.mantissa / 10 ^ power
      mantissa_lt := Nat.lt_of_le_of_lt (Nat.div_le_self _ _) a.mantissa_lt }
  else
    let places := extension (a.mantissa / 10 ^ power) a.scale
    let dividend := a.mantissa * 10 ^ places
    let rounded (lost : Nat) : Option Decimal :=
      make? a.negative
        (RoundingMode.halfEven.roundQuotient dividend (10 ^ (power + lost)))
        (a.scale + places - lost)
    (((List.range 2).findSome? rounded).getD zero).tidied

end Decimal

end Promotion
