import Promotion.Rounding

/-!
# Double precision

The finite binary numbers of 53 significant bits, held exactly: every one of them is a whole
multiple of `2 ^ -1074`, and no other arithmetic than that of natural numbers is needed to round a
quotient to the nearest of them.
-/

namespace Promotion

-- Powers are those of the core library, whichever others a theory has in scope.
attribute [local instance (20000)] instPowNat

/-- The bounds on a significand and its shift under which each magnitude has one pair only. -/
def Double.Canonical (significand shift : Nat) : Prop :=
  significand < 2 ^ (53 : Nat) ∧ shift ≤ 2045 ∧ (shift = 0 ∨ 2 ^ (52 : Nat) ≤ significand)

instance (significand shift : Nat) : Decidable (Double.Canonical significand shift) :=
  inferInstanceAs (Decidable (_ ∧ _ ∧ _))

/-- The number `significand * 2 ^ shift / 2 ^ 1074`, with a sign that zero has too. -/
structure Double where
  negative : Bool
  significand : Nat
  shift : Nat
  canonical : Double.Canonical significand shift
deriving DecidableEq, Repr

namespace Double

/-- One as a multiple of the least positive number. -/
def one : Nat := 2 ^ (1074 : Nat)

def zero (negative : Bool) : Double :=
  ⟨negative, 0, 0, by decide⟩

/-- The distance from zero, as a multiple of the least positive number. -/
def magnitude (x : Double) : Nat :=
  x.significand * 2 ^ x.shift

/-- The number itself, as a multiple of the least positive number. -/
def signedMagnitude (x : Double) : Int :=
  if x.negative then -(x.magnitude : Int) else x.magnitude

/-- Zero of either sign. -/
def isZero (x : Double) : Bool :=
  x.significand == 0

/-- The number of a significand and a shift, if they are such a pair. -/
def ofPair? (negative : Bool) (significand shift : Nat) : Option Double :=
  if h : Canonical significand shift then some ⟨negative, significand, shift, h⟩ else none

/-- The number of a significand that was rounded, and may have gained a bit by that. -/
def ofRounded? (negative : Bool) (rounded shift : Nat) : Option Double :=
  if rounded = 2 ^ (53 : Nat) then ofPair? negative (2 ^ (52 : Nat)) (shift + 1)
  else ofPair? negative rounded shift

/-- The number nearest to `num / den`, a half to the even significand; none beyond the range. -/
def ofQuotient (negative : Bool) (num den : Nat) : Option Double :=
  let scaled := num * one
  let shift := (scaled / den).log2 - 52
  ofRounded? negative (RoundingMode.halfEven.roundQuotient scaled (den * 2 ^ shift)) shift

def ofNat? (n : Nat) : Option Double :=
  ofQuotient false n 1

/-- The number nearest to `digits * 10 ^ exponent`. An exponent far beyond the range decides the
answer before any power of ten is formed. -/
def ofDecimal (negative : Bool) (digits : Nat) (exponent : Int) : Option Double :=
  let leading : Int := (Nat.toDigits 10 digits).length + exponent
  if digits = 0 ∨ leading < -340 then some (zero negative)
  else if leading > 320 then none
  else if exponent < 0 then ofQuotient negative digits (10 ^ exponent.natAbs)
  else ofQuotient negative (digits * 10 ^ exponent.natAbs) 1

/-! ### Sums, products and quotients of magnitudes, each rounded once -/

def addMagnitudes (x y : Double) : Option Double :=
  ofQuotient false (x.magnitude + y.magnitude) one

def mulMagnitudes (x y : Double) : Option Double :=
  ofQuotient false (x.magnitude * y.magnitude) (one * one)

def divMagnitudes (x y : Double) : Option Double :=
  ofQuotient false x.magnitude y.magnitude

/-- The whole number nearest to a magnitude, a half going up. -/
def roundMagnitude (x : Double) : Nat :=
  RoundingMode.halfUp.roundQuotient x.magnitude one

def withSign (x : Double) (negative : Bool) : Double :=
  { x with negative }

end Double

end Promotion
