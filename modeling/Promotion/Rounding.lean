/-!
# Rounding a quotient

A quotient of natural numbers is rounded to the nearest whole number. The mode decides only where
the quotient lies halfway between two.
-/

namespace Promotion

/-- What becomes of a value halfway between two neighbours. -/
inductive RoundingMode where
  /-- The even neighbour. -/
  | halfEven
  /-- The neighbour farther from zero. -/
  | halfUp
  /-- The neighbour nearer to zero. -/
  | halfDown
deriving DecidableEq, Repr

namespace RoundingMode

/-- Whether a half above the whole number `whole` goes up. -/
def liftsHalf (mode : RoundingMode) (whole : Nat) : Bool :=
  match mode with
  | halfEven => whole % 2 == 1
  | halfUp => true
  | halfDown => false

/-- The whole number nearest to `n / d`. -/
def roundQuotient (mode : RoundingMode) (n d : Nat) : Nat :=
  let whole := n / d
  let twice := 2 * (n % d)
  if d < twice ∨ (twice = d ∧ mode.liftsHalf whole) then whole + 1 else whole

/-- A quotient by two or more is never rounded beyond its dividend. -/
theorem roundQuotient_le (mode : RoundingMode) {n d : Nat} (hd : 2 ≤ d) :
    mode.roundQuotient n d ≤ n := by
  have hle : n / d ≤ n / 2 := Nat.div_le_div_left hd (by omega)
  have hmod : n % d ≤ n := Nat.mod_le n d
  simp only [roundQuotient]
  split <;> omega

end RoundingMode

end Promotion
