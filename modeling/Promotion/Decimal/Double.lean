import Promotion.Decimal.Basic
import Promotion.Number.Double

/-!
# Decimals as doubles

The double that stands for a decimal: the whole part and the fraction are taken over on their own,
added, and the sum is rounded to the decimals there were.
-/

namespace Promotion

-- Powers are those of the core library, whichever others a theory has in scope.
attribute [local instance (20000)] instPowNat

namespace Decimal

def magnitudeDouble? (a : Decimal) : Option Double := do
  let unit := 10 ^ a.scale
  let whole ← Double.ofNat? (a.mantissa / unit)
  let unitDouble ← Double.ofNat? unit
  let fraction ← (← Double.ofNat? (a.mantissa % unit)).divMagnitudes unitDouble
  if fraction.isZero then some whole
  else
    let sum ← whole.addMagnitudes fraction
    let scaled ← sum.mulMagnitudes unitDouble
    (← Double.ofNat? scaled.roundMagnitude).divMagnitudes unitDouble

/-- The double that stands for a decimal; a whole zero has no sign. -/
def toDouble (a : Decimal) : Double :=
  match a.magnitudeDouble? with
  | some x => x.withSign (a.negative && !(a.isZero && a.scale == 0))
  | none => .zero false

end Decimal

end Promotion
