import Promotion.Proofs.SmallestUnits
import Promotion.Proofs.Sums

/-!
# Sums rounded early and late, differences taken both ways

Rounding to smallest units leaves nothing for a second rounding to do, so it makes no difference to
the cents whether a sum is rounded when it is made or when it is read. Rounding does not depend on
the sign, and what an operation brings is determined by its exact result (`Decimal.Brings.unique`).
So the difference of two amounts taken the other way round is the same amount of the other sign,
also where decimals are lost (`Money.rounded_late_and_taken_back`).
-/

namespace Promotion

namespace Decimal

variable {a b kept other : Decimal} {q : ℚ} {brought : Option Decimal}

-- ---------------------------------------------------------------------------
-- What is brought
-- ---------------------------------------------------------------------------

theorem roundTo_roundTo (a : Decimal) (mode : RoundingMode) (places : ℕ) :
    (a.roundTo mode places).roundTo mode places = a.roundTo mode places :=
  dif_pos (a.scale_roundTo_le mode places)

theorem IsValue.neg (h : IsValue q) : IsValue (-q) := by
  obtain ⟨a, rfl⟩ := h
  exact ⟨a.negate, a.toRat_negate⟩

/-- A decimal with fewer decimals than another one would keep one more if it could. -/
theorem Keeps.toRat_eq_of_lt (h : Keeps q kept) (h' : Keeps q other)
    (hlt : kept.scale < other.scale) : kept.toRat = other.toRat := by
  rcases h.finest with hexact | ⟨n, hn, hgreat⟩
  · exact hexact.trans (h'.toRat_eq_iff.mpr ⟨kept, hexact⟩).symm
  · exact absurd (h'.abs_lt_of_le hlt hn) (not_lt.mpr hgreat)

theorem Keeps.toRat_unique (h : Keeps q kept) (h' : Keeps q other) :
    kept.toRat = other.toRat := by
  rcases lt_trichotomy kept.scale other.scale with hlt | heq | hgt
  · exact h.toRat_eq_of_lt h' hlt
  · exact h.rounded.unique (heq ▸ h'.rounded)
  · exact (h'.toRat_eq_of_lt h hgt).symm

/-- An exact result decides whether anything is brought, and which number it is. -/
theorem Brings.unique {brought' : Option Decimal} (h : Brings q brought) (h' : Brings q brought') :
    Option.Rel (fun r s => r.toRat = s.toRat) brought brought' := by
  cases h with
  | kept h =>
    cases h' with
    | kept h' => exact .some (h.toRat_unique h')
    | tooGreat hn hgreat => exact absurd (h.abs_lt hn) (not_lt.mpr hgreat)
  | tooGreat hn hgreat =>
    cases h' with
    | kept h' => exact absurd (h'.abs_lt hn) (not_lt.mpr hgreat)
    | tooGreat => exact .none

theorem Keeps.neg (h : Keeps q kept) : Keeps (-q) kept.negate := by
  refine ⟨?_, ?_⟩
  · rw [toRat_negate]
    exact h.rounded.neg
  · rw [toRat_negate, neg_inj]
    refine h.finest.imp_right ?_
    rintro ⟨n, hn, hgreat⟩
    refine ⟨-n, ?_, by rwa [abs_neg]⟩
    rw [neg_mul]
    exact hn.neg

theorem Brings.neg (h : Brings q brought) : Brings (-q) (brought.map negate) := by
  cases h with
  | kept h => exact .kept h.neg
  | tooGreat hn hgreat => exact .tooGreat hn.neg (by rwa [abs_neg])

/-- A difference taken the other way round has the other sign. -/
theorem sub?_rel_sub? (a b : Decimal) :
    Option.Rel (fun r s => s.toRat = -r.toRat) (a.sub? b) (b.sub? a) := by
  have hback : Brings (a.toRat - b.toRat) ((b.sub? a).map negate) := by
    rw [← neg_sub]
    exact (brings_sub? b a).neg
  have hsame := (brings_sub? a b).unique hback
  generalize a.sub? b = there at hsame
  generalize b.sub? a = back at hsame
  cases back with
  | none =>
    cases hsame
    exact .none
  | some s =>
    cases hsame with
    | some heq =>
      refine .some ?_
      rw [heq, toRat_negate, neg_neg]

end Decimal

namespace Money

variable {m a b r s : Money}

-- ---------------------------------------------------------------------------
-- Outcomes side by side
-- ---------------------------------------------------------------------------

/-- Two operations fail with the same fault, or their results are related. -/
inductive Alike (related : Money → Money → Prop) :
    Except MoneyFault Money → Except MoneyFault Money → Prop
  | failed (fault : MoneyFault) : Alike related (.error fault) (.error fault)
  | given {r s : Money} (h : related r s) : Alike related (.ok r) (.ok s)

/-- The amounts are the same number of cents, or both do not fit. -/
def SameCents (r s : Money) : Prop :=
  r.cents = s.cents

/-- `s` is `r` with the opposite amount. -/
structure Opposite (r s : Money) : Prop where
  amount : s.amount.toRat = -r.amount.toRat
  currency : s.currency = r.currency
  precision : s.precision = r.precision
  rounding : s.rounding = r.rounding

-- ---------------------------------------------------------------------------
-- Sums and differences
-- ---------------------------------------------------------------------------

/-- An amount that was rounded to smallest units is read as if it had not been. -/
theorem cents_withResult (m : Money) (raw : Decimal) :
    SameCents (m.withResult raw .cent) (m.withResult raw .decimal) := by
  unfold SameCents cents withResult
  dsimp only
  rw [Decimal.roundTo_roundTo]

theorem alike_combine_precision (op : Decimal → Decimal → Option Decimal) (a b : Money) :
    Alike SameCents (combine op a b .cent) (combine op a b .decimal) := by
  unfold combine
  split
  · cases op a.amount b.amount with
    | none => exact .failed _
    | some raw => exact .given (a.cents_withResult raw)
  · exact .failed _

theorem opposite_withResult {raw back : Decimal} (hcurrency : a.currency = b.currency)
    (hrounding : a.rounding = b.rounding) (h : back.toRat = -raw.toRat) (precision : Precision) :
    Opposite (a.withResult raw precision) (b.withResult back precision) := by
  refine ⟨?_, hcurrency.symm, rfl, hrounding.symm⟩
  cases precision with
  | decimal => exact h
  | cent =>
    have hraw := raw.rounded_roundTo a.rounding (fractionDigits a.currency)
    have hback := back.rounded_roundTo a.rounding (fractionDigits a.currency)
    rw [h] at hback
    simp only [withResult, ← hcurrency, ← hrounding]
    exact hback.unique hraw.neg

theorem alike_subtract (hcurrency : a.currency = b.currency) (hrounding : a.rounding = b.rounding)
    (precision : Precision) :
    Alike Opposite (a.subtract b precision) (b.subtract a precision) := by
  have hback := a.amount.sub?_rel_sub? b.amount
  rw [subtract, subtract, combine, combine, if_pos hcurrency, if_pos hcurrency.symm]
  generalize a.amount.sub? b.amount = there at hback
  generalize b.amount.sub? a.amount = back at hback
  cases hback with
  | none => exact hcurrency ▸ .failed _
  | some h => exact .given (opposite_withResult hcurrency hrounding h precision)

/-- Whether a sum or a difference is rounded to smallest units at once or only when it is read makes
no difference to the cents. Taken the other way round, a difference is the opposite amount. -/
theorem rounded_late_and_taken_back (a b : Money) :
    Alike SameCents (a.add b .cent) (a.add b .decimal) ∧
      Alike SameCents (a.subtract b .cent) (a.subtract b .decimal) ∧
      (a.currency = b.currency → a.rounding = b.rounding →
        ∀ precision, Alike Opposite (a.subtract b precision) (b.subtract a precision)) :=
  ⟨alike_combine_precision _ a b, alike_combine_precision _ a b, alike_subtract⟩

/-- Twelve and a half cents below zero, by a mode that rounds halves towards zero. -/
theorem rounded_late_and_taken_back_below_zero :
    let a := (Money.of .decimal "EUR" ⟨false, 12, 2, by decide, by decide⟩).roundedWith .halfDown
    let b := (Money.of .decimal "EUR" ⟨false, 245, 3, by decide, by decide⟩).roundedWith .halfDown
    a.currency = b.currency ∧ a.rounding = b.rounding ∧
      a.subtract b .cent =
        .ok { a with amount := ⟨true, 12, 2, by decide, by decide⟩, precision := .cent } ∧
      Alike SameCents (a.subtract b .cent) (a.subtract b .decimal) ∧
      Alike Opposite (a.subtract b .cent) (b.subtract a .cent) := by
  intro a b
  obtain ⟨-, hlate, hback⟩ := rounded_late_and_taken_back a b
  exact ⟨rfl, rfl, by decide, hlate, hback rfl rfl .cent⟩

end Money

end Promotion
