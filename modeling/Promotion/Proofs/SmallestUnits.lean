import Promotion.Money
import Promotion.Proofs.Nearest

/-!
# Amounts in smallest units

An amount is rounded to the decimals of its currency, and zeros are appended to it until it has all
of them. There may be no room for the zeros, but only where the number of smallest units is beyond
64 bits in any case (`Money.cents_eq`). So that number is the whole number nearest to the amount, or
does not fit (`Money.cents_eq_nearest`).
-/

namespace Promotion

theorem fractionDigits_le (currency : String) : fractionDigits currency ≤ 3 := by
  unfold fractionDigits
  split_ifs <;> omega

namespace Decimal

variable {a : Decimal} {places count : ℕ}

-- ---------------------------------------------------------------------------
-- Appended zeros
-- ---------------------------------------------------------------------------

theorem of_withZero? {longer : Decimal} (h : a.withZero? = some longer) :
    longer.signed = a.signed * 10 ∧ longer.scale = a.scale + 1 := by
  unfold withZero? at h
  split at h
  · cases h
    refine ⟨?_, rfl⟩
    simp only [signed, Nat.cast_mul, Nat.cast_ofNat]
    split <;> omega
  · cases h

theorem le_of_withZero?_eq_none (hscale : a.scale < 28) (h : a.withZero? = none) :
    2 ^ 96 ≤ 10 * a.mantissa := by
  unfold withZero? at h
  split at h
  · cases h
  · omega

/-- As many zeros are appended as were asked for, or as there is room for in the mantissa. -/
theorem exists_signed_appendZeros (h : a.scale + count ≤ 28) :
    ∃ added ≤ count, (a.appendZeros count).signed = a.signed * 10 ^ added ∧
      (added < count → 2 ^ 96 ≤ 10 * (a.appendZeros count).signed.natAbs) := by
  induction count generalizing a with
  | zero => exact ⟨0, le_rfl, by simp [appendZeros], by simp⟩
  | succ count ih =>
    rw [appendZeros]
    cases hzero : a.withZero? with
    | some longer =>
      obtain ⟨hlonger, hscale⟩ := of_withZero? hzero
      have hroom : longer.scale + count ≤ 28 := by omega
      obtain ⟨added, hle, hsigned, hfull⟩ := ih hroom
      refine ⟨added + 1, by omega, ?_, fun hlt => hfull (by omega)⟩
      simp only [hsigned, hlonger, mul_assoc, pow_succ']
    | none =>
      have hfull := le_of_withZero?_eq_none (by omega) hzero
      exact ⟨0, Nat.zero_le _, by simp, fun _ => by rwa [natAbs_signed]⟩

/-- A decimal gets all the zeros it needs, or it does not get them all because its mantissa is full
before. -/
theorem signed_rescaled_cases (hscale : a.scale ≤ places) (hplaces : places ≤ 28) :
    (a.rescaled places).signed = a.inUnits places ∨
      2 ^ 96 ≤ 10 * (a.rescaled places).signed.natAbs ∧
        (a.rescaled places).signed.natAbs ≤ (a.inUnits places).natAbs := by
  have hroom : a.scale + (places - a.scale) ≤ 28 := by omega
  obtain ⟨added, hle, hsigned, hfull⟩ := exists_signed_appendZeros hroom
  rw [rescaled, if_neg (by omega), inUnits]
  rcases hle.eq_or_lt with rfl | hlt
  · exact .inl hsigned
  · refine .inr ⟨hfull hlt, ?_⟩
    rw [hsigned, Int.natAbs_mul, Int.natAbs_mul, Int.natAbs_pow, Int.natAbs_pow]
    exact Nat.mul_le_mul_left _ (Nat.pow_le_pow_right (by decide) hle)

theorem scale_roundTo_le (a : Decimal) (mode : RoundingMode) (places : ℕ) :
    (a.roundTo mode places).scale ≤ places := by
  unfold roundTo
  split
  · assumption
  · exact le_rfl

end Decimal

namespace Money

-- ---------------------------------------------------------------------------
-- Smallest units
-- ---------------------------------------------------------------------------

/-- Zeros for which there is no room make no difference: the number of smallest units is the rounded
amount in units of the currency's last decimal, if it fits. -/
theorem cents_eq (m : Money) :
    m.cents =
      let digits := fractionDigits m.currency
      let units := (m.amount.roundTo m.rounding digits).inUnits digits
      if -2 ^ 63 ≤ units ∧ units < 2 ^ 63 then .ok units else .error (.overflow m.currency) := by
  have hplaces : fractionDigits m.currency ≤ 28 := (fractionDigits_le _).trans (by decide)
  rcases Decimal.signed_rescaled_cases (m.amount.scale_roundTo_le m.rounding _) hplaces with
    hsame | ⟨hfull, hle⟩
  · rw [cents, hsame]
  · rw [cents, if_neg (by omega), if_neg (by omega)]

theorem cents_of_nearest {m : Money} {n : ℤ}
    (h : m.rounding.Nearest (m.amount.toRat * 10 ^ fractionDigits m.currency) n) :
    m.cents = if -2 ^ 63 ≤ n ∧ n < 2 ^ 63 then .ok n else .error (.overflow m.currency) := by
  have hunits := m.amount.nearest_inUnits_roundTo m.rounding (fractionDigits m.currency)
  rw [cents_eq, h.unique hunits]

/-- The number of smallest units is the whole number nearest to the amount, where the mode decides
between two that are equally near, and a fault exactly if that number does not fit 64 bits. -/
theorem cents_eq_nearest (m : Money) :
    ∃ n : ℤ,
      (∀ k, m.rounding.Nearest (m.amount.toRat * 10 ^ fractionDigits m.currency) k ↔ k = n) ∧
        m.cents =
          if -2 ^ 63 ≤ n ∧ n ≤ 2 ^ 63 - 1 then .ok n else .error (.overflow m.currency) := by
  have hnearest := m.amount.nearest_inUnits_roundTo m.rounding (fractionDigits m.currency)
  refine ⟨_, fun k => hnearest.iff_eq, ?_⟩
  simp only [cents_of_nearest hnearest, Int.le_sub_one_iff]

end Money

end Promotion
