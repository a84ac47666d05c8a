import Mathlib.Data.Nat.Cast.Field
import Promotion.Proofs.Rounded
import Promotion.Proofs.SmallestUnits

/-!
# Amounts given in smallest units

An amount in smallest units is divided by a power of ten when it is taken over, and multiplied by it
when it is read back. The quotient has at most 28 decimals. It is exact where it needs no more, and
else rounded to an even neighbour (`Decimal.rounded_divPowerOfTen`), so that an amount with very
many decimals of its own can be rounded twice (`Money.cents_of_units`).
-/

namespace Promotion

namespace Decimal

variable {a : Decimal} {power places lost quotient : ℕ}

-- ---------------------------------------------------------------------------
-- Zeros at the end
-- ---------------------------------------------------------------------------

theorem toRat_eq_of_zeros {b : Decimal} (count : ℕ) (hsign : a.negative = b.negative)
    (hmantissa : a.mantissa = b.mantissa * 10 ^ count) (hscale : a.scale = b.scale + count) :
    a.toRat = b.toRat := by
  have hsigned : a.signed = b.signed * 10 ^ count := by
    unfold signed
    rw [hsign, hmantissa]
    split <;> push_cast <;> ring
  rw [toRat, toRat, hsigned, hscale, pow_add, Int.cast_mul, Int.cast_pow, Int.cast_ofNat]
  exact mul_div_mul_right _ _ (by positivity)

@[simp] theorem toRat_dropZeros (count : ℕ) (a : Decimal) :
    (a.dropZeros count).toRat = a.toRat := by
  unfold dropZeros
  split
  · rename_i h
    symm
    refine toRat_eq_of_zeros count rfl ?_ ?_
    · exact (Nat.div_mul_cancel (Nat.dvd_of_mod_eq_zero h.2)).symm
    · exact (Nat.sub_add_cancel h.1).symm
  · rfl

@[simp] theorem toRat_dropWord (a : Decimal) : a.dropWord.toRat = a.toRat := by
  unfold dropWord
  split <;> simp

@[simp] theorem toRat_tidied (a : Decimal) : a.tidied.toRat = a.toRat := by
  simp [tidied]

-- ---------------------------------------------------------------------------
-- The extension of a quotient
-- ---------------------------------------------------------------------------

theorem extension_spec (scale : ℕ) (hquotient : quotient < 2 ^ 96) :
    extension quotient scale ≤ min 9 (28 - scale) ∧
      quotient * 10 ^ extension quotient scale < 2 ^ 96 ∧
      ∀ places ≤ min 9 (28 - scale), quotient * 10 ^ places < 2 ^ 96 →
        places ≤ extension quotient scale := by
  unfold extension
  cases hfind : (List.range (min 9 (28 - scale) + 1)).reverse.find? fun places =>
      quotient * 10 ^ places < 2 ^ 96 with
  | none =>
    have hzero := List.find?_eq_none.mp hfind 0 (by simp)
    simp at hzero
    omega
  | some found =>
    have hmem := List.mem_of_find?_eq_some hfind
    obtain ⟨hfits, before, after, hsplit, hbefore⟩ := List.find?_eq_some_iff_append.mp hfind
    have hsorted : (before ++ found :: after).Pairwise (· > ·) := by
      rw [← hsplit, List.pairwise_reverse]
      exact List.pairwise_lt_range
    rw [List.mem_reverse, List.mem_range] at hmem
    refine ⟨Nat.le_of_lt_succ hmem, by simpa using hfits, fun places hle hplaces => ?_⟩
    have hplaces' : places ∈ before ++ found :: after := by
      rw [← hsplit, List.mem_reverse, List.mem_range]
      omega
    rcases List.mem_append.mp hplaces' with hearlier | hlater
    · exact absurd hplaces (by simpa using hbefore places hearlier)
    · rcases List.mem_cons.mp hlater with rfl | hlater
      · exact le_rfl
      · exact (List.rel_of_pairwise_cons (List.pairwise_append.mp hsorted).2.1 hlater).le

/-- A quotient by a power of ten is extended until it is exact or has all decimals there can be. -/
theorem extension_cases (a : Decimal) (hpower : power ≤ 9) :
    let places := extension (a.mantissa / 10 ^ power) a.scale
    a.scale + places ≤ 28 ∧ places ≤ 9 ∧ a.mantissa / 10 ^ power * 10 ^ places < 2 ^ 96 ∧
      (power ≤ places ∨ a.scale + places = 28) := by
  have hmantissa := a.mantissa_lt
  have hscale := a.scale_le
  have hquotient : a.mantissa / 10 ^ power < 2 ^ 96 := (Nat.div_le_self _ _).trans_lt hmantissa
  obtain ⟨hle, hfits, hgreatest⟩ := extension_spec a.scale hquotient
  have hshort : ∀ places ≤ power, a.mantissa / 10 ^ power * 10 ^ places < 2 ^ 96 := by
    intro places hplaces
    calc a.mantissa / 10 ^ power * 10 ^ places ≤ a.mantissa / 10 ^ power * 10 ^ power :=
          Nat.mul_le_mul_left _ (Nat.pow_le_pow_right (by decide) hplaces)
      _ ≤ a.mantissa := Nat.div_mul_le_self _ _
      _ < 2 ^ 96 := hmantissa
  refine ⟨by omega, by omega, hfits, ?_⟩
  rcases Nat.le_total power (min 9 (28 - a.scale)) with hroom | hroom
  · exact .inl (hgreatest power hroom (hshort power le_rfl))
  · have hall := hgreatest _ le_rfl (hshort _ hroom)
    omega

-- ---------------------------------------------------------------------------
-- Quotients
-- ---------------------------------------------------------------------------

/-- The quotient of an extended mantissa by a power of ten, with decimals taken off again. -/
def quotient? (a : Decimal) (power places lost : ℕ) : Option Decimal :=
  make? a.negative
    (RoundingMode.halfEven.roundQuotient (a.mantissa * 10 ^ places) (10 ^ (power + lost)))
    (a.scale + places - lost)

theorem divPowerOfTen_eq (hzero : ¬a.isZero) (hdvd : ¬a.mantissa % 10 ^ power = 0) :
    a.divPowerOfTen power =
      let places := extension (a.mantissa / 10 ^ power) a.scale
      (((a.quotient? power places 0).or (a.quotient? power places 1)).getD zero).tidied := by
  rw [divPowerOfTen, if_neg hzero, if_neg hdvd]
  have hrange : List.range 2 = [0] ++ [1] := rfl
  simp only [hrange, List.findSome?_append, List.findSome?_singleton, quotient?]

/-- A quotient is made as an approximation with a number of decimals, if there is room for it. -/
theorem quotient?_cases (hlost : lost ≤ places) (hscale : a.scale + places ≤ 28 + lost) :
    (a.quotient? power places lost = none ∧
        ∀ m < 2 ^ 96, ¬a.mantissa * 10 ^ places ≤ m * 10 ^ (power + lost)) ∨
      ∃ r, a.quotient? power places lost = some r ∧ r.scale = a.scale + places - lost ∧
        RoundingMode.halfEven.Rounded r.scale (a.toRat / 10 ^ power) r.toRat := by
  have hdivisor : 0 < 10 ^ (power + lost) := Nat.pow_pos (by decide)
  rcases make?_roundQuotient_cases .halfEven a.negative (a.mantissa * 10 ^ places) hdivisor
    (show a.scale + places - lost ≤ 28 by omega) with
    ⟨hnone, n, hn, hgreat⟩ | ⟨r, hr, hscale, hnearest⟩
  · refine .inl ⟨hnone, fun m hm hle => ?_⟩
    have hbound : |ofMagnitude a.negative
        ((a.mantissa * 10 ^ places : ℕ) / (10 ^ (power + lost) : ℕ))| ≤ (m : ℤ) := by
      rw [abs_ofMagnitude, abs_of_nonneg (by positivity), div_le_iff₀ (by positivity)]
      exact_mod_cast hle
    have := hn.abs_le hbound
    omega
  · refine .inr ⟨r, hr, hscale, r.signed, ?_, r.toRat_mul_scale⟩
    have hpow : (10 : ℚ) ^ r.scale * 10 ^ lost = 10 ^ a.scale * 10 ^ places := by
      rw [hscale, ← pow_add, ← pow_add]
      congr 1
      omega
    have hquotient : (a.mantissa / 10 ^ a.scale / 10 ^ power * 10 ^ r.scale : ℚ) =
        (a.mantissa * 10 ^ places : ℕ) / (10 ^ (power + lost) : ℕ) := by
      push_cast
      rw [pow_add, div_div, div_mul_eq_mul_div, div_eq_div_iff (by positivity) (by positivity)]
      linear_combination (a.mantissa * 10 ^ power : ℚ) * hpow
    rw [toRat_eq_ofMagnitude, ofMagnitude_div, ofMagnitude_mul, hquotient]
    exact hnearest

theorem toRat_div_mul_of_le (h : a.scale + power ≤ places) :
    a.toRat / 10 ^ power * 10 ^ places = a.inUnits (places - power) := by
  have hpow : (10 : ℚ) ^ places = 10 ^ (places - power) * 10 ^ power :=
    (pow_sub_mul_pow 10 (by omega)).symm
  rw [← toRat_mul_of_le (by omega), hpow]
  field_simp

/-- A quotient with all decimals there can be is rounded once, one with all it needs is exact. -/
theorem rounded_of_quotient {r : Decimal}
    (h : RoundingMode.halfEven.Rounded r.scale (a.toRat / 10 ^ power) r.toRat)
    (hscale : a.scale + power ≤ r.scale ∨ r.scale = 28) :
    RoundingMode.halfEven.Rounded 28 (a.toRat / 10 ^ power) r.toRat := by
  rcases hscale with henough | hall
  · rw [← h.eq_of_whole (toRat_div_mul_of_le henough)]
    exact RoundingMode.rounded_of_whole (toRat_mul_of_le r.scale_le)
  · rwa [hall] at h

theorem toRat_divPowerOfTen_of_dvd (hdvd : 10 ^ power ∣ a.mantissa) :
    (a.divPowerOfTen power).toRat = a.toRat / 10 ^ power := by
  unfold divPowerOfTen
  split_ifs with hzero hmod
  · have hmantissa : a.mantissa = 0 := by simpa [isZero] using hzero
    simp [toRat, zero, signed, hmantissa]
  · rw [toRat_eq_ofMagnitude, toRat_eq_ofMagnitude, ofMagnitude_div,
      Nat.cast_div_charZero hdvd, Nat.cast_pow, Nat.cast_ofNat, div_right_comm]
  · exact absurd (Nat.mod_eq_zero_of_dvd hdvd) hmod

/-- Where one more digit than 96 bits have room for is left in the mantissa, one decimal is taken
off, and then there is room. -/
theorem extended_mantissa_le {mantissa : ℕ} (hplaces : 0 < places) (hle : places ≤ 9)
    (hfits : mantissa / 10 ^ power * 10 ^ places < 2 ^ 96) :
    ∃ m < 2 ^ 96, mantissa * 10 ^ places ≤ m * 10 ^ (power + 1) := by
  obtain ⟨less, rfl⟩ : ∃ less, places = less + 1 := ⟨places - 1, by omega⟩
  have hsmall : 10 ^ less ≤ 10 ^ 8 := Nat.pow_le_pow_right (by decide) (by omega)
  have hmantissa : mantissa ≤ (mantissa / 10 ^ power + 1) * 10 ^ power := by
    rw [Nat.mul_comm]
    exact (Nat.lt_mul_div_succ mantissa (Nat.pow_pos (by decide))).le
  refine ⟨(mantissa / 10 ^ power + 1) * 10 ^ less, ?_, ?_⟩
  · rw [Nat.pow_succ, ← Nat.mul_assoc] at hfits
    rw [Nat.add_mul]
    omega
  · calc mantissa * 10 ^ (less + 1) ≤ (mantissa / 10 ^ power + 1) * 10 ^ power * 10 ^ (less + 1) :=
          Nat.mul_le_mul_right _ hmantissa
      _ = (mantissa / 10 ^ power + 1) * 10 ^ less * 10 ^ (power + 1) := by ring

/-- A decimal divided by a power of ten is rounded to 28 decimals. -/
theorem rounded_divPowerOfTen (a : Decimal) (hpower : power ≤ 9) :
    RoundingMode.halfEven.Rounded 28 (a.toRat / 10 ^ power) (a.divPowerOfTen power).toRat := by
  by_cases hdvd : 10 ^ power ∣ a.mantissa
  · rw [← toRat_divPowerOfTen_of_dvd hdvd]
    exact RoundingMode.rounded_of_whole (toRat_mul_of_le (scale_le _))
  have hzero : ¬a.isZero := by
    intro hzero
    have hmantissa : a.mantissa = 0 := by simpa [isZero] using hzero
    exact hdvd (hmantissa ▸ Nat.dvd_zero _)
  obtain ⟨hroom, hle, hfits, henough⟩ := extension_cases a hpower
  rw [divPowerOfTen_eq hzero (fun hmod => hdvd (Nat.dvd_of_mod_eq_zero hmod))]
  generalize extension (a.mantissa / 10 ^ power) a.scale = places at hroom hle hfits henough ⊢
  rcases quotient?_cases (Nat.zero_le places) hroom with
    ⟨hnone, hgreat⟩ | ⟨r, hr, hscale, hrounded⟩
  · have hlonger : power < places := by
      by_contra! hshort
      apply hgreat a.mantissa a.mantissa_lt
      exact Nat.mul_le_mul_left _ (Nat.pow_le_pow_right (by decide) hshort)
    rcases quotient?_cases (show 1 ≤ places by omega) (hroom.trans (Nat.le_succ 28)) with
      ⟨-, hgreat'⟩ | ⟨r, hr, hscale, hrounded⟩
    · obtain ⟨m, hm, hle'⟩ := extended_mantissa_le (by omega) hle hfits
      exact absurd hle' (hgreat' m hm)
    · simp only [hnone, hr, Option.none_or, Option.getD_some, toRat_tidied]
      exact rounded_of_quotient hrounded (by omega)
  · simp only [hr, Option.some_or, Option.getD_some, toRat_tidied]
    exact rounded_of_quotient hrounded (by omega)

end Decimal

namespace Money

-- ---------------------------------------------------------------------------
-- Smallest units
-- ---------------------------------------------------------------------------

/-- An amount in smallest units holds them up to the decimals that its own have left over. -/
theorem rounded_held (currency : String) (units : Decimal) :
    let digits := fractionDigits currency
    RoundingMode.halfEven.Rounded (28 - digits) units.toRat
      ((Money.of .cent currency units).amount.toRat * 10 ^ digits) := by
  intro digits
  have hle : digits ≤ 3 := fractionDigits_le currency
  have hrounded := units.rounded_divPowerOfTen (hle.trans (by decide))
  have hshift := hrounded.shift (hle.trans (by decide))
  rwa [div_mul_cancel₀ _ (by positivity)] at hshift

/-- An amount given in smallest units holds that number of them with as many decimals as there can
be. Reading it back rounds to the nearest whole number, which is a second rounding where the first
has lost decimals: only where that has led to a half can the number be another one than is nearest
to the units that were given. A whole number of units comes back as it was. -/
theorem cents_of_units (currency : String) (mode : RoundingMode) (units : Decimal) :
    let digits := fractionDigits currency
    let money := (Money.of .cent currency units).roundedWith mode
    let held := money.amount.toRat * 10 ^ digits
    RoundingMode.halfEven.Rounded (28 - digits) units.toRat held ∧
      (units.scale + digits ≤ 28 → held = units.toRat) ∧
      (∃ n : ℤ, mode.Nearest held n ∧
        money.cents =
          (if -2 ^ 63 ≤ n ∧ n < 2 ^ 63 then .ok n else .error (.overflow currency)) ∧
        (held = units.toRat ∨ (∀ k : ℤ, held ≠ k + 1 / 2) → mode.Nearest units.toRat n)) ∧
      ∀ i : ℤ, units.toRat = i → -2 ^ 63 ≤ i → i < 2 ^ 63 → money.cents = .ok i := by
  intro digits money held
  have hdigits : digits ≤ 3 := fractionDigits_le currency
  have hheld : RoundingMode.halfEven.Rounded (28 - digits) units.toRat held :=
    rounded_held currency units
  have hnearest := money.amount.nearest_inUnits_roundTo mode digits
  refine ⟨hheld, fun hscale => ?_, ⟨_, hnearest, cents_of_nearest hnearest, fun hsame => ?_⟩,
    fun i hi hlow hhigh => ?_⟩
  · exact hheld.eq_of_whole (Decimal.toRat_mul_of_le (by omega))
  · rcases hsame with hexact | hhalf
    · exact hexact ▸ hnearest
    · exact hnearest.of_rounded hheld (by omega) hhalf
  · have hexact : held = units.toRat :=
      hheld.eq_of_whole (n := i * 10 ^ (28 - digits)) (by rw [hi]; push_cast; rfl)
    have hwhole : mode.Nearest held i := by
      rw [hexact, hi]
      exact RoundingMode.nearest_intCast i
    rw [cents_of_nearest hwhole, if_pos ⟨hlow, hhigh⟩]

/-- Of 28 decimals of a unit, three are lost in a currency that has three itself. Rounding to whole
units leads where it would with all of them. -/
theorem cents_of_units_of_long_fraction :
    let units : Decimal := ⟨false, 12345678901234567890123456789, 28, by decide, by decide⟩
    let least : Decimal := ⟨true, 2 ^ 63, 0, by decide, by decide⟩
    RoundingMode.halfUp.Nearest units.toRat 1 ∧
      ((Money.of .cent "KWD" units).roundedWith .halfUp).cents = .ok 1 ∧
      least.toRat = (-2 ^ 63 : ℤ) ∧
      ((Money.of .cent "EUR" least).roundedWith .halfDown).cents = .ok (-2 ^ 63) := by
  intro units least
  have hamount : (Money.of .cent "KWD" units).amount =
      ⟨false, 12345678901234567890123457, 28, by decide, by decide⟩ := by decide
  have hleast : least.toRat = (-2 ^ 63 : ℤ) := by norm_num [least, Decimal.toRat, Decimal.signed]
  have hnearest : RoundingMode.halfUp.Nearest units.toRat 1 :=
    RoundingMode.nearest_of_abs_sub_lt
      (by norm_num [units, Decimal.toRat, Decimal.signed, abs_of_pos])
  obtain ⟨-, -, ⟨n, -, hcents, hsame⟩, -⟩ := cents_of_units "KWD" .halfUp units
  obtain ⟨-, -, -, hwhole⟩ := cents_of_units "EUR" .halfDown least
  have hone : n = 1 := by
    refine (hsame (.inr fun k hk => ?_)).unique hnearest
    have hheld : (12345678901234567890123457 : ℚ) * 2 = (2 * k + 1) * 10 ^ 25 := by
      rw [roundedWith, hamount, show fractionDigits "KWD" = 3 by decide] at hk
      norm_num [Decimal.toRat, Decimal.signed] at hk
      linarith
    have hwhole : (12345678901234567890123457 : ℤ) * 2 = (2 * k + 1) * 10 ^ 25 := by
      exact_mod_cast hheld
    omega
  rw [hone] at hcents
  exact ⟨hnearest, hcents, hleast, hwhole _ hleast (by decide) (by decide)⟩

/-- A fraction of a cent just above a half is held as a half, and goes to the even neighbour. -/
theorem not_forall_units_rounded_once :
    ¬∀ (currency : String) (mode : RoundingMode) (units : Decimal) (n : ℤ),
      mode.Nearest units.toRat n → -2 ^ 63 ≤ n → n < 2 ^ 63 →
        ((Money.of .cent currency units).roundedWith mode).cents = .ok n := by
  intro h
  let units : Decimal := ⟨false, 5000000000000000000000000001, 28, by decide, by decide⟩
  have hnearest : RoundingMode.halfEven.Nearest units.toRat 1 :=
    RoundingMode.nearest_of_abs_sub_lt
      (by norm_num [units, Decimal.toRat, Decimal.signed, abs_of_neg])
  have hcents : ((Money.of .cent "EUR" units).roundedWith .halfEven).cents = .ok 0 := by decide
  rw [h "EUR" .halfEven units 1 hnearest (by decide) (by decide)] at hcents
  cases hcents

end Money

end Promotion
