import Mathlib.Data.List.TakeWhile
import Promotion.Number.Reading
import Promotion.Proofs.Nearest
import Promotion.Proofs.Numeral

/-!
# Whole numbers as doubles

A quotient within the range is taken to a double whose significand is the nearest whole number of
units, the unit being the power of two that leaves 53 bits (`Double.exists_ofQuotient`). The digits
of a whole number are read as the number first, so that it is rounded once
(`Double.read?_numeral`).
-/

namespace Promotion

namespace RoundingMode

theorem div_le_roundQuotient (mode : RoundingMode) (n d : ℕ) : n / d ≤ mode.roundQuotient n d := by
  unfold roundQuotient
  dsimp only
  split <;> omega

theorem roundQuotient_le_div_add_one (mode : RoundingMode) (n d : ℕ) :
    mode.roundQuotient n d ≤ n / d + 1 := by
  unfold roundQuotient
  dsimp only
  split <;> omega

end RoundingMode

namespace Double

variable {negative : Bool} {num den shift n : ℕ}

-- ---------------------------------------------------------------------------
-- Quotients
-- ---------------------------------------------------------------------------

/-- What is left of a number without all but 53 of its bits. -/
theorem div_two_pow_bounds (n : ℕ) :
    n / 2 ^ (n.log2 - 52) < 2 ^ 53 ∧ (n.log2 - 52 = 0 ∨ 2 ^ 52 ≤ n / 2 ^ (n.log2 - 52)) := by
  have hpos : 0 < 2 ^ (n.log2 - 52) := Nat.two_pow_pos _
  rw [Nat.div_lt_iff_lt_mul hpos, Nat.le_div_iff_mul_le hpos, ← Nat.pow_add, ← Nat.pow_add]
  constructor
  · calc n < 2 ^ (n.log2 + 1) := Nat.lt_log2_self
      _ ≤ 2 ^ (53 + (n.log2 - 52)) := Nat.pow_le_pow_right two_pos (by omega)
  · by_cases hshort : n.log2 ≤ 52
    · exact .inl (by omega)
    · have hne : n ≠ 0 := by
        rintro rfl
        exact hshort (by simp)
      have hbits : 52 + (n.log2 - 52) = n.log2 := by omega
      rw [hbits]
      exact .inr (Nat.log2_self_le hne)

/-- A significand rounded to 53 bits, or to the least number of one bit more, has a number. -/
theorem exists_ofRounded? (negative : Bool) {rounded : ℕ} (hrange : shift < 2045)
    (hle : rounded ≤ 2 ^ 53) (hfull : shift = 0 ∨ 2 ^ 52 ≤ rounded) :
    ∃ x, ofRounded? negative rounded shift = some x ∧ x.negative = negative ∧
      x.magnitude = rounded * 2 ^ shift := by
  unfold ofRounded?
  by_cases hcarry : rounded = 2 ^ 53
  · have hcanonical : Canonical (2 ^ 52) (shift + 1) := ⟨by decide, hrange, .inr (Nat.le_refl _)⟩
    rw [if_pos hcarry, ofPair?, dif_pos hcanonical]
    refine ⟨_, rfl, rfl, ?_⟩
    rw [hcarry, magnitude, Nat.pow_succ 2 shift, Nat.mul_comm (2 ^ shift), ← Nat.mul_assoc,
      ← Nat.pow_succ]
  · have hcanonical : Canonical rounded shift :=
      ⟨Nat.lt_of_le_of_ne hle hcarry, by omega, hfull⟩
    rw [if_neg hcarry, ofPair?, dif_pos hcanonical]
    exact ⟨_, rfl, rfl, rfl⟩

/-- A quotient within the range is taken to the double that is nearest to it. -/
theorem exists_ofQuotient (negative : Bool) (hden : 0 < den)
    (hshift : (num * one / den).log2 - 52 = shift) (hrange : shift < 2045) :
    ∃ x k, ofQuotient negative num den = some x ∧ x.negative = negative ∧
      x.magnitude = k * 2 ^ shift ∧
      RoundingMode.halfEven.Nearest ((num * one : ℕ) / (den * 2 ^ shift : ℕ)) (k : ℕ) := by
  have hunit : 0 < den * 2 ^ shift := Nat.mul_pos hden (Nat.two_pow_pos _)
  have hlow := RoundingMode.halfEven.div_le_roundQuotient (num * one) (den * 2 ^ shift)
  have hhigh := RoundingMode.halfEven.roundQuotient_le_div_add_one (num * one) (den * 2 ^ shift)
  obtain ⟨hbits, hfull⟩ := div_two_pow_bounds (num * one / den)
  rw [hshift, Nat.div_div_eq_div_mul] at hbits hfull
  obtain ⟨x, hx, hsign, hmagnitude⟩ := exists_ofRounded? negative hrange
    (hhigh.trans hbits) (hfull.imp_right fun h => h.trans hlow)
  refine ⟨x, _, ?_, hsign, hmagnitude, RoundingMode.halfEven.nearest_roundQuotient _ hunit⟩
  rw [ofQuotient, hshift]
  exact hx

-- ---------------------------------------------------------------------------
-- Numerals
-- ---------------------------------------------------------------------------

theorem foldl_digits {cs : List Char} (h : ∀ c ∈ cs, Text.isDigit c) (value : ℕ) :
    cs.foldl (fun value c => 10 * value + (Text.digit? c).getD 0) value =
      Nat.ofDigitChars 10 cs value := by
  induction cs generalizing value with
  | nil => exact (Nat.ofDigitChars_nil ..).symm
  | cons c cs ih =>
    obtain ⟨hc, hcs⟩ := List.forall_mem_cons.mp h
    rw [List.foldl_cons, ih hcs, Text.digit?_of_isDigit hc, Nat.ofDigitChars_cons, Option.getD_some]

theorem readSign_numeral (n : ℕ) : readSign (Text.numeral n) = (false, Text.numeral n) := by
  unfold readSign
  split
  · rename_i heq
    exact absurd (Text.isDigit_of_numeral_eq_cons heq) (by decide)
  · rename_i heq
    exact absurd (Text.isDigit_of_numeral_eq_cons heq) (by decide)
  · rfl

theorem spanDigits_numeral (n : ℕ) : spanDigits (Text.numeral n) = (Text.numeral n, []) := by
  have hdigits : ∀ c ∈ Text.numeral n, Text.isDigit c := fun _ => Text.isDigit_of_mem_numeral
  rw [spanDigits, List.takeWhile_eq_self_iff.mpr hdigits, List.dropWhile_eq_nil_iff.mpr hdigits]

theorem digitsValue_numeral (n : ℕ) : digitsValue (Text.numeral n) = n := by
  rw [digitsValue, foldl_digits fun _ => Text.isDigit_of_mem_numeral, Text.ofDigitChars_numeral]

theorem readMagnitude_numeral (n : ℕ) : readMagnitude (Text.numeral n) = some (n, 0) := by
  have hne : Text.numeral n ≠ [] := Nat.toDigits_ne_nil
  simp [readMagnitude, spanDigits_numeral, readExponent, hne, digitsValue_numeral]

/-- A whole number that is not zero is rounded as the quotient by one. -/
theorem ofDecimal_natural (hpos : 0 < n) (hdigits : (Nat.toDigits 10 n).length ≤ 320) :
    ofDecimal negative n 0 = ofQuotient negative n 1 := by
  simp only [ofDecimal]
  rw [if_neg (by omega), if_neg (by omega), if_neg (by omega), Int.natAbs_zero, Nat.pow_zero,
    Nat.mul_one]

theorem read?_numeral (hpos : 0 < n) (hdigits : (Text.numeral n).length ≤ 320) :
    read? (Text.numeral n) = ofNat? n := by
  simp only [read?, readSign_numeral, readMagnitude_numeral, Option.bind_eq_bind, Option.bind_some]
  exact ofDecimal_natural hpos hdigits

protected theorem one_pos : 0 < one := by
  unfold one
  exact Nat.two_pow_pos 1074

theorem log2_mul_one {bits : ℕ} (hlow : 2 ^ bits ≤ n) (hhigh : n < 2 ^ (bits + 1)) :
    (n * one).log2 = bits + 1074 := by
  have hpos : 0 < n := (Nat.two_pow_pos bits).trans_le hlow
  rw [Nat.log2_eq_iff (Nat.mul_pos hpos Double.one_pos).ne', Nat.add_right_comm, Nat.pow_add,
    Nat.pow_add 2 (bits + 1), one]
  exact ⟨Nat.mul_le_mul_right _ hlow, Nat.mul_lt_mul_of_pos_right hhigh (Nat.two_pow_pos 1074)⟩

/-- A whole number of more than 52 bits is taken to the nearest multiple of the power of two that
leaves 53 of them. -/
theorem exists_ofNat? {more : ℕ} (hmore : more ≤ 970) (hlow : 2 ^ (52 + more) ≤ n)
    (hhigh : n < 2 ^ (53 + more)) :
    ∃ x k, ofNat? n = some x ∧ x.negative = false ∧ x.magnitude = k * 2 ^ more * one ∧
      RoundingMode.halfEven.Nearest (n / 2 ^ more) (k : ℕ) := by
  have hlog : (n * one / 1).log2 - 52 = more + 1074 := by
    rw [Nat.div_one, log2_mul_one hlow (by rwa [Nat.add_right_comm])]
    omega
  obtain ⟨x, k, hx, hsign, hmagnitude, hnearest⟩ := exists_ofQuotient false one_pos hlog (by omega)
  have hunit : 2 ^ (more + 1074) = 2 ^ more * one := by rw [Nat.pow_add, one]
  have hone : (one : ℚ) ≠ 0 := Nat.cast_ne_zero.mpr Double.one_pos.ne'
  rw [hunit] at hmagnitude hnearest
  refine ⟨x, k, hx, hsign, by rw [hmagnitude, Nat.mul_assoc], ?_⟩
  convert hnearest using 1
  push_cast
  field_simp

end Double

end Promotion
