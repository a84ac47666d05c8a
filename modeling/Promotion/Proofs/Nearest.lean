import Mathlib.Algebra.Order.Field.Basic
import Mathlib.Algebra.Order.Field.Rat
import Mathlib.Algebra.Ring.Int.Parity
import Mathlib.Tactic.FieldSimp
import Mathlib.Tactic.Linarith
import Mathlib.Tactic.Positivity
import Promotion.Decimal.Basic

/-!
# Nearest whole numbers

A decimal stands for a rational number, and rounding takes it to the nearest whole number of units
of the last place that is kept (`Decimal.nearest_inUnits_roundTo`). Where two are equally near, the
mode prefers one of them, so that no more than one is nearest (`RoundingMode.Nearest.unique`).
-/

namespace Promotion

namespace RoundingMode

-- ---------------------------------------------------------------------------
-- Nearness and preference
-- ---------------------------------------------------------------------------

/-- Which of two equally near whole numbers a mode prefers: the even one, the one farther from zero,
or the one nearer to zero. -/
def Prefers : RoundingMode → ℤ → ℤ → Prop
  | halfEven, n, _ => Even n
  | halfUp, n, m => |m| < |n|
  | halfDown, n, m => |n| < |m|

/-- No whole number is nearer to `q` than `n` is, and it is preferred to any that is as near. -/
structure Nearest (mode : RoundingMode) (q : ℚ) (n : ℤ) : Prop where
  near : ∀ m : ℤ, |q - n| ≤ |q - m|
  preferred : ∀ m : ℤ, m ≠ n → |q - m| = |q - n| → mode.Prefers n m

variable {mode : RoundingMode} {q : ℚ} {n m : ℤ}

theorem Prefers.neg (h : mode.Prefers n m) : mode.Prefers (-n) (-m) := by
  cases mode with
  | halfEven => exact Even.neg h
  | halfUp => simpa [Prefers] using h
  | halfDown => simpa [Prefers] using h

/-- Rounding does not depend on the sign. -/
theorem Nearest.neg (h : mode.Nearest q n) : mode.Nearest (-q) (-n) := by
  have hdist : ∀ m : ℤ, |-q - m| = |q - (-m : ℤ)| := by
    intro m
    rw [← abs_neg, neg_sub', neg_neg, Int.cast_neg]
  refine ⟨fun m => ?_, fun m hne htie => ?_⟩
  · rw [hdist, hdist, neg_neg]
    exact h.near (-m)
  · rw [hdist, hdist, neg_neg] at htie
    rw [← neg_neg m]
    exact (h.preferred (-m) (fun heq => hne (by omega)) htie).neg

/-- At most one whole number is nearest. -/
theorem Nearest.unique (hn : mode.Nearest q n) (hm : mode.Nearest q m) : n = m := by
  by_contra hne
  have hdist : |q - n| = |q - m| := le_antisymm (hn.near m) (hm.near n)
  have hprefers : mode.Prefers n m := hn.preferred m (Ne.symm hne) hdist.symm
  have hprefers' : mode.Prefers m n := hm.preferred n hne hdist
  cases mode with
  | halfEven =>
    obtain ⟨a, ha⟩ := hprefers
    obtain ⟨b, hb⟩ := hprefers'
    have hmiddle : q = (a + b : ℤ) := by
      rcases abs_eq_abs.mp hdist with hsame | hopposite
      · exact absurd (by exact_mod_cast sub_right_inj.mp hsame) hne
      · subst ha hb
        push_cast at hopposite ⊢
        linarith
    -- the whole number between two even ones would be nearer than both
    have hzero : |q - n| = 0 := by
      have hnear := hn.near (a + b)
      rw [← hmiddle, sub_self, abs_zero] at hnear
      exact le_antisymm hnear (abs_nonneg _)
    have hn : q = n := sub_eq_zero.mp (abs_eq_zero.mp hzero)
    have hm : q = m := sub_eq_zero.mp (abs_eq_zero.mp (hdist.symm.trans hzero))
    exact hne (by exact_mod_cast hn.symm.trans hm)
  | halfUp => exact lt_asymm hprefers hprefers'
  | halfDown => exact lt_asymm hprefers hprefers'

theorem Nearest.iff_eq (hn : mode.Nearest q n) : mode.Nearest q m ↔ m = n :=
  ⟨fun hm => hm.unique hn, fun heq => heq ▸ hn⟩

-- ---------------------------------------------------------------------------
-- Distances from whole numbers
-- ---------------------------------------------------------------------------

theorem one_le_abs_sub_add_abs_sub (q : ℚ) (hne : n ≠ m) : 1 ≤ |q - n| + |q - m| :=
  calc (1 : ℚ) ≤ |(n : ℚ) - m| := by exact_mod_cast Int.one_le_abs (sub_ne_zero.mpr hne)
    _ ≤ |(n : ℚ) - q| + |q - m| := abs_sub_le _ _ _
    _ = |q - n| + |q - m| := by rw [abs_sub_comm (n : ℚ) q]

theorem near_of_abs_sub_le (h : |q - n| ≤ 1 / 2) (m : ℤ) : |q - n| ≤ |q - m| := by
  by_cases heq : n = m
  · rw [heq]
  · have := one_le_abs_sub_add_abs_sub q heq
    linarith

theorem nearest_of_abs_sub_lt (h : |q - n| < 1 / 2) : mode.Nearest q n := by
  refine ⟨near_of_abs_sub_le h.le, fun m hne htie => ?_⟩
  have := one_le_abs_sub_add_abs_sub q hne
  linarith

theorem nearest_intCast (n : ℤ) : mode.Nearest n n :=
  nearest_of_abs_sub_lt (by norm_num)

theorem abs_half_sub_eq_iff : |(n + 1 / 2 : ℚ) - m| = 1 / 2 ↔ m = n ∨ m = n + 1 := by
  have hcast : ∀ k : ℤ, m = k ↔ (m : ℚ) = k := fun k => Int.cast_inj.symm
  rw [abs_eq (by norm_num), hcast, hcast, Int.cast_add, Int.cast_one]
  refine or_congr ⟨fun h => ?_, fun h => ?_⟩ ⟨fun h => ?_, fun h => ?_⟩ <;> linarith

/-- Of two whole numbers that are a half away, the one preferred is nearest. -/
theorem nearest_of_half {other : ℤ} (h : ∀ k : ℤ, |q - k| = 1 / 2 ↔ k = n ∨ k = other)
    (hprefers : mode.Prefers n other) : mode.Nearest q n := by
  have hdist : |q - n| = 1 / 2 := (h n).mpr (.inl rfl)
  refine ⟨near_of_abs_sub_le hdist.le, fun m hne htie => ?_⟩
  obtain rfl : m = other := ((h m).mp (htie.trans hdist)).resolve_left hne
  exact hprefers

theorem abs_lt_abs_succ (whole : ℕ) : |(whole : ℤ)| < |(whole : ℤ) + 1| := by
  rw [abs_of_nonneg (by omega), abs_of_nonneg (by omega)]
  omega

theorem prefers_of_liftsHalf {whole : ℕ} (h : mode.liftsHalf whole) :
    mode.Prefers (whole + 1) whole := by
  cases mode with
  | halfEven =>
    have hodd : whole % 2 = 1 := by simpa [liftsHalf] using h
    exact Int.even_iff.mpr (by omega)
  | halfUp => exact abs_lt_abs_succ whole
  | halfDown => cases h

theorem prefers_of_not_liftsHalf {whole : ℕ} (h : ¬mode.liftsHalf whole) :
    mode.Prefers whole (whole + 1) := by
  cases mode with
  | halfEven =>
    have heven : whole % 2 ≠ 1 := by simpa [liftsHalf] using h
    exact Int.even_iff.mpr (by omega)
  | halfUp => cases h rfl
  | halfDown => exact abs_lt_abs_succ whole

/-- Halfway between two whole numbers, the mode decides which is nearest. -/
theorem nearest_half (mode : RoundingMode) (whole : ℕ) :
    mode.Nearest (whole + 1 / 2) (if mode.liftsHalf whole then whole + 1 else whole : ℕ) := by
  split
  · rename_i hlifts
    refine nearest_of_half (fun k => ?_) (prefers_of_liftsHalf hlifts)
    exact (abs_half_sub_eq_iff (n := whole)).trans or_comm
  · rename_i hstays
    exact nearest_of_half (fun k => abs_half_sub_eq_iff) (prefers_of_not_liftsHalf hstays)

-- ---------------------------------------------------------------------------
-- Quotients
-- ---------------------------------------------------------------------------

/-- A quotient is rounded to the nearest whole number. -/
theorem nearest_roundQuotient (mode : RoundingMode) (n : ℕ) {d : ℕ} (hd : 0 < d) :
    mode.Nearest (n / d) (mode.roundQuotient n d) := by
  have hpos : (0 : ℚ) < d := by exact_mod_cast hd
  have hquotient : (n / d : ℚ) = (n / d : ℕ) + (n % d : ℕ) / d := by
    field_simp
    exact_mod_cast (Nat.div_add_mod n d).symm
  rw [hquotient, roundQuotient]
  rcases lt_trichotomy (2 * (n % d)) d with hbelow | hhalf | habove
  · have hfraction : ((n % d : ℕ) / d : ℚ) < 1 / 2 := by
      rw [div_lt_div_iff₀ hpos two_pos]
      exact_mod_cast (by omega : n % d * 2 < 1 * d)
    rw [if_neg (by omega)]
    apply nearest_of_abs_sub_lt
    rw [Int.cast_natCast, add_sub_cancel_left, abs_of_nonneg (by positivity)]
    exact hfraction
  · have hfraction : ((n % d : ℕ) / d : ℚ) = 1 / 2 := by
      rw [div_eq_div_iff hpos.ne' two_ne_zero]
      exact_mod_cast (by omega : n % d * 2 = 1 * d)
    rw [hfraction]
    convert nearest_half mode (n / d) using 3
    simp [hhalf]
  · have hfraction : 1 / 2 < ((n % d : ℕ) / d : ℚ) := by
      rw [div_lt_div_iff₀ two_pos hpos]
      exact_mod_cast (by omega : 1 * d < n % d * 2)
    have hproper : ((n % d : ℕ) / d : ℚ) < 1 := by
      rw [div_lt_one hpos]
      exact_mod_cast Nat.mod_lt n hd
    rw [if_pos (.inl habove)]
    apply nearest_of_abs_sub_lt
    rw [Int.cast_natCast, Nat.cast_add, Nat.cast_one, abs_lt]
    constructor <;> linarith

end RoundingMode

namespace Decimal

-- ---------------------------------------------------------------------------
-- Decimals
-- ---------------------------------------------------------------------------

def toRat (a : Decimal) : ℚ :=
  a.signed / 10 ^ a.scale

theorem natAbs_signed (a : Decimal) : a.signed.natAbs = a.mantissa := by
  unfold signed
  split <;> omega

theorem toRat_negate (a : Decimal) : a.negate.toRat = -a.toRat := by
  obtain ⟨negative, mantissa, scale, _, _⟩ := a
  cases negative <;> simp [toRat, signed, negate, neg_div]

theorem toRat_mul_of_le {a : Decimal} {places : ℕ} (h : a.scale ≤ places) :
    a.toRat * 10 ^ places = a.inUnits places := by
  have hpow : (10 : ℚ) ^ places = 10 ^ (places - a.scale) * 10 ^ a.scale :=
    (pow_sub_mul_pow 10 h).symm
  rw [toRat, inUnits, hpow, Int.cast_mul, Int.cast_pow]
  field_simp
  rfl

theorem toRat_mul_of_lt {a : Decimal} {places : ℕ} (h : places < a.scale) :
    a.toRat * 10 ^ places = a.signed / (10 ^ (a.scale - places) : ℕ) := by
  have hpow : (10 : ℚ) ^ a.scale = 10 ^ (a.scale - places) * 10 ^ places :=
    (pow_sub_mul_pow 10 h.le).symm
  rw [toRat, hpow, Nat.cast_pow]
  field_simp
  rfl

/-- The sign of a decimal that is shortened stays, unless nothing but zero is left. -/
theorem inUnits_roundTo_of_lt {a : Decimal} {mode : RoundingMode} {places : ℕ}
    (h : places < a.scale) :
    (a.roundTo mode places).inUnits places =
      let units := mode.roundQuotient a.mantissa (10 ^ (a.scale - places))
      if a.negative then -(units : ℤ) else units := by
  rw [roundTo, dif_neg (by omega)]
  by_cases hzero : mode.roundQuotient a.mantissa (10 ^ (a.scale - places)) = 0
  · simp [inUnits, signed, hzero]
  · simp [inUnits, signed, hzero]

/-- What is left of a decimal when it is rounded is, in units of the last place, the nearest whole
number of them. -/
theorem nearest_inUnits_roundTo (a : Decimal) (mode : RoundingMode) (places : ℕ) :
    mode.Nearest (a.toRat * 10 ^ places) ((a.roundTo mode places).inUnits places) := by
  rcases Nat.lt_or_ge places a.scale with hlong | hshort
  · have hpos : 0 < 10 ^ (a.scale - places) := Nat.pow_pos (by decide)
    have hnearest := mode.nearest_roundQuotient a.mantissa hpos
    rw [toRat_mul_of_lt hlong, inUnits_roundTo_of_lt hlong, signed]
    cases a.negative with
    | false => exact hnearest
    | true =>
      rw [if_pos rfl, Int.cast_neg, Int.cast_natCast, neg_div]
      exact hnearest.neg
  · rw [toRat_mul_of_le hshort, roundTo, dif_pos hshort]
    exact RoundingMode.nearest_intCast _

end Decimal

end Promotion
