import Mathlib.Data.Rat.Floor
import Mathlib.Tactic.LinearCombination
import Promotion.Proofs.Nearest

/-!
# Rounding to decimals

A number is rounded to some decimals by taking the whole number of units of the last one that is
nearest to it. Where a result is rounded to many decimals first and to whole units after that, the
second rounding does not show that there was a first one, unless the first has led to a half
(`RoundingMode.Nearest.of_rounded`).
-/

namespace Promotion

namespace RoundingMode

-- ---------------------------------------------------------------------------
-- Bounds
-- ---------------------------------------------------------------------------

variable {mode other : RoundingMode} {q r : ℚ} {n : ℤ} {places digits : ℕ}

theorem Nearest.abs_sub_le_half (h : mode.Nearest q n) : |q - n| ≤ 1 / 2 :=
  (h.near (round q)).trans (abs_sub_round q)

/-- Rounding does not lead beyond a whole number. -/
theorem Nearest.abs_le {bound : ℤ} (h : mode.Nearest q n) (hq : |q| ≤ bound) : |n| ≤ bound := by
  by_contra! hbeyond
  have hfar : (bound : ℚ) + 1 ≤ |(n : ℚ)| := by exact_mod_cast hbeyond
  have htriangle : |(n : ℚ)| ≤ |(n : ℚ) - q| + |q| := by
    simpa using abs_add_le ((n : ℚ) - q) q
  have hnear := h.abs_sub_le_half
  rw [abs_sub_comm] at hnear
  linarith

-- ---------------------------------------------------------------------------
-- Rounding to decimals
-- ---------------------------------------------------------------------------

/-- `r` is `q` rounded to a number of decimals. -/
def Rounded (mode : RoundingMode) (places : ℕ) (q r : ℚ) : Prop :=
  ∃ n : ℤ, mode.Nearest (q * 10 ^ places) n ∧ r * 10 ^ places = n

/-- There is one way to round. -/
theorem Rounded.unique {s : ℚ} (hr : mode.Rounded places q r) (hs : mode.Rounded places q s) :
    r = s := by
  obtain ⟨n, hn, hr⟩ := hr
  obtain ⟨m, hm, hs⟩ := hs
  rw [hn.unique hm, ← hs] at hr
  exact mul_right_cancel₀ (by positivity) hr

theorem Rounded.neg (h : mode.Rounded places q r) : mode.Rounded places (-q) (-r) := by
  obtain ⟨n, hn, hr⟩ := h
  refine ⟨-n, ?_, ?_⟩
  · rw [neg_mul]
    exact hn.neg
  · rw [neg_mul, hr, Int.cast_neg]

theorem rounded_of_whole (h : q * 10 ^ places = n) : mode.Rounded places q q :=
  ⟨n, h ▸ nearest_intCast n, h⟩

theorem Rounded.eq_of_whole (h : mode.Rounded places q r) (hn : q * 10 ^ places = n) : r = q :=
  h.unique (rounded_of_whole hn)

/-- A number of units of one kind, rounded as a number of smaller units. -/
theorem Rounded.shift (h : mode.Rounded places q r) (hle : digits ≤ places) :
    mode.Rounded (places - digits) (q * 10 ^ digits) (r * 10 ^ digits) := by
  obtain ⟨n, hn, hr⟩ := h
  refine ⟨n, ?_, ?_⟩
  · rwa [mul_assoc, pow_mul_pow_sub 10 hle]
  · rwa [mul_assoc, pow_mul_pow_sub 10 hle]

theorem Rounded.abs_sub_le_half (h : mode.Rounded places q r) :
    |q * 10 ^ places - r * 10 ^ places| ≤ 1 / 2 := by
  obtain ⟨n, hn, hr⟩ := h
  rw [hr]
  exact hn.abs_sub_le_half

-- ---------------------------------------------------------------------------
-- Rounding twice
-- ---------------------------------------------------------------------------

/-- A multiple of a decimal unit that is less than a half away from a whole number is so by a whole
unit. -/
theorem abs_sub_add_one_le_half (hplaces : 0 < places) {m : ℤ} (hm : r * 10 ^ places = m)
    (hlt : |r - n| < 1 / 2) : |r * 10 ^ places - n * 10 ^ places| + 1 ≤ 10 ^ places / 2 := by
  obtain ⟨more, rfl⟩ : ∃ more, places = more + 1 := ⟨places - 1, by omega⟩
  have hscaled : |r * 10 ^ (more + 1) - n * 10 ^ (more + 1)| < 5 * 10 ^ more := by
    rw [← sub_mul, abs_mul, abs_of_pos (by positivity : (0 : ℚ) < 10 ^ (more + 1))]
    calc |r - n| * 10 ^ (more + 1) < 1 / 2 * 10 ^ (more + 1) :=
          mul_lt_mul_of_pos_right hlt (by positivity)
      _ = 5 * 10 ^ more := by ring
  have hwhole : |m - n * 10 ^ (more + 1)| + 1 ≤ 5 * 10 ^ more := by
    rw [hm] at hscaled
    exact_mod_cast hscaled
  rw [hm]
  calc |(m : ℚ) - n * 10 ^ (more + 1)| + 1 ≤ 5 * 10 ^ more := by exact_mod_cast hwhole
    _ = 10 ^ (more + 1) / 2 := by ring

/-- What is nearest to a rounded number is nearest to the number itself, unless the rounded number
is a half. -/
theorem Nearest.of_rounded (h : mode.Nearest r n) (hr : other.Rounded places q r)
    (hplaces : 0 < places) (hhalf : ∀ k : ℤ, r ≠ k + 1 / 2) : mode.Nearest q n := by
  have hlt : |r - n| < 1 / 2 := by
    refine lt_of_le_of_ne h.abs_sub_le_half fun heq => ?_
    rcases (abs_eq (by norm_num)).mp heq with habove | hbelow
    · exact hhalf n (by linarith)
    · exact hhalf (n - 1) (by push_cast; linarith)
  obtain ⟨m, -, hm⟩ := id hr
  have hpos : (0 : ℚ) < 10 ^ places := by positivity
  have hfirst := hr.abs_sub_le_half
  have hsecond := abs_sub_add_one_le_half hplaces hm hlt
  have hboth : |q - n| * 10 ^ places < 1 / 2 * 10 ^ places :=
    calc |q - n| * 10 ^ places = |q * 10 ^ places - n * 10 ^ places| := by
          rw [← sub_mul, abs_mul, abs_of_pos hpos]
      _ ≤ |q * 10 ^ places - r * 10 ^ places| + |r * 10 ^ places - n * 10 ^ places| :=
          abs_sub_le _ _ _
      _ < 1 / 2 * 10 ^ places := by linarith
  exact nearest_of_abs_sub_lt (lt_of_mul_lt_mul_right hboth hpos.le)

end RoundingMode

namespace Decimal

variable {a : Decimal} {d scale : ℕ}

-- ---------------------------------------------------------------------------
-- Decimals
-- ---------------------------------------------------------------------------

theorem toRat_mul_scale (a : Decimal) : a.toRat * 10 ^ a.scale = a.signed := by
  rw [toRat, div_mul_cancel₀ _ (by positivity)]

theorem rounded_roundTo (a : Decimal) (mode : RoundingMode) (places : ℕ) :
    mode.Rounded places a.toRat (a.roundTo mode places).toRat := by
  refine ⟨_, a.nearest_inUnits_roundTo mode places, toRat_mul_of_le ?_⟩
  unfold roundTo
  split
  · assumption
  · exact le_rfl

/-- The number of a magnitude, with a sign. -/
def ofMagnitude (negative : Bool) (q : ℚ) : ℚ :=
  if negative then -q else q

theorem ofMagnitude_mul (negative : Bool) (q r : ℚ) :
    ofMagnitude negative q * r = ofMagnitude negative (q * r) := by
  unfold ofMagnitude
  split
  · exact neg_mul q r
  · rfl

theorem ofMagnitude_div (negative : Bool) (q r : ℚ) :
    ofMagnitude negative q / r = ofMagnitude negative (q / r) := by
  rw [div_eq_mul_inv, ofMagnitude_mul, ← div_eq_mul_inv]

theorem abs_ofMagnitude (negative : Bool) (q : ℚ) : |ofMagnitude negative q| = |q| := by
  unfold ofMagnitude
  split
  · exact abs_neg q
  · rfl

theorem toRat_eq_ofMagnitude (a : Decimal) :
    a.toRat = ofMagnitude a.negative (a.mantissa / 10 ^ a.scale) := by
  rw [toRat, signed, ofMagnitude]
  split <;> simp [neg_div]

/-- A decimal is made of a rounded quotient if there is room for it. -/
theorem make?_roundQuotient_cases (mode : RoundingMode) (negative : Bool) (m : ℕ) (hd : 0 < d)
    (hscale : scale ≤ 28) :
    (make? negative (mode.roundQuotient m d) scale = none ∧
        ∃ n : ℤ, mode.Nearest (ofMagnitude negative (m / d)) n ∧ 2 ^ 96 ≤ |n|) ∨
      ∃ r, make? negative (mode.roundQuotient m d) scale = some r ∧ r.scale = scale ∧
        mode.Nearest (ofMagnitude negative (m / d)) r.signed := by
  let units : ℤ := mode.roundQuotient m d
  let n : ℤ := if negative then -units else units
  have hnearest : mode.Nearest (ofMagnitude negative (m / d)) n := by
    cases negative with
    | false => exact mode.nearest_roundQuotient m hd
    | true => exact (mode.nearest_roundQuotient m hd).neg
  unfold make?
  split
  · refine .inr ⟨_, rfl, rfl, ?_⟩
    convert hnearest using 1
    simp only [signed, n, units]
    cases negative with
    | false => rfl
    | true => by_cases hzero : mode.roundQuotient m d = 0 <;> simp [hzero]
  · have hgreat : 2 ^ 96 ≤ |units| := by
      rw [abs_of_nonneg (Int.natCast_nonneg _)]
      omega
    refine .inl ⟨rfl, n, hnearest, ?_⟩
    simp only [n]
    split
    · rwa [abs_neg]
    · exact hgreat

end Decimal

end Promotion
