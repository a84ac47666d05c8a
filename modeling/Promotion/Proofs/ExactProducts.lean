import Mathlib.Tactic.Ring
import Promotion.Number.Extended
import Promotion.Proofs.Doubles

/-!
# Products with powers of two

A whole number of at most 53 bits is a double, and so is its product with a power of two, up to the
end of the range: nothing is rounded. From `2 ^ 1024` on the product is infinite, and it stays so
(`ExtendedDouble.Stands`). What leads out of this is zero times infinity alone, which is no number.
-/

namespace Promotion

theorem RoundingMode.roundQuotient_mul (mode : RoundingMode) (k : ℕ) {d : ℕ} (hd : 0 < d) :
    mode.roundQuotient (k * d) d = k := by
  have hexact : ¬(d < 2 * 0 ∨ 2 * 0 = d ∧ mode.liftsHalf k = true) := by omega
  rw [roundQuotient, Nat.mul_div_cancel k hd, Nat.mul_mod_left]
  exact if_neg hexact

namespace Double

variable {num den m s : ℕ}

-- ---------------------------------------------------------------------------
-- Exact quotients
-- ---------------------------------------------------------------------------

theorem isZero_eq_false_of_magnitude {x : Double} (h : 0 < x.magnitude) : x.isZero = false := by
  have hne : x.significand ≠ 0 := by
    intro hzero
    rw [magnitude, hzero, Nat.zero_mul] at h
    exact Nat.lt_irrefl 0 h
  simpa [isZero] using hne

/-- The bits of such a number beyond the first 53 are zeros. -/
theorem two_pow_dvd_mul_two_pow (hm : m ≤ 2 ^ 53) (s : ℕ) :
    2 ^ ((m * 2 ^ s).log2 - 52) ∣ m * 2 ^ s := by
  rcases Nat.lt_or_eq_of_le hm with hlt | rfl
  · have hshift : (m * 2 ^ s).log2 - 52 ≤ s := by
      rcases Nat.eq_zero_or_pos m with rfl | hpos
      · simp
      · have hbits : (m * 2 ^ s).log2 < 53 + s := by
          rw [Nat.log2_lt (Nat.mul_pos hpos (Nat.two_pow_pos s)).ne', Nat.pow_add]
          exact Nat.mul_lt_mul_of_pos_right hlt (Nat.two_pow_pos s)
        omega
    exact Nat.dvd_mul_left_of_dvd (Nat.pow_dvd_pow 2 hshift) m
  · rw [← Nat.pow_add, Nat.log2_two_pow]
    exact Nat.pow_dvd_pow 2 (by omega)

/-- A quotient that is such a number of the least units is taken over as it is. -/
theorem exists_ofQuotient_eq_ofPair? (negative : Bool) (hden : 0 < den) (hm : m ≤ 2 ^ 53)
    (hexact : num * one = m * 2 ^ s * den) :
    ∃ k, ofQuotient negative num den = ofPair? negative k ((m * 2 ^ s).log2 - 52) ∧
      k * 2 ^ ((m * 2 ^ s).log2 - 52) = m * 2 ^ s ∧ k < 2 ^ 53 ∧
      ((m * 2 ^ s).log2 - 52 = 0 ∨ 2 ^ 52 ≤ k) := by
  obtain ⟨k, hk⟩ := two_pow_dvd_mul_two_pow hm s
  obtain ⟨hlt, hfull⟩ := div_two_pow_bounds (m * 2 ^ s)
  generalize hn : m * 2 ^ s = n at *
  generalize hshift : n.log2 - 52 = shift at *
  have hquotient : n / 2 ^ shift = k := by
    rw [hk, Nat.mul_div_cancel_left _ (Nat.two_pow_pos shift)]
  rw [hquotient] at hlt hfull
  have hrounded : RoundingMode.halfEven.roundQuotient (n * den) (den * 2 ^ shift) = k := by
    have hmultiple : n * den = k * (den * 2 ^ shift) := by
      rw [hk]
      ac_rfl
    rw [hmultiple]
    exact RoundingMode.roundQuotient_mul _ k (Nat.mul_pos hden (Nat.two_pow_pos shift))
  refine ⟨k, ?_, by rw [hk, Nat.mul_comm], hlt, hfull⟩
  rw [ofQuotient, hexact, Nat.mul_div_cancel n hden, hshift, hrounded, ofRounded?,
    if_neg (Nat.ne_of_lt hlt)]

theorem two_pow_mul_one (k : ℕ) : 2 ^ k * one = 2 ^ (k + 1074) := by
  rw [one, Nat.pow_add]

/-- The least power of two that no double reaches. -/
def limit : ℕ := 2 ^ 1024

theorem two_pow_lt_limit_iff {k : ℕ} : 2 ^ k < limit ↔ k < 1024 := by
  unfold limit
  exact pow_lt_pow_iff_right₀ Nat.one_lt_two

theorem limit_pos : 0 < limit := by
  unfold limit
  exact pow_pos Nat.two_pos 1024

theorem lt_limit_mul_one_iff {n : ℕ} (hpos : 0 < n) :
    n < limit * one ↔ n.log2 < 1024 + 1074 := by
  have hlog : ∀ k, n.log2 < k ↔ n < 2 ^ k := fun _ => Nat.log2_lt hpos.ne'
  rw [limit, two_pow_mul_one, hlog]

/-- Below the limit it is a double. -/
theorem exists_ofQuotient_of_exact (negative : Bool) (hden : 0 < den) (hm : m ≤ 2 ^ 53)
    (hexact : num * one = m * 2 ^ s * den) (hrange : m * 2 ^ s < limit * one) :
    ∃ x, ofQuotient negative num den = some x ∧ x.negative = negative ∧
      x.magnitude = m * 2 ^ s := by
  obtain ⟨k, hquotient, hk, hlt, hfull⟩ := exists_ofQuotient_eq_ofPair? negative hden hm hexact
  have hshift : (m * 2 ^ s).log2 - 52 ≤ 2045 := by
    rcases Nat.eq_zero_or_pos (m * 2 ^ s) with hzero | hpos
    · simp [hzero]
    · have hlog := (lt_limit_mul_one_iff hpos).mp hrange
      omega
  rw [hquotient, ofPair?, dif_pos ⟨hlt, hshift, hfull⟩]
  exact ⟨_, rfl, rfl, hk⟩

/-- From there on there is none. -/
theorem ofQuotient_of_exact_beyond (negative : Bool) (hden : 0 < den) (hm : m ≤ 2 ^ 53)
    (hexact : num * one = m * 2 ^ s * den) (hrange : limit * one ≤ m * 2 ^ s) :
    ofQuotient negative num den = none := by
  obtain ⟨k, hquotient, -⟩ := exists_ofQuotient_eq_ofPair? negative hden hm hexact
  have hpos : 0 < m * 2 ^ s :=
    (Nat.mul_pos limit_pos Double.one_pos).trans_le hrange
  have hshift : 2045 < (m * 2 ^ s).log2 - 52 := by
    have hlog := mt (lt_limit_mul_one_iff hpos).mpr (Nat.not_lt.mpr hrange)
    omega
  rw [hquotient, ofPair?, dif_neg fun hcanonical => absurd hcanonical.2.1 (Nat.not_le.mpr hshift)]

end Double

namespace ExtendedDouble

variable {x y product base : ExtendedDouble} {m n j k : ℕ}

-- ---------------------------------------------------------------------------
-- Numbers that stand for whole numbers
-- ---------------------------------------------------------------------------

/-- A whole number as exact arithmetic has it, as far as the range goes; infinity beyond. -/
inductive Stands : ExtendedDouble → ℕ → Prop where
  | finite {d : Double} {n : ℕ} (hrange : n < Double.limit) (hsign : d.negative = false)
      (hmagnitude : d.magnitude = n * Double.one) : Stands (.finite d) n
  | infinite {n : ℕ} (hrange : Double.limit ≤ n) : Stands (.infinite false) n

theorem stands_ofMagnitude {num den : ℕ} (hden : 0 < den) (hm : m ≤ 2 ^ 53)
    (hexact : num = m * 2 ^ j * den) :
    Stands (ofMagnitude false (Double.ofQuotient false num den)) (m * 2 ^ j) := by
  have hunits : m * 2 ^ (j + 1074) = m * 2 ^ j * Double.one := by
    rw [← Double.two_pow_mul_one, Nat.mul_assoc]
  have hscaled : num * Double.one = m * 2 ^ (j + 1074) * den := by
    rw [hexact, hunits, Nat.mul_right_comm]
  rcases Nat.lt_or_ge (m * 2 ^ j) Double.limit with hlt | hge
  · obtain ⟨d, hd, -, hmagnitude⟩ := Double.exists_ofQuotient_of_exact false hden hm hscaled
      (by rw [hunits]; exact Nat.mul_lt_mul_of_pos_right hlt Double.one_pos)
    rw [hd]
    exact .finite hlt rfl (hmagnitude.trans hunits)
  · rw [Double.ofQuotient_of_exact_beyond false hden hm hscaled
      (by rw [hunits]; exact Nat.mul_le_mul_right _ hge)]
    exact .infinite hge

theorem stands_ofNat (hn : n ≤ 2 ^ 53) : Stands (ofNat n) n := by
  have h := @stands_ofMagnitude n 0 n 1 Nat.one_pos hn (by omega)
  rwa [Nat.pow_zero, Nat.mul_one] at h

/-- A product with a power of two stands for the product, unless it is zero times infinity. -/
theorem Stands.mul (hm : m ≤ 2 ^ 53) (hdefined : 0 < m ∨ k < 1024) (hx : Stands x (m * 2 ^ j))
    (hy : Stands y (2 ^ k)) : Stands (x.mul y) (m * 2 ^ (j + k)) := by
  have hproduct : m * 2 ^ (j + k) = m * 2 ^ j * 2 ^ k := by rw [Nat.pow_add, Nat.mul_assoc]
  rw [hproduct]
  have hleft : m * 2 ^ j ≤ m * 2 ^ j * 2 ^ k := Nat.le_mul_of_pos_right _ (Nat.two_pow_pos k)
  cases hy with
  | @finite e _ hlt hsign hmagnitude =>
    have hpos : 0 < e.magnitude :=
      hmagnitude ▸ Nat.mul_pos (Nat.two_pow_pos k) Double.one_pos
    cases hx with
    | @finite d _ hrange hsign' hmagnitude' =>
      have hexact : d.magnitude * e.magnitude =
          m * 2 ^ (j + k) * (Double.one * Double.one) := by
        rw [hmagnitude, hmagnitude', hproduct, Nat.mul_mul_mul_comm]
      have hstands := stands_ofMagnitude (Nat.mul_pos Double.one_pos Double.one_pos) hm hexact
      rw [← hproduct, ExtendedDouble.mul, hsign, hsign']
      exact hstands
    | infinite hrange =>
      rw [ExtendedDouble.mul, Double.isZero_eq_false_of_magnitude hpos, hsign]
      exact .infinite (hrange.trans hleft)
  | infinite hbeyond =>
    have hk : ¬k < 1024 := fun h =>
      absurd hbeyond (Nat.not_le.mpr (Double.two_pow_lt_limit_iff.mpr h))
    have hm0 : 0 < m * 2 ^ j := Nat.mul_pos (hdefined.resolve_right hk) (Nat.two_pow_pos j)
    have hright : Double.limit ≤ m * 2 ^ j * 2 ^ k :=
      hbeyond.trans (Nat.le_mul_of_pos_left _ hm0)
    cases hx with
    | @finite d _ hrange hsign hmagnitude =>
      have hpos : 0 < d.magnitude := hmagnitude ▸ Nat.mul_pos hm0 Double.one_pos
      rw [ExtendedDouble.mul, Double.isZero_eq_false_of_magnitude hpos, hsign]
      exact .infinite hright
    | infinite hrange => exact .infinite hright

/-- Zero times infinity is no number. -/
theorem Stands.zero_mul_infinite (hx : Stands x 0) (hy : Stands y n) (hn : Double.limit ≤ n) :
    x.mul y = undefined := by
  cases hy with
  | finite hrange => exact absurd hn (Nat.not_le.mpr hrange)
  | infinite hrange =>
    cases hx with
    | infinite hrange' => exact absurd Double.limit_pos (Nat.not_lt.mpr hrange')
    | @finite d _ _ _ hmagnitude =>
      have hzero : d.isZero = true := by
        rw [Double.magnitude, Nat.zero_mul] at hmagnitude
        have hsignificand := (Nat.mul_eq_zero.mp hmagnitude).resolve_right (Nat.two_pow_pos _).ne'
        simpa [Double.isZero] using hsignificand
      rw [ExtendedDouble.mul, hzero, if_pos rfl]

/-- A power of a power of two, with another one before it, stands for the power, whichever squares
on the way are infinite. -/
theorem Stands.timesPower {exponent bits : ℕ} (hexponent : exponent < 2 ^ bits)
    (hproduct : Stands product (2 ^ j)) (hbase : Stands base (2 ^ k)) :
    Stands (product.timesPower base exponent bits) (2 ^ (j + k * exponent)) := by
  have hmul {x y : ExtendedDouble} {j k : ℕ} (hx : Stands x (2 ^ j)) (hy : Stands y (2 ^ k)) :
      Stands (x.mul y) (2 ^ (j + k)) := by
    rw [← Nat.one_mul (2 ^ j)] at hx
    rw [← Nat.one_mul (2 ^ (j + k))]
    exact Stands.mul (by decide) (.inl Nat.one_pos) hx hy
  induction bits generalizing product base exponent j k with
  | zero =>
    obtain rfl : exponent = 0 := Nat.lt_one_iff.mp hexponent
    exact hproduct
  | succ bits ih =>
    have hhalf : exponent / 2 < 2 ^ bits := by
      rw [Nat.pow_succ] at hexponent
      omega
    have hsum : j + k * exponent = j + k * (exponent % 2) + (k + k) * (exponent / 2) := by
      calc j + k * exponent
        _ = j + k * (exponent % 2 + 2 * (exponent / 2)) := by rw [Nat.mod_add_div]
        _ = j + k * (exponent % 2) + (k + k) * (exponent / 2) := by ring
    rw [ExtendedDouble.timesPower, hsum]
    split
    · rename_i hodd
      rw [hodd, Nat.mul_one]
      exact ih hhalf (hmul hproduct hbase) (hmul hbase hbase)
    · rename_i heven
      rw [Nat.mod_two_ne_one.mp heven, Nat.mul_zero, Nat.add_zero]
      exact ih hhalf hproduct (hmul hbase hbase)

theorem Stands.least (hx : Stands x m) (hy : Stands y n) : Stands (x.least y) (min m n) := by
  cases hx with
  | @finite d _ hrange hsign hmagnitude =>
    cases hy with
    | @finite e _ hrange' hsign' hmagnitude' =>
      have hle : d.signedMagnitude ≤ e.signedMagnitude ↔ m ≤ n := by
        rw [Double.signedMagnitude, Double.signedMagnitude, hsign, hsign', hmagnitude, hmagnitude']
        simp only [Bool.false_eq_true, if_false]
        rw [Int.ofNat_le, Nat.mul_le_mul_right_iff Double.one_pos]
      rw [ExtendedDouble.least]
      split
      · rename_i h
        rw [Nat.min_eq_left (hle.mp h)]
        exact .finite hrange hsign hmagnitude
      · rename_i h
        rw [Nat.min_eq_right (Nat.le_of_not_le (mt hle.mpr h))]
        exact .finite hrange' hsign' hmagnitude'
    | infinite hrange' =>
      rw [Nat.min_eq_left (hrange.le.trans hrange')]
      exact .finite hrange hsign hmagnitude
  | infinite hrange =>
    cases hy with
    | finite hrange' hsign' hmagnitude' =>
      rw [Nat.min_eq_right (hrange'.le.trans hrange)]
      exact .finite hrange' hsign' hmagnitude'
    | infinite hrange' => exact .infinite (Nat.le_min.mpr ⟨hrange, hrange'⟩)

theorem Stands.truncated {bound : ℕ} (hx : Stands x n) (hbound : bound ≤ Double.limit) :
    x.truncated bound = min n bound := by
  cases hx with
  | finite hrange hsign hmagnitude =>
    rw [ExtendedDouble.truncated, clamped, hsign, hmagnitude,
      Nat.mul_div_cancel n Double.one_pos]
    exact if_neg Bool.false_ne_true
  | infinite hrange => exact (Nat.min_eq_right (hbound.trans hrange)).symm

end ExtendedDouble

end Promotion
