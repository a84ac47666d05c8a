import Promotion.Proofs.ExactProducts
import Promotion.Retry

/-!
# Waits

A policy's waits double from the initial delay up to the greatest one, exactly, if doubles hold both
delays as they are (`RetryPolicy.delay_eq_min`). Where the power is infinite the greatest delay wins
in any case, also against no delay at all: zero times infinity is no number, and gives way. So a
policy without an initial delay has a wait before retry 1024, counted from zero, and from there on
(`RetryPolicy.delay_of_infinite`).
-/

namespace Promotion

namespace RetryPolicy

open ExtendedDouble (Stands)

variable {policy : RetryPolicy} {retry : ℕ}

theorem stands_factor (retry : ℕ) : (factor retry).Stands (2 ^ min retry maxExponent) := by
  have hbits : min retry maxExponent < 2 ^ 31 := by
    unfold maxExponent
    omega
  have hone : (ExtendedDouble.ofNat 1).Stands (2 ^ 0) := ExtendedDouble.stands_ofNat (by decide)
  have htwo : multiplier.Stands (2 ^ 1) := ExtendedDouble.stands_ofNat (by decide)
  have h := Stands.timesPower hbits hone htwo
  rwa [Nat.zero_add, Nat.one_mul] at h

theorem truncated_of_stands {x : ExtendedDouble} {n : ℕ} (h : x.Stands n) :
    x.truncated (2 ^ 64 - 1) = min n (2 ^ 64 - 1) :=
  h.truncated ((Nat.sub_le _ _).trans (Double.two_pow_lt_limit_iff.mpr (by decide)).le)

/-- What the doubled delay stands for is cut at the greatest delay. -/
theorem delay_of_stands {n : ℕ} (hmax : policy.maxDelay ≤ 2 ^ 53)
    (h : ((ExtendedDouble.ofNat policy.initialDelay).mul (factor retry)).Stands n) :
    policy.delay retry = min n policy.maxDelay := by
  rw [delay_eq, truncated_of_stands (h.least (ExtendedDouble.stands_ofNat hmax))]
  omega

theorem delay_eq_min (hinitial : policy.initialDelay ≤ 2 ^ 53) (hmax : policy.maxDelay ≤ 2 ^ 53)
    (hfinite : 0 < policy.initialDelay ∨ retry < 1024) :
    policy.delay retry = min (policy.initialDelay * 2 ^ retry) policy.maxDelay := by
  have hinitial' :
      (ExtendedDouble.ofNat policy.initialDelay).Stands (policy.initialDelay * 2 ^ 0) := by
    rw [Nat.pow_zero, Nat.mul_one]
    exact ExtendedDouble.stands_ofNat hinitial
  have hfinite' : 0 < policy.initialDelay ∨ min retry maxExponent < 1024 :=
    hfinite.imp_right (Nat.min_le_left _ _).trans_lt
  rw [delay_of_stands hmax (hinitial'.mul hinitial hfinite' (stands_factor retry)), Nat.zero_add]
  rcases Nat.le_total retry maxExponent with hle | hge
  · rw [Nat.min_eq_left hle]
  · -- the exponent is cut, but the product is beyond the greatest delay anyway
    have hpos : 0 < policy.initialDelay := by
      unfold maxExponent at hge
      omega
    have hbeyond {exponent : ℕ} (h : 53 ≤ exponent) :
        policy.maxDelay ≤ policy.initialDelay * 2 ^ exponent :=
      calc policy.maxDelay ≤ 2 ^ 53 := hmax
        _ ≤ 2 ^ exponent := Nat.pow_le_pow_right two_pos h
        _ ≤ policy.initialDelay * 2 ^ exponent := Nat.le_mul_of_pos_left _ hpos
    have hlarge : 53 ≤ maxExponent := by decide
    rw [Nat.min_eq_right hge, Nat.min_eq_right (hbeyond hlarge),
      Nat.min_eq_right (hbeyond (hlarge.trans hge))]

/-- Nothing, doubled so often that the power is infinite, is the greatest delay. -/
theorem delay_of_infinite (hinitial : policy.initialDelay = 0) (hmax : policy.maxDelay ≤ 2 ^ 53)
    (hretry : 1024 ≤ retry) : policy.delay retry = policy.maxDelay := by
  have hzero : (ExtendedDouble.ofNat policy.initialDelay).Stands 0 := by
    rw [hinitial]
    exact ExtendedDouble.stands_ofNat (Nat.zero_le _)
  have hpower : Double.limit ≤ 2 ^ min retry maxExponent := by
    have hlarge : 1024 ≤ maxExponent := by decide
    exact Nat.not_lt.mp (mt Double.two_pow_lt_limit_iff.mp
      (Nat.not_lt.mpr (Nat.le_min.mpr ⟨hretry, hlarge⟩)))
  rw [delay_eq, hzero.zero_mul_infinite (stands_factor retry) hpower, ExtendedDouble.least,
    truncated_of_stands (ExtendedDouble.stands_ofNat hmax)]
  omega

theorem delay_le_maxDelay (hinitial : policy.initialDelay ≤ 2 ^ 53)
    (hmax : policy.maxDelay ≤ 2 ^ 53) (retry : ℕ) : policy.delay retry ≤ policy.maxDelay := by
  by_cases hinfinite : policy.initialDelay = 0 ∧ 1024 ≤ retry
  · exact (delay_of_infinite hinfinite.1 hmax hinfinite.2).le
  · rw [delay_eq_min hinitial hmax (by omega)]
    exact Nat.min_le_right _ _

theorem delay_monotone (hinitial : policy.initialDelay ≤ 2 ^ 53)
    (hmax : policy.maxDelay ≤ 2 ^ 53) : Monotone policy.delay := by
  intro m n hle
  by_cases hinfinite : policy.initialDelay = 0 ∧ 1024 ≤ n
  · rw [delay_of_infinite hinfinite.1 hmax hinfinite.2]
    exact delay_le_maxDelay hinitial hmax m
  · have hproduct : policy.initialDelay * 2 ^ m ≤ policy.initialDelay * 2 ^ n :=
      Nat.mul_le_mul_left _ (Nat.pow_le_pow_right two_pos hle)
    rw [delay_eq_min hinitial hmax (by omega), delay_eq_min hinitial hmax (by omega)]
    omega

/-- The wait before a retry is the initial delay doubled that often, up to the greatest delay, except
for a policy that has a greatest delay but no initial one, from retry 1024 on. The waits never
decrease and never exceed the greatest delay; without an initial delay there is none before the
first 1024 retries, and the greatest before all others. -/
theorem delay_capped_doubling (policy : RetryPolicy) (hinitial : policy.initialDelay ≤ 2 ^ 53)
    (hmax : policy.maxDelay ≤ 2 ^ 53) :
    (∀ n, policy.delay n = min (policy.initialDelay * 2 ^ n) policy.maxDelay ↔
        ¬(policy.initialDelay = 0 ∧ 0 < policy.maxDelay ∧ 1024 ≤ n)) ∧
      Monotone policy.delay ∧ (∀ n, policy.delay n ≤ policy.maxDelay) ∧
      (policy.initialDelay = 0 → ∀ n, policy.delay n = if n < 1024 then 0 else policy.maxDelay) := by
  refine ⟨?_, delay_monotone hinitial hmax, delay_le_maxDelay hinitial hmax, ?_⟩
  · intro n
    by_cases hinfinite : policy.initialDelay = 0 ∧ 1024 ≤ n
    · obtain ⟨hzero, hn⟩ := hinfinite
      rw [delay_of_infinite hzero hmax hn, hzero, Nat.zero_mul, Nat.zero_min]
      omega
    · exact iff_of_true (delay_eq_min hinitial hmax (by omega)) fun h => hinfinite ⟨h.1, h.2.2⟩
  · intro hzero n
    split
    · rename_i hn
      rw [delay_eq_min hinitial hmax (.inr hn), hzero, Nat.zero_mul, Nat.zero_min]
    · rename_i hn
      exact delay_of_infinite hzero hmax (Nat.le_of_not_lt hn)

/-- The largest delay that doubles hold exactly as the greatest, reached from three milliseconds. -/
theorem delay_capped_doubling_of_three :
    let policy : RetryPolicy := ⟨64, 3, 2 ^ 53⟩
    (policy.initialDelay ≤ 2 ^ 53 ∧ policy.maxDelay ≤ 2 ^ 53) ∧
      (∀ n, policy.delay n = min (policy.initialDelay * 2 ^ n) policy.maxDelay) ∧
      Monotone policy.delay ∧ (∀ n, policy.delay n ≤ policy.maxDelay) := by
  intro policy
  have hinitial : policy.initialDelay ≤ 2 ^ 53 := by decide
  have hmax : policy.maxDelay ≤ 2 ^ 53 := by decide
  obtain ⟨heq, hmono, hle, -⟩ := delay_capped_doubling policy hinitial hmax
  have hpositive : policy.initialDelay ≠ 0 := by decide
  exact ⟨⟨hinitial, hmax⟩, fun n => (heq n).mpr fun h => hpositive h.1, hmono, hle⟩

/-- A policy without an initial delay waits for a second after 1024 retries. -/
theorem not_forall_delay_eq_min :
    ¬∀ (policy : RetryPolicy) (n : ℕ), policy.initialDelay ≤ 2 ^ 53 → policy.maxDelay ≤ 2 ^ 53 →
      n < 2 ^ 32 → policy.delay n = min (policy.initialDelay * 2 ^ n) policy.maxDelay := by
  intro h
  let policy : RetryPolicy := ⟨2000, 0, 1000⟩
  have hdelay : policy.delay 1024 = 1000 := by decide +kernel
  have hnone (n : ℕ) : min (policy.initialDelay * 2 ^ n) policy.maxDelay = 0 := by simp [policy]
  have hclaim := h policy 1024 (by decide) (by decide) (by decide)
  exact absurd (hdelay.symm.trans (hclaim.trans (hnone 1024))) (by decide)

end RetryPolicy

end Promotion
