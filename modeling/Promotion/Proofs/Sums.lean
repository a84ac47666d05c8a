import Promotion.Money
import Promotion.Proofs.Rounded

/-!
# Sums and differences of amounts

The sum of two decimals is exact where it is a decimal itself. Where its mantissa would be too long
it loses decimals, and only where it has none to lose is there no sum (`Decimal.brings_add?`). Money
is added in this way and rounded after that where smallest units are asked for
(`Money.settles_sum_and_difference`).
-/

namespace Promotion

namespace Decimal

variable {a b kept : Decimal} {q : ℚ} {n : ℤ}

-- ---------------------------------------------------------------------------
-- Numbers as decimals
-- ---------------------------------------------------------------------------

/-- A number that a decimal stands for. -/
def IsValue (q : ℚ) : Prop :=
  ∃ a : Decimal, a.toRat = q

/-- A number with as many decimals as there is room for: with all of its own, or so many that one
more would make the mantissa too long. -/
structure Keeps (q : ℚ) (kept : Decimal) : Prop where
  rounded : RoundingMode.halfEven.Rounded kept.scale q kept.toRat
  finest : kept.toRat = q ∨
    ∃ n, RoundingMode.halfEven.Nearest (q * 10 ^ (kept.scale + 1)) n ∧ 2 ^ 96 ≤ |n|

/-- What an operation brings whose exact result is `q`. -/
inductive Brings (q : ℚ) : Option Decimal → Prop
  | kept {kept : Decimal} (h : Keeps q kept) : Brings q (some kept)
  /-- Even without any decimals the mantissa would be too long. -/
  | tooGreat {n : ℤ} (h : RoundingMode.halfEven.Nearest q n) (hgreat : 2 ^ 96 ≤ |n|) :
      Brings q none

theorem keeps_self (a : Decimal) : Keeps a.toRat a :=
  ⟨RoundingMode.rounded_of_whole a.toRat_mul_scale, .inl rfl⟩

theorem abs_signed_le (a : Decimal) : |a.signed| ≤ 2 ^ 96 - 1 := by
  have hmantissa := a.mantissa_lt
  rw [Int.abs_eq_natAbs, natAbs_signed]
  omega

/-- A value has a mantissa of 96 bits, however few of its decimals are counted. -/
theorem abs_mul_le_of_le (a : Decimal) {places : ℕ} (h : places ≤ a.scale) :
    |a.toRat * 10 ^ places| ≤ (2 ^ 96 - 1 : ℤ) := by
  have hsigned : |(a.signed : ℚ)| ≤ (2 ^ 96 - 1 : ℤ) := by exact_mod_cast a.abs_signed_le
  rw [← a.toRat_mul_scale, abs_mul] at hsigned
  rw [abs_mul]
  refine le_trans (mul_le_mul_of_nonneg_left ?_ (abs_nonneg _)) hsigned
  rw [abs_of_pos (by positivity), abs_of_pos (by positivity)]
  exact pow_le_pow_right₀ (by norm_num) h

/-- A number that is a value is kept as it is. -/
theorem Keeps.toRat_eq_iff (h : Keeps q kept) : kept.toRat = q ↔ IsValue q := by
  refine ⟨fun heq => ⟨kept, heq⟩, ?_⟩
  rintro ⟨a, rfl⟩
  rcases Nat.lt_or_ge kept.scale a.scale with hshort | hlong
  · refine h.finest.resolve_right ?_
    rintro ⟨n, hn, hgreat⟩
    have := hn.abs_le (a.abs_mul_le_of_le hshort)
    omega
  · exact h.rounded.eq_of_whole (toRat_mul_of_le hlong)

theorem IsValue.abs_lt (h : IsValue q) (hn : RoundingMode.halfEven.Nearest q n) :
    |n| < 2 ^ 96 := by
  obtain ⟨a, rfl⟩ := h
  have hbound := a.abs_mul_le_of_le (Nat.zero_le _)
  rw [pow_zero, mul_one] at hbound
  exact Int.lt_of_le_sub_one (hn.abs_le hbound)

/-- A number of which decimals are kept is below 96 bits in units of each of them. -/
theorem Keeps.abs_lt_of_le {places : ℕ} (h : Keeps q kept) (hle : places ≤ kept.scale)
    (hn : RoundingMode.halfEven.Nearest (q * 10 ^ places) n) : |n| < 2 ^ 96 := by
  have hsigned := kept.abs_signed_le
  obtain ⟨units, hunits, hkept⟩ := h.rounded
  obtain rfl : units = kept.signed := by exact_mod_cast hkept.symm.trans kept.toRat_mul_scale
  rcases hle.eq_or_lt with rfl | hlt
  · rw [hn.unique hunits]
    omega
  · have hnear := hunits.abs_sub_le_half
    have htriangle : |q * 10 ^ kept.scale| ≤
        |q * 10 ^ kept.scale - kept.signed| + |(kept.signed : ℚ)| := by
      simpa using abs_add_le (q * 10 ^ kept.scale - kept.signed) (kept.signed : ℚ)
    have hten : |q * 10 ^ places| * 10 ≤ |q * 10 ^ kept.scale| := by
      have hpow : (10 : ℚ) ^ (places + 1) ≤ 10 ^ kept.scale :=
        pow_le_pow_right₀ (by norm_num) hlt
      rw [abs_mul, abs_mul, abs_of_pos (by positivity : (0 : ℚ) < 10 ^ kept.scale),
        abs_of_pos (by positivity : (0 : ℚ) < 10 ^ places), mul_assoc, ← pow_succ]
      exact mul_le_mul_of_nonneg_left hpow (abs_nonneg q)
    have hmantissa : |(kept.signed : ℚ)| ≤ 2 ^ 96 - 1 := by exact_mod_cast hsigned
    have hbound : |q * 10 ^ places| ≤ (2 ^ 96 - 1 : ℤ) := by
      push_cast
      linarith
    exact Int.lt_of_le_sub_one (hn.abs_le hbound)

/-- A number of which decimals are kept is below 96 bits without them. -/
theorem Keeps.abs_lt (h : Keeps q kept) (hn : RoundingMode.halfEven.Nearest q n) :
    |n| < 2 ^ 96 :=
  h.abs_lt_of_le (Nat.zero_le _) (by rwa [pow_zero, mul_one])

-- ---------------------------------------------------------------------------
-- Sums
-- ---------------------------------------------------------------------------

theorem exists_first_of_findSome?_range {α : Type} {f : ℕ → Option α} {count : ℕ} {found : α}
    (h : (List.range count).findSome? f = some found) :
    ∃ i < count, f i = some found ∧ ∀ j < i, f j = none := by
  induction count with
  | zero => cases h
  | succ count ih =>
    rw [List.range_succ, List.findSome?_append, List.findSome?_singleton,
      Option.or_eq_some_iff] at h
    rcases h with hearlier | ⟨hnone, hlast⟩
    · obtain ⟨i, hi, hfound, hbefore⟩ := ih hearlier
      exact ⟨i, by omega, hfound, hbefore⟩
    · rw [List.findSome?_eq_none_iff] at hnone
      exact ⟨count, by omega, hlast, fun j hj => hnone j (List.mem_range.mpr hj)⟩

theorem ofMagnitude_natCast (negative : Bool) (m : ℕ) :
    ofMagnitude negative m = (if negative then -(m : ℤ) else m : ℤ) := by
  unfold ofMagnitude
  split <;> simp

theorem ofMagnitude_natAbs_div (i : ℤ) (d : ℚ) :
    ofMagnitude (i < 0) (i.natAbs / d) = i / d := by
  unfold ofMagnitude
  split
  · rename_i hneg
    rw [Nat.cast_natAbs, abs_of_neg (of_decide_eq_true hneg), Int.cast_neg, neg_div, neg_neg]
  · rename_i hneg
    rw [Nat.cast_natAbs, abs_of_nonneg (by simpa using hneg)]

theorem ofMagnitude_mul_pow (negative : Bool) (mantissa : ℕ) {lost scale : ℕ} (h : lost ≤ scale) :
    ofMagnitude negative (mantissa / 10 ^ scale) * 10 ^ (scale - lost) =
      ofMagnitude negative (mantissa / (10 ^ lost : ℕ)) := by
  have hpow : (10 : ℚ) ^ scale = 10 ^ (scale - lost) * 10 ^ lost := (pow_sub_mul_pow 10 h).symm
  rw [ofMagnitude_mul, hpow, Nat.cast_pow, Nat.cast_ofNat]
  congr 1
  field_simp

/-- A mantissa that is too long loses as few decimals as possible. -/
theorem brings_fit? (negative : Bool) (mantissa : ℕ) {scale : ℕ} (hscale : scale ≤ 28) :
    Brings (ofMagnitude negative (mantissa / 10 ^ scale)) (fit? negative mantissa scale) := by
  have hcases := fun lost : ℕ => make?_roundQuotient_cases .halfEven negative mantissa
    (Nat.pow_pos (n := lost) (by decide : 0 < 10)) (show scale - lost ≤ 28 by omega)
  unfold fit?
  cases hfit : (List.range (scale + 1)).findSome? fun lost =>
      make? negative (RoundingMode.halfEven.roundQuotient mantissa (10 ^ lost)) (scale - lost) with
  | none =>
    have hlast := List.findSome?_eq_none_iff.mp hfit scale (List.mem_range.mpr (by omega))
    rcases hcases scale with ⟨-, n, hn, hgreat⟩ | ⟨r, hr, -⟩
    · rw [Nat.cast_pow, Nat.cast_ofNat] at hn
      exact .tooGreat hn hgreat
    · rw [hlast] at hr
      cases hr
  | some kept =>
    obtain ⟨lost, hlost, hkept, hbefore⟩ := exists_first_of_findSome?_range hfit
    rcases hcases lost with ⟨hnone, -⟩ | ⟨r, hr, hr', hnearest⟩
    · rw [hkept] at hnone
      cases hnone
    obtain rfl : kept = r := by rwa [hkept, Option.some_inj] at hr
    have hrounded : RoundingMode.halfEven.Rounded kept.scale
        (ofMagnitude negative (mantissa / 10 ^ scale)) kept.toRat := by
      refine ⟨kept.signed, ?_, kept.toRat_mul_scale⟩
      rwa [hr', ofMagnitude_mul_pow _ _ (by omega)]
    refine .kept ⟨hrounded, ?_⟩
    cases lost with
    | zero =>
      have hwhole := ofMagnitude_mul_pow negative mantissa (Nat.zero_le scale)
      rw [pow_zero, Nat.cast_one, div_one, ofMagnitude_natCast, ← hr'] at hwhole
      exact .inl (hrounded.eq_of_whole hwhole)
    | succ less =>
      rcases hcases less with ⟨-, n, hn, hgreat⟩ | ⟨r, hr, -⟩
      · refine .inr ⟨n, ?_, hgreat⟩
        have hscale' : kept.scale + 1 = scale - less := by omega
        rwa [hscale', ofMagnitude_mul_pow _ _ (by omega)]
      · rw [hbefore less (Nat.lt_succ_self less)] at hr
        cases hr

theorem toRat_eq_zero_of_isZero (h : a.isZero) : a.toRat = 0 := by
  have hmantissa : a.mantissa = 0 := by simpa [isZero] using h
  rw [toRat_eq_ofMagnitude, hmantissa]
  simp [ofMagnitude]

/-- A sum is exact, or keeps as many decimals as there is room for. -/
theorem brings_add? (a b : Decimal) : Brings (a.toRat + b.toRat) (a.add? b) := by
  unfold add?
  split_ifs with ha hb
  · rw [toRat_eq_zero_of_isZero ha, zero_add]
    exact .kept (keeps_self b)
  · rw [toRat_eq_zero_of_isZero hb, add_zero]
    exact .kept (keeps_self a)
  · let scale := max a.scale b.scale
    let sum := a.inUnits scale + b.inUnits scale
    have hsum : (a.toRat + b.toRat) * 10 ^ scale = sum := by
      rw [add_mul, toRat_mul_of_le (le_max_left _ _), toRat_mul_of_le (le_max_right _ _)]
      exact (Int.cast_add _ _).symm
    rw [eq_div_of_mul_eq (by positivity) hsum, ← ofMagnitude_natAbs_div]
    exact brings_fit? _ _ (max_le a.scale_le b.scale_le)

/-- A difference is exact, or keeps as many decimals as there is room for. -/
theorem brings_sub? (a b : Decimal) : Brings (a.toRat - b.toRat) (a.sub? b) := by
  unfold sub?
  split_ifs with hb
  · have hsame : a.toRat - b.toRat = a.toRat + b.toRat := by
      rw [toRat_eq_zero_of_isZero hb, sub_zero, add_zero]
    exact hsame ▸ brings_add? a b
  · rw [sub_eq_add_neg, ← toRat_negate]
    exact brings_add? a b.negate

end Decimal

namespace Money

open Decimal (IsValue Keeps Brings)

-- ---------------------------------------------------------------------------
-- Amounts
-- ---------------------------------------------------------------------------

/-- The result `exact` in a precision: the same number, or the nearest number of the currency's
smallest units. -/
def Yields (m : Money) (precision : Precision) (exact result : ℚ) : Prop :=
  match precision with
  | .cent => m.rounding.Rounded (fractionDigits m.currency) exact result
  | .decimal => result = exact

/-- What becomes of an operation on `m` whose exact result is `exact`. -/
structure Settles (m : Money) (precision : Precision) (exact : ℚ)
    (result : Except MoneyFault Money) : Prop where
  /-- A result that is a decimal is given exactly, or rounded once. -/
  exactly : IsValue exact → ∃ amount,
    result = .ok { m with amount, precision } ∧ m.Yields precision exact amount.toRat
  /-- A result whose whole part is too long is none. -/
  overflow : ∀ n, RoundingMode.halfEven.Nearest exact n → 2 ^ 96 ≤ |n| →
    result = .error (.overflow m.currency)
  /-- Any other result loses decimals first. Rounding it to smallest units is a second rounding,
  which can only be told from a single one if the first has led to a half. -/
  inexactly : ¬IsValue exact → ∀ n, RoundingMode.halfEven.Nearest exact n → |n| < 2 ^ 96 →
    ∃ kept amount, Keeps exact kept ∧ kept.toRat ≠ exact ∧
      result = .ok { m with amount, precision } ∧ m.Yields precision kept.toRat amount.toRat ∧
      (precision = .cent → fractionDigits m.currency < kept.scale →
        (∀ k : ℤ, kept.toRat * 10 ^ fractionDigits m.currency ≠ k + 1 / 2) →
        m.Yields precision exact amount.toRat)

variable {m : Money} {precision : Precision} {exact : ℚ}

theorem yields_withResult (m : Money) (raw : Decimal) (precision : Precision) :
    m.Yields precision raw.toRat (m.withResult raw precision).amount.toRat := by
  cases precision with
  | cent => exact raw.rounded_roundTo m.rounding _
  | decimal => rfl

/-- Two roundings to smallest units are as good as one, unless the first has led to a half. -/
theorem yields_of_keeps {kept : Decimal} {result : ℚ} (h : Keeps exact kept)
    (hyields : m.Yields .cent kept.toRat result)
    (hscale : fractionDigits m.currency < kept.scale)
    (hhalf : ∀ k : ℤ, kept.toRat * 10 ^ fractionDigits m.currency ≠ k + 1 / 2) :
    m.Yields .cent exact result := by
  obtain ⟨n, hn, hresult⟩ := hyields
  exact ⟨n, hn.of_rounded (h.rounded.shift hscale.le) (by omega) hhalf, hresult⟩

theorem settles_combine {op : Decimal → Decimal → Option Decimal} {other : Money}
    (hcurrency : m.currency = other.currency) (h : Brings exact (op m.amount other.amount)) :
    m.Settles precision exact (combine op m other precision) := by
  rw [combine, if_pos hcurrency]
  generalize op m.amount other.amount = raw at h
  cases h with
  | @kept raw hkeeps =>
    have hyields := m.yields_withResult raw precision
    refine ⟨fun hvalue => ⟨_, rfl, ?_⟩, fun n hn hgreat => ?_, fun hvalue n hn hfits => ?_⟩
    · rwa [hkeeps.toRat_eq_iff.mpr hvalue] at hyields
    · exact absurd (hkeeps.abs_lt hn) (not_lt.mpr hgreat)
    · refine ⟨raw, _, hkeeps, fun heq => hvalue (hkeeps.toRat_eq_iff.mp heq), rfl, hyields, ?_⟩
      rintro rfl hscale hhalf
      exact yields_of_keeps hkeeps hyields hscale hhalf
  | tooGreat h hgreat =>
    refine ⟨fun hvalue => ?_, fun n hn _ => rfl, fun _ n hn hfits => ?_⟩
    · exact absurd (hvalue.abs_lt h) (not_lt.mpr hgreat)
    · rw [hn.unique h] at hfits
      exact absurd hfits (not_lt.mpr hgreat)

/-- The sum and the difference of two amounts of one currency are exact, or rounded once to smallest
units, if they are decimals. Amounts of two currencies have neither. -/
theorem settles_sum_and_difference (a b : Money) (precision : Precision) :
    (a.currency = b.currency →
      a.Settles precision (a.amount.toRat + b.amount.toRat) (a.add b precision) ∧
        a.Settles precision (a.amount.toRat - b.amount.toRat) (a.subtract b precision)) ∧
      (a.currency ≠ b.currency →
        a.add b precision = .error (.currencyMismatch a.currency b.currency) ∧
          a.subtract b precision = .error (.currencyMismatch a.currency b.currency)) := by
  refine ⟨fun hsame => ⟨?_, ?_⟩, fun hother => ⟨if_neg hother, if_neg hother⟩⟩
  · exact settles_combine hsame (Decimal.brings_add? _ _)
  · exact settles_combine hsame (Decimal.brings_sub? _ _)

/-- A sum of thirty digits loses the last one before it is rounded to cents. An amount of yen cannot
be taken off. -/
theorem settles_sum_and_difference_of_thirty_digits :
    let a :=
      (Money.of .decimal "EUR" ⟨false, 10 ^ 28 + 4, 3, by decide, by decide⟩).roundedWith .halfUp
    let b := Money.of .decimal "EUR" ⟨false, 3, 4, by decide, by decide⟩
    let yen := Money.of .cent "JPY" (.ofInt 1)
    let exact : ℚ := 10 ^ 25 + 43 / 10 ^ 4
    ¬IsValue exact ∧ RoundingMode.halfEven.Nearest exact (10 ^ 25) ∧
      (∃ kept amount : Decimal, Keeps exact kept ∧ kept.toRat ≠ exact ∧
        a.add b .cent = .ok { a with amount, precision := .cent } ∧
        RoundingMode.halfUp.Rounded 2 kept.toRat amount.toRat) ∧
      a.subtract yen .decimal = .error (.currencyMismatch "EUR" "JPY") := by
  intro a b yen exact
  have hexact : a.amount.toRat + b.amount.toRat = exact := by
    norm_num [a, b, exact, Money.of, roundedWith, Decimal.toRat, Decimal.signed]
  have hsum : a.add b .decimal =
      .ok { a with amount := ⟨false, 10 ^ 28 + 4, 3, by decide, by decide⟩ } := by decide
  have hvalue : ¬IsValue exact := by
    intro hvalue
    obtain ⟨hsettles, -⟩ := (settles_sum_and_difference a b .decimal).1 rfl
    obtain ⟨amount, hamount, hyields⟩ := hsettles.exactly (hexact ▸ hvalue)
    rw [hsum] at hamount
    cases hamount
    norm_num [Yields, a, b, Money.of, roundedWith, Decimal.toRat, Decimal.signed] at hyields
  have hnearest : RoundingMode.halfEven.Nearest exact (10 ^ 25) :=
    RoundingMode.nearest_of_abs_sub_lt (by norm_num [exact, abs_of_pos])
  obtain ⟨hsettles, -⟩ := (settles_sum_and_difference a b .cent).1 rfl
  rw [hexact] at hsettles
  obtain ⟨kept, amount, hkeeps, hne, hamount, hyields, -⟩ :=
    hsettles.inexactly hvalue _ hnearest (by decide)
  exact ⟨hvalue, hnearest, ⟨kept, amount, hkeeps, hne, hamount, hyields⟩,
    ((settles_sum_and_difference a yen .decimal).2 (by decide)).2⟩

/-- The sum of an amount of 29 digits with itself has one more: twenty cents of it are lost. -/
theorem not_forall_exact_or_overflow :
    ¬∀ (a b : Money) (precision : Precision), a.currency = b.currency →
      a.add b precision = .error (.overflow a.currency) ∨
        ∃ r, a.add b precision = .ok r ∧
          a.Yields precision (a.amount.toRat + b.amount.toRat) r.amount.toRat := by
  intro h
  let a := Money.of .decimal "EUR" ⟨false, 50000000000000000000000000001, 1, by decide, by decide⟩
  have hsum : a.add a .decimal =
      .ok (Money.of .decimal "EUR" ⟨false, 10 ^ 28, 0, by decide, by decide⟩) := by decide
  rcases h a a .decimal rfl with hoverflow | ⟨r, hr, hexact⟩
  · rw [hsum] at hoverflow
    cases hoverflow
  · obtain rfl := Except.ok.inj (hsum.symm.trans hr)
    norm_num [Yields, a, Money.of, Decimal.toRat, Decimal.signed] at hexact

end Money

end Promotion
