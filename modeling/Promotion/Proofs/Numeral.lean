import Mathlib.Algebra.Group.Nat.Defs
import Promotion.Text.Numeral

/-!
# Numerals read and written

Every number has one numeral, its digits without leading zeros (`isNumeral_iff`). Reading accepts
more: a plus sign may precede the digits, and zeros may lead them (`readNatural_eq_ok_iff`). So a
text that reads as a number is written back as it was exactly if it is that number's numeral
(`numeral_eq_iff_of_readNatural`).
-/

namespace Promotion.Text

-- ---------------------------------------------------------------------------
-- Digits
-- ---------------------------------------------------------------------------

theorem isDigit_iff {c : Char} : isDigit c ↔ 48 ≤ c.toNat ∧ c.toNat ≤ 57 := by
  simp [isDigit]

theorem digit?_of_isDigit {c : Char} (h : isDigit c) : digit? c = some (c.toNat - '0'.toNat) :=
  if_pos h

theorem digitChar_of_isDigit {c : Char} (h : isDigit c) :
    Nat.digitChar (c.toNat - '0'.toNat) = c := by
  have hbounds := isDigit_iff.mp h
  have hlt : c.toNat - '0'.toNat < 10 := by
    simp only [Char.reduceToNat]
    omega
  apply Char.toNat_inj.mp
  rw [Nat.toNat_digitChar_of_lt_ten hlt]
  simp only [Char.reduceToNat]
  omega

theorem isDigit_of_mem_numeral {n : Nat} {c : Char} (h : c ∈ numeral n) : isDigit c := by
  have hdigit := Nat.isDigit_of_mem_toDigits (by decide) (by decide) h
  simp only [Char.isDigit, Bool.and_eq_true, decide_eq_true_eq] at hdigit
  exact isDigit_iff.mpr hdigit

/-- A numeral does not start with a sign. -/
theorem isDigit_of_numeral_eq_cons {n : Nat} {c : Char} {cs : List Char}
    (h : numeral n = c :: cs) : isDigit c :=
  isDigit_of_mem_numeral (h ▸ List.mem_cons_self)

-- ---------------------------------------------------------------------------
-- Reading
-- ---------------------------------------------------------------------------

/-- Digits read after a value make it no smaller. -/
theorem le_ofDigitChars (cs : List Char) (value : Nat) : value ≤ Nat.ofDigitChars 10 cs value := by
  induction cs generalizing value with
  | nil => simp
  | cons c cs ih =>
    rw [Nat.ofDigitChars_cons]
    have := ih (10 * value + (c.toNat - '0'.toNat))
    omega

/-- A number is bounded by the number of its digits. -/
theorem ofDigitChars_lt {cs : List Char} (h : ∀ c ∈ cs, isDigit c) (value : Nat) :
    Nat.ofDigitChars 10 cs value < (value + 1) * 10 ^ cs.length := by
  induction cs generalizing value with
  | nil => simp
  | cons c cs ih =>
    obtain ⟨hc, hcs⟩ := List.forall_mem_cons.mp h
    have hdigit : c.toNat - '0'.toNat ≤ 9 := by
      have hbounds := isDigit_iff.mp hc
      simp only [Char.reduceToNat]
      omega
    calc Nat.ofDigitChars 10 (c :: cs) value
        = Nat.ofDigitChars 10 cs (10 * value + (c.toNat - '0'.toNat)) := Nat.ofDigitChars_cons ..
      _ < (10 * value + (c.toNat - '0'.toNat) + 1) * 10 ^ cs.length := ih hcs _
      _ ≤ (10 * (value + 1)) * 10 ^ cs.length := Nat.mul_le_mul_right _ (by omega)
      _ = (value + 1) * 10 ^ (c :: cs).length := by
        rw [List.length_cons, Nat.pow_succ, Nat.mul_comm 10 (value + 1), Nat.mul_assoc,
          Nat.mul_comm 10]

/-- Digits are read up to the bound. That the bound is looked at after every digit makes no
difference to the result, since the value never falls. -/
theorem readDigits_eq_ok_iff {bound value n : Nat} {beyond : NumeralFault} {cs : List Char}
    (hvalue : value ≤ bound) :
    readDigits bound beyond value cs = .ok n ↔
      (∀ c ∈ cs, isDigit c) ∧ Nat.ofDigitChars 10 cs value = n ∧ n ≤ bound := by
  induction cs generalizing value with
  | nil =>
    simp only [readDigits, Except.ok.injEq, Nat.ofDigitChars_nil, List.not_mem_nil, false_imp_iff,
      implies_true, true_and]
    exact ⟨fun h => ⟨h, h ▸ hvalue⟩, And.left⟩
  | cons c cs ih =>
    rw [readDigits, List.forall_mem_cons, Nat.ofDigitChars_cons]
    by_cases hdigit : isDigit c
    · rw [digit?_of_isDigit hdigit]
      simp only [hdigit, true_and]
      split
      · rename_i hnext
        exact ih hnext
      · rename_i hnext
        have hgrows := le_ofDigitChars cs (10 * value + (c.toNat - '0'.toNat))
        refine iff_of_false nofun ?_
        rintro ⟨-, rfl, hle⟩
        omega
    · rw [digit?, if_neg hdigit]
      simp [hdigit]

/-- A text reads as a number up to the bound exactly if it is that number in digits, of which there
is at least one, after a plus sign or without one. -/
theorem readNatural_eq_ok_iff {bound n : Nat} {cs : List Char} :
    readNatural bound cs = .ok n ↔
      ∃ digits, (cs = digits ∨ cs = '+' :: digits) ∧ digits ≠ [] ∧ (∀ c ∈ digits, isDigit c) ∧
        Nat.ofDigitChars 10 digits 0 = n ∧ n ≤ bound := by
  have hplus : ¬isDigit '+' := by decide
  fun_cases readNatural bound cs with
  | case1 =>
    refine iff_of_false nofun ?_
    rintro ⟨digits, rfl | h, hne, -⟩
    · exact hne rfl
    · cases h
  | case2 cs =>
    constructor
    · intro h
      cases cs with
      | nil => cases h
      | cons c cs => exact ⟨c :: cs, .inr rfl, nofun, (readDigits_eq_ok_iff (Nat.zero_le _)).mp h⟩
    · rintro ⟨digits, rfl | h, hne, hdigits, hvalue⟩
      · exact absurd (hdigits '+' List.mem_cons_self) hplus
      · cases h
        cases cs with
        | nil => exact absurd rfl hne
        | cons c cs => exact (readDigits_eq_ok_iff (Nat.zero_le _)).mpr ⟨hdigits, hvalue⟩
  | case3 cs hne hsign =>
    rw [readDigits_eq_ok_iff (Nat.zero_le _)]
    constructor
    · exact fun h => ⟨cs, .inl rfl, hne, h⟩
    · rintro ⟨digits, rfl | h, -, h'⟩
      · exact h'
      · exact absurd h (hsign digits)

-- ---------------------------------------------------------------------------
-- Writing
-- ---------------------------------------------------------------------------

/-- The numerals of the numbers up to a bound: digits, with a zero in front only for zero itself. -/
structure IsNumeral (bound : Nat) (cs : List Char) : Prop where
  nonempty : cs ≠ []
  digits : ∀ c ∈ cs, isDigit c
  noLeadingZero : cs.head? = some '0' → cs = ['0']
  le_bound : Nat.ofDigitChars 10 cs 0 ≤ bound

/-- Digits after the numeral of a positive number make the numeral of a longer one. -/
theorem numeral_append_digits {value : Nat} {cs : List Char} (hpos : 0 < value)
    (hdigits : ∀ c ∈ cs, isDigit c) :
    numeral value ++ cs = numeral (Nat.ofDigitChars 10 cs value) := by
  induction cs generalizing value with
  | nil => simp
  | cons c cs ih =>
    obtain ⟨hc, hcs⟩ := List.forall_mem_cons.mp hdigits
    have hlt : c.toNat - '0'.toNat < 10 := by
      have hbounds := isDigit_iff.mp hc
      simp only [Char.reduceToNat]
      omega
    have hone : numeral value ++ [c] = numeral (10 * value + (c.toNat - '0'.toNat)) := by
      rw [numeral, numeral, ← Nat.toDigits_append_toDigits (by decide) hpos hlt,
        Nat.toDigits_of_lt_base hlt, digitChar_of_isDigit hc]
    rw [Nat.ofDigitChars_cons, ← ih (by omega) hcs, ← hone, List.append_assoc]
    rfl

theorem ofDigitChars_numeral (n : Nat) : Nat.ofDigitChars 10 (numeral n) 0 = n :=
  Nat.ofDigitChars_ten_toDigits

theorem numeral_injective {m n : Nat} (h : numeral m = numeral n) : m = n := by
  rw [← ofDigitChars_numeral m, h, ofDigitChars_numeral]

/-- Digits without a leading zero are the numeral of their value. -/
theorem numeral_ofDigitChars {bound : Nat} {cs : List Char} (h : IsNumeral bound cs) :
    numeral (Nat.ofDigitChars 10 cs 0) = cs := by
  cases cs with
  | nil => exact absurd rfl h.nonempty
  | cons c cs =>
    obtain ⟨hc, hcs⟩ := List.forall_mem_cons.mp h.digits
    have hbounds := isDigit_iff.mp hc
    by_cases hzero : c = '0'
    · subst hzero
      rw [h.noLeadingZero rfl]
      decide
    · have hpos : 0 < c.toNat - '0'.toNat := by
        have hne : c.toNat ≠ 48 := fun heq => hzero (Char.toNat_inj.mp heq)
        simp only [Char.reduceToNat]
        omega
      have hlt : c.toNat - '0'.toNat < 10 := by
        simp only [Char.reduceToNat]
        omega
      have hhead : numeral (c.toNat - '0'.toNat) = [c] := by
        rw [numeral, Nat.toDigits_of_lt_base hlt, digitChar_of_isDigit hc]
      rw [Nat.ofDigitChars_cons, Nat.mul_zero, Nat.zero_add, ← numeral_append_digits hpos hcs,
        hhead]
      rfl

theorem eq_zero_of_head?_numeral {n : Nat} (h : (numeral n).head? = some '0') : n = 0 := by
  induction n using Nat.base_induction 10 (by decide) with
  | single n hn =>
    rw [numeral, Nat.toDigits_of_lt_base hn] at h
    simpa using h
  | digit n d hd hn ih =>
    -- the first digit is that of the number without its last digit
    rw [numeral, ← Nat.toDigits_append_toDigits (by decide) hn hd, List.head?_append,
      Option.or_eq_some_iff] at h
    rcases h with hfirst | ⟨hnone, -⟩
    · exact absurd (ih hfirst) (Nat.ne_of_gt hn)
    · exact absurd (List.head?_eq_none_iff.mp hnone) Nat.toDigits_ne_nil

theorem isNumeral_numeral {bound n : Nat} (h : n ≤ bound) : IsNumeral bound (numeral n) where
  nonempty := Nat.toDigits_ne_nil
  digits _ := isDigit_of_mem_numeral
  noLeadingZero hhead := by
    rw [eq_zero_of_head?_numeral hhead]
    rfl
  le_bound := by rwa [ofDigitChars_numeral]

/-- A text is a numeral exactly if a number is written that way. -/
theorem isNumeral_iff {bound : Nat} {cs : List Char} :
    IsNumeral bound cs ↔ ∃ n ≤ bound, numeral n = cs := by
  constructor
  · exact fun h => ⟨_, h.le_bound, numeral_ofDigitChars h⟩
  · rintro ⟨n, hle, rfl⟩
    exact isNumeral_numeral hle

theorem readNatural_numeral {bound n : Nat} (h : n ≤ bound) :
    readNatural bound (numeral n) = .ok n :=
  readNatural_eq_ok_iff.mpr
    ⟨numeral n, .inl rfl, Nat.toDigits_ne_nil, fun _ => isDigit_of_mem_numeral,
      ofDigitChars_numeral n, h⟩

/-- Of the texts that read as a number only its numeral is written back as it was. -/
theorem numeral_eq_iff_of_readNatural {bound n : Nat} {cs : List Char}
    (h : readNatural bound cs = .ok n) : numeral n = cs ↔ IsNumeral bound cs := by
  obtain ⟨-, -, -, -, -, hle⟩ := readNatural_eq_ok_iff.mp h
  rw [isNumeral_iff]
  constructor
  · exact fun heq => ⟨n, hle, heq⟩
  · rintro ⟨m, hm, rfl⟩
    rw [readNatural_numeral hm] at h
    cases h
    rfl

end Promotion.Text
