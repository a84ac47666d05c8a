import Mathlib.Data.List.Basic
import Promotion.Text.UpperCase

/-!
# Upper case is final

A text in upper case has no letters left that upper case changes (`Text.upper_upper`). Which letters
are changed, and what they become, is a matter of the tables; that nothing stands in both lists is
read off them at once, from the two lists as sets of bits.
-/

namespace Promotion.Text

-- ---------------------------------------------------------------------------
-- Sets of codes
-- ---------------------------------------------------------------------------

/-- The set of some codes as a number, one bit for each. -/
def bits (codes : List Nat) : Nat :=
  codes.foldr (fun code rest => 1 <<< code ||| rest) 0

theorem testBit_bits {codes : List Nat} {code : Nat} :
    (bits codes).testBit code ↔ code ∈ codes := by
  induction codes with
  | nil => simp [bits]
  | cons first codes ih =>
    rw [bits, List.foldr_cons, Nat.testBit_or, Bool.or_eq_true, Nat.one_shiftLeft,
      Nat.testBit_two_pow, List.mem_cons]
    exact or_congr (by simp [eq_comm]) ih

theorem notMem_of_bits {codes others : List Nat} {code : Nat}
    (h : bits codes &&& bits others = 0) (hcode : code ∈ codes) : code ∉ others := by
  intro hother
  have hboth : (bits codes &&& bits others).testBit code := by
    rw [Nat.testBit_and, testBit_bits.mpr hcode, testBit_bits.mpr hother]
    rfl
  rw [h, Nat.zero_testBit] at hboth
  cases hboth

-- ---------------------------------------------------------------------------
-- Letters and their capitals
-- ---------------------------------------------------------------------------

namespace CaseRun

variable {run : CaseRun} {code capital : Nat}

def places (run : CaseRun) : List Nat :=
  List.range ((run.last - run.first) / run.step + 1)

def letters (run : CaseRun) : List Nat :=
  run.places.map fun place => run.first + run.step * place

def capitals (run : CaseRun) : List Nat :=
  run.places.map fun place => run.upper + run.step * place

theorem mem_of_upper? (h : run.upper? code = some capital) :
    code ∈ run.letters ∧ capital ∈ run.capitals := by
  unfold upper? at h
  split at h
  · rename_i hletter
    obtain ⟨hfirst, hlast, hstep⟩ := hletter
    cases h
    have hplace : (code - run.first) / run.step ∈ run.places :=
      List.mem_range.mpr (Nat.lt_succ_of_le (Nat.div_le_div_right (by omega)))
    have hdistance : run.step * ((code - run.first) / run.step) = code - run.first :=
      Nat.mul_div_cancel' (Nat.dvd_of_mod_eq_zero hstep)
    refine ⟨List.mem_map.mpr ⟨_, hplace, ?_⟩, List.mem_map.mpr ⟨_, hplace, ?_⟩⟩
    · rw [hdistance]
      omega
    · rw [hdistance]
  · cases h

end CaseRun

/-- The letters of ASCII as a run. -/
def asciiRun : CaseRun :=
  ⟨0x61, 0x7A, 1, 0x41⟩

def changedLetters : List Nat :=
  (asciiRun :: upperCaseRuns).flatMap CaseRun.letters ++ upperCaseExpansions.map (·.1)

/-- What they become. -/
def capitalLetters : List Nat :=
  (asciiRun :: upperCaseRuns).flatMap CaseRun.capitals ++ upperCaseExpansions.flatMap (·.2)

theorem bits_capitalLetters : bits capitalLetters &&& bits changedLetters = 0 := by
  decide +kernel

theorem isValidChar_of_mem_capitalLetters : ∀ code ∈ capitalLetters, code.isValidChar := by
  decide +kernel

-- ---------------------------------------------------------------------------
-- Upper case
-- ---------------------------------------------------------------------------

/-- A character that is no letter of the tables is left alone. -/
theorem upperOf_of_notMem {c : Char} (h : c.toNat ∉ changedLetters) : upperOf c = [c] := by
  have hruns : ∀ run ∈ asciiRun :: upperCaseRuns, run.upper? c.toNat = none := by
    intro run hrun
    by_contra hsome
    obtain ⟨capital, hcapital⟩ := Option.ne_none_iff_exists'.mp hsome
    obtain ⟨hletter, -⟩ := CaseRun.mem_of_upper? hcapital
    exact h (List.mem_append_left _ (List.mem_flatMap.mpr ⟨run, hrun, hletter⟩))
  obtain ⟨hascii, hothers⟩ := List.forall_mem_cons.mp hruns
  unfold upperOf
  split
  · have hlower : isLower c = false := by
      simpa [CaseRun.upper?, asciiRun, Nat.mod_one, isLower] using hascii
    rw [hlower]
    rfl
  · have hexpansions : upperCaseExpansions.lookup c.toNat = none := by
      refine List.lookup_eq_none_iff.mpr fun entry hentry => bne_iff_ne.mpr fun hcode => ?_
      exact h (List.mem_append_right _ (hcode ▸ List.mem_map_of_mem hentry))
    rw [hexpansions, List.findSome?_eq_none_iff.mpr hothers]
    rfl

theorem upperOf_ofNat_of_mem {code : Nat} (h : code ∈ capitalLetters) :
    upperOf (Char.ofNat code) = [Char.ofNat code] := by
  have hvalid : (Char.ofNat code).toNat = code := by
    rw [Char.ofNat, dif_pos (isValidChar_of_mem_capitalLetters code h)]
    rfl
  refine upperOf_of_notMem ?_
  rw [hvalid]
  exact notMem_of_bits bits_capitalLetters h

/-- A character is left alone, or becomes capitals of the tables. -/
theorem upperOf_cases (c : Char) :
    upperOf c = [c] ∨ ∀ d ∈ upperOf c, ∃ code ∈ capitalLetters, d = Char.ofNat code := by
  have hrun : ∀ run ∈ asciiRun :: upperCaseRuns, ∀ capital, run.upper? c.toNat = some capital →
      capital ∈ capitalLetters := by
    intro run hrun capital hcapital
    exact List.mem_append_left _
      (List.mem_flatMap.mpr ⟨run, hrun, (CaseRun.mem_of_upper? hcapital).2⟩)
  unfold upperOf
  split
  · by_cases hlower : isLower c
    · have hrange : 0x61 ≤ c.toNat ∧ c.toNat ≤ 0x7A := by simpa [isLower] using hlower
      have hdistance : 0x41 + (c.toNat - 0x61) = c.toNat - 32 := by omega
      have hcapital : asciiRun.upper? c.toNat = some (c.toNat - 32) := by
        rw [CaseRun.upper?, if_pos ⟨hrange.1, hrange.2, Nat.mod_one _⟩]
        exact congrArg some hdistance
      rw [if_pos hlower]
      exact .inr (List.forall_mem_singleton.mpr ⟨_, hrun _ List.mem_cons_self _ hcapital, rfl⟩)
    · rw [if_neg hlower]
      exact .inl rfl
  · cases hexpansion : upperCaseExpansions.lookup c.toNat with
    | some codes =>
      right
      intro d hd
      obtain ⟨code, hcode, rfl⟩ := List.mem_map.mp hd
      obtain ⟨before, after, htable, -⟩ := List.lookup_eq_some_iff.mp hexpansion
      have hentry : (c.toNat, codes) ∈ upperCaseExpansions := by
        rw [htable]
        exact List.mem_append_right _ List.mem_cons_self
      exact ⟨code, List.mem_append_right _ (List.mem_flatMap.mpr ⟨_, hentry, hcode⟩), rfl⟩
    | none =>
      cases hfound : upperCaseRuns.findSome? (·.upper? c.toNat) with
      | none => exact .inl rfl
      | some capital =>
        obtain ⟨run, hmem, hcapital⟩ := List.exists_of_findSome?_eq_some hfound
        exact .inr (List.forall_mem_singleton.mpr
          ⟨capital, hrun run (List.mem_cons_of_mem _ hmem) capital hcapital, rfl⟩)

theorem flatMap_upperOf (c : Char) : (upperOf c).flatMap upperOf = upperOf c := by
  rcases upperOf_cases c with halone | hcapitals
  · rw [halone, List.flatMap_singleton, halone]
  · have hfixed : ∀ d ∈ upperOf c, upperOf d = [d] := by
      intro d hd
      obtain ⟨code, hcode, rfl⟩ := hcapitals d hd
      exact upperOf_ofNat_of_mem hcode
    exact (List.flatMap_congr hfixed).trans (List.flatMap_singleton' _)

/-- A text in upper case is its own upper case. -/
theorem upper_upper (s : String) : upper (upper s) = upper s := by
  unfold upper
  rw [String.toList_ofList, List.flatMap_assoc]
  exact congrArg String.ofList (List.flatMap_congr fun c _ => flatMap_upperOf c)

end Promotion.Text
