import Promotion.Proofs.Cutting
import Promotion.Text.UpperCase

/-!
# Spellings

Texts that differ only in the case of ASCII letters have the same capitals and the same blanks
around them. Of all of them the one in small letters comes last in the order of texts
(`Text.SameLetters.eq_or_lt`).
-/

namespace Promotion.Text

variable {code other : String}

/-- Texts that differ at most in the case of ASCII letters. -/
def SameLetters (s t : String) : Prop :=
  s.toList.map lower = t.toList.map lower
deriving Decidable

def InSmallLetters (s : String) : Prop :=
  ∀ c ∈ s.toList, ¬isUpper c

instance (s : String) : Decidable (InSmallLetters s) :=
  List.decidableBAll _ _

-- ---------------------------------------------------------------------------
-- Capitals
-- ---------------------------------------------------------------------------

theorem upperOf_lower (c : Char) : upperOf (lower c) = upperOf c := by
  by_cases h : isUpper c
  · have hrange : 65 ≤ c.toNat ∧ c.toNat ≤ 90 := by simpa [isUpper] using h
    have hlower := toNat_lower_of_isUpper h
    have hletter : isLower (lower c) = true := by simp [isLower, hlower]; omega
    have hcapital : isLower c = false := by simp [isLower]; omega
    unfold upperOf
    simp only [hletter, hcapital, hlower, Bool.false_eq_true, if_true, if_false]
    rw [if_pos (by omega), if_pos (by omega), Nat.add_sub_cancel, Char.ofNat_toNat]
  · rw [lower, if_neg h]

theorem upper_eq_of_sameLetters (h : SameLetters code other) : upper other = upper code := by
  have hupper : ∀ s : String, s.toList.flatMap upperOf = (s.toList.map lower).flatMap upperOf := by
    intro s
    rw [List.flatMap_map]
    exact List.flatMap_congr fun c _ => (upperOf_lower c).symm
  rw [upper, upper, hupper, hupper, h]

theorem upperOf_ne_nil (c : Char) : upperOf c ≠ [] := by
  have hexpansions : ∀ entry ∈ upperCaseExpansions, entry.2 ≠ [] := by decide
  unfold upperOf
  split
  · exact List.cons_ne_nil _ _
  · cases hexpansion : upperCaseExpansions.lookup c.toNat with
    | none => exact List.cons_ne_nil _ _
    | some codes =>
      obtain ⟨before, after, htable, -⟩ := List.lookup_eq_some_iff.mp hexpansion
      have hentry : (c.toNat, codes) ∈ upperCaseExpansions :=
        htable ▸ List.mem_append_right _ List.mem_cons_self
      exact fun hnil => hexpansions _ hentry (List.map_eq_nil_iff.mp hnil)

theorem upper_eq_empty_iff {s : String} : upper s = "" ↔ s = "" := by
  rw [upper, ← String.toList_inj, ← String.toList_inj, String.toList_ofList]
  constructor
  · intro h
    cases hs : s.toList with
    | nil => rfl
    | cons c cs =>
      rw [hs, List.flatMap_cons] at h
      exact absurd (List.append_eq_nil_iff.mp h).1 (upperOf_ne_nil c)
  · intro h
    rw [h]
    rfl

-- ---------------------------------------------------------------------------
-- Blanks
-- ---------------------------------------------------------------------------

theorem isBlank_lower (c : Char) : isBlank (lower c) = isBlank c := by
  by_cases h : isUpper c
  · have hrange : 65 ≤ c.toNat ∧ c.toNat ≤ 90 := by simpa [isUpper] using h
    have hlower := toNat_lower_of_isUpper h
    have hnot : isBlank c = false := by simp [isBlank]; omega
    have hnot' : isBlank (lower c) = false := by simp [isBlank, hlower]; omega
    rw [hnot, hnot']
  · rw [lower, if_neg h]

theorem trimmed_map_lower (cs : List Char) : trimmed (cs.map lower) = (trimmed cs).map lower := by
  have hblank : isBlank ∘ lower = isBlank := funext isBlank_lower
  rw [trimmed, trimmed, trimmedEnd, trimmedEnd, List.dropWhile_map, hblank, ← List.map_reverse,
    List.dropWhile_map, hblank, List.map_reverse]

theorem SameLetters.trim (h : SameLetters code other) : SameLetters (trim code) (trim other) := by
  have heq : code.toList.map lower = other.toList.map lower := h
  unfold SameLetters Text.trim
  rw [String.toList_ofList, String.toList_ofList, ← trimmed_map_lower, ← trimmed_map_lower, heq]

theorem trim_eq_empty_iff {s : String} : trim s = "" ↔ isBlankText s := by
  rw [Text.trim, ← String.toList_inj, String.toList_ofList, isBlankText, List.all_eq_true]
  exact trimmed_eq_nil_iff

-- ---------------------------------------------------------------------------
-- Order
-- ---------------------------------------------------------------------------

theorem eq_or_lt_lower (c : Char) : c = lower c ∨ c < lower c := by
  by_cases h : isUpper c
  · have hlower := toNat_lower_of_isUpper h
    right
    change c.toNat < (lower c).toNat
    omega
  · rw [lower, if_neg h]
    exact .inl rfl

theorem eq_or_lt_map_lower (cs : List Char) : cs = cs.map lower ∨ cs < cs.map lower := by
  induction cs with
  | nil => exact .inl rfl
  | cons c cs ih =>
    rw [List.map_cons, List.cons_lt_cons_iff, List.cons.injEq]
    rcases eq_or_lt_lower c with heq | hlt
    · rw [← heq]
      exact ih.imp (fun h => ⟨rfl, h⟩) (fun h => .inr ⟨rfl, h⟩)
    · exact .inr (.inl hlt)

theorem map_lower_of_inSmallLetters (h : InSmallLetters code) :
    code.toList.map lower = code.toList := by
  refine (List.map_congr_left fun c hc => ?_).trans (List.map_id _)
  rw [lower, if_neg (h c hc)]
  rfl

/-- No other spelling comes after the one in small letters. -/
theorem SameLetters.eq_or_lt (h : SameLetters code other) (hsmall : InSmallLetters code) :
    other = code ∨ other < code := by
  have heq : code.toList = other.toList.map lower :=
    (map_lower_of_inSmallLetters hsmall).symm.trans h
  have hcases := eq_or_lt_map_lower other.toList
  rw [← heq, String.toList_inj] at hcases
  exact hcases

end Promotion.Text
