import Mathlib.Data.Finset.Card
import Mathlib.Order.Bounds.Basic
import Promotion.Proofs.Slugs

/-!
# The first free slug

A slug that is taken gets a number, the least from two on that leads to a free one. Here the
candidates are tried one after another, without an end in sight (`Slug.Tries`), and it shows that
there is one: the candidates differ from each other, so that claimed slugs can stand in the way of
no more candidates than there are claimed slugs. `Slug.claim` gives what the search ends with.
-/

namespace Promotion

namespace Slug

variable {claimed : Finset String} {slug found : String} {k count : ℕ}

/-- The candidates for a slug in the order in which they are tried: the slug itself, and then those
with numbers from two on. -/
def candidate (slug : String) : ℕ → String
  | 0 => slug
  | k + 1 => numbered slug (k + 2)

/-- The search from candidate `k` on, with the number of candidates tried. Each of them is put into
the set of claimed slugs, and the search ends with the first that was not in there. Before it goes
on the number is raised, within 32 bits. -/
inductive Tries (claimed : Finset String) (slug : String) :
    ℕ → ℕ → String → Finset String → Prop where
  | free {k : ℕ} (hfree : candidate slug k ∉ claimed) :
      Tries claimed slug k 1 (candidate slug k) (insert (candidate slug k) claimed)
  | taken {k count : ℕ} {found : String} {after : Finset String}
      (htaken : candidate slug k ∈ claimed) (hrange : k + 2 < 2 ^ 31)
      (later : Tries claimed slug (k + 1) count found after) :
      Tries claimed slug k (count + 1) found after

theorem tries_of_taken {more : ℕ} (hbefore : ∀ less < more, candidate slug (k + less) ∈ claimed)
    (hfree : candidate slug (k + more) ∉ claimed) (hrange : k + more < 2 ^ 31 - 1) :
    Tries claimed slug k (more + 1) (candidate slug (k + more))
      (insert (candidate slug (k + more)) claimed) := by
  induction more generalizing k with
  | zero => exact .free hfree
  | succ more ih =>
    have hnext (less : ℕ) : k + (less + 1) = k + 1 + less := by omega
    rw [hnext] at hfree hrange ⊢
    refine .taken (hbefore 0 (Nat.succ_pos more)) (by omega) (ih ?_ hfree hrange)
    intro less hless
    rw [← hnext]
    exact hbefore (less + 1) (by omega)

/-- Every step is forced by the set. -/
theorem Tries.unique {count' : ℕ} {found' : String} {after after' : Finset String}
    (h : Tries claimed slug k count found after) (h' : Tries claimed slug k count' found' after') :
    count = count' ∧ found = found' ∧ after = after' := by
  induction h generalizing count' with
  | free hfree =>
    cases h' with
    | free _ => exact ⟨rfl, rfl, rfl⟩
    | taken htaken => exact absurd htaken hfree
  | taken htaken _ _ ih =>
    cases h' with
    | free hfree => exact absurd htaken hfree
    | taken _ _ later' =>
      obtain ⟨hcount, hfound, hafter⟩ := ih later'
      exact ⟨congrArg (· + 1) hcount, hfound, hafter⟩

/-- A claim gives the first candidate that is free. There are no more taken ones before it than there
are claimed slugs, whichever of the candidates these are. -/
theorem exists_candidate_of_claim (claimed : List String) (slug : String) :
    ∃ k ≤ claimed.toFinset.card, claim claimed slug = candidate slug k ∧
      (∀ less < k, candidate slug less ∈ claimed) ∧ candidate slug k ∉ claimed := by
  unfold claim
  split
  · rename_i htaken
    obtain ⟨more, -, hfound, hbefore, hfree⟩ := exists_firstFree claimed slug claimed.length 2
    have hmore := lt_length_of_claimed htaken hbefore
    have hdistinct : more < claimed.toFinset.card := by
      rw [List.card_toFinset]
      exact lt_length_of_claimed (List.mem_dedup.mpr htaken)
        fun less hless => List.mem_dedup.mpr (hbefore less hless)
    have hcandidate (more : ℕ) : candidate slug (more + 1) = numbered slug (2 + more) := by
      rw [candidate, Nat.add_comm]
    refine ⟨more + 1, hdistinct, hfound.trans (hcandidate more).symm, ?_, ?_⟩
    · intro less hless
      cases less with
      | zero => exact htaken
      | succ less =>
        rw [hcandidate]
        exact hbefore less (by omega)
    · rw [hcandidate]
      exact hfree hmore
  · rename_i hfree
    exact ⟨0, Nat.zero_le _, rfl, nofun, hfree⟩

/-- Whatever is claimed already, the search for a slug ends, after one candidate more than there are
claimed slugs at the most, and before the numbers leave 32 bits. It ends with the slug itself if that
is free, and else with the slug and the least number from two on that is free. The slug found was
not claimed, and it is all that the claimed slugs gain, those of a draft too when a line is added. -/
theorem claim_first_free (claimed : List String) (slug : String)
    (hcount : claimed.toFinset.card < 2 ^ 31 - 2) :
    (∃ tries ≤ claimed.toFinset.card + 1, ∀ count found after,
        Tries claimed.toFinset slug 0 count found after ↔
          count = tries ∧ found = claim claimed slug ∧
            after = insert (claim claimed slug) claimed.toFinset) ∧
      (slug ∉ claimed → claim claimed slug = slug) ∧
      (slug ∈ claimed →
        ∃ k, claim claimed slug = numbered slug k ∧
          IsLeast {k | 2 ≤ k ∧ numbered slug k ∉ claimed} k) ∧
      claim claimed slug ∉ claimed ∧
      ∀ (settings : Settings) (name currency : String) (value : Decimal)
        (fields : List (String × Json)) (draft after : Draft), draft.slugs = claimed →
        Settings.addLine draft
            (settings.discountLine name value currency slug fields draft.slugs) = .ok after →
          after.slugs = claimed ++ [claim claimed slug] := by
  obtain ⟨k, hk, hfound, hbefore, hfree⟩ := exists_candidate_of_claim claimed slug
  refine ⟨⟨k + 1, by omega, ?_⟩, ?_, ?_, hfound ▸ hfree, ?_⟩
  · intro count found after
    have htries : Tries claimed.toFinset slug 0 (k + 1) (claim claimed slug)
        (insert (claim claimed slug) claimed.toFinset) := by
      have h := @tries_of_taken claimed.toFinset slug 0 k
      simp only [Nat.zero_add, List.mem_toFinset] at h
      rw [hfound]
      exact h hbefore hfree (by omega)
    constructor
    · intro h
      exact h.unique htries
    · rintro ⟨rfl, rfl, rfl⟩
      exact htries
  · intro hslug
    cases k with
    | zero => exact hfound
    | succ k => exact absurd (hbefore 0 (Nat.succ_pos k)) hslug
  · intro hslug
    cases k with
    | zero => exact absurd hslug hfree
    | succ k =>
      refine ⟨k + 2, hfound, ⟨by omega, hfree⟩, ?_⟩
      rintro n ⟨hn, hnfree⟩
      by_contra hlt
      obtain ⟨less, rfl⟩ : ∃ less, n = less + 2 := ⟨n - 2, by omega⟩
      exact hnfree (hbefore (less + 1) (by omega))
  · intro settings name currency value fields draft after hslugs hafter
    unfold Settings.discountLine at hafter
    split at hafter
    · cases hafter
    · cases hafter
      rw [hslugs]

/-- A gap between claimed numbers is filled. -/
theorem claim_first_free_of_gap :
    let claimed := ["mug", "mug-2", "tea", "mug-4"]
    claimed.toFinset.card < 2 ^ 31 - 2 ∧ claim claimed "mug" = "mug-3" ∧ "mug-3" ∉ claimed ∧
      ∃ tries ≤ 5, ∀ count found after,
        Tries claimed.toFinset "mug" 0 count found after ↔
          count = tries ∧ found = "mug-3" ∧ after = insert "mug-3" claimed.toFinset := by
  intro claimed
  have hcard : claimed.toFinset.card = 4 := by decide +kernel
  have hcount : claimed.toFinset.card < 2 ^ 31 - 2 := by
    rw [hcard]
    decide
  have hclaim : claim claimed "mug" = "mug-3" := by decide +kernel
  obtain ⟨htries, -, -, hfree, -⟩ := claim_first_free claimed "mug" hcount
  rw [hclaim, hcard] at htries
  rw [hclaim] at hfree
  exact ⟨hcount, hclaim, hfree, htries⟩

end Slug

end Promotion
