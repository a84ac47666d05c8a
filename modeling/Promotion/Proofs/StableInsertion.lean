import Mathlib.Algebra.Group.Nat.Defs
import Mathlib.Data.List.Nodup
import Promotion.Placement
import Promotion.Proofs.Fields

/-!
# Actions put into a sequence

To put actions in at their places is to merge them with the sequence: every item of the result comes
either from the sequence or from those that were given, and the one list that keeps both in order is
found by comparing positions with indices (`place_eq_map_origins`). The positions may come in any
order, repeat, or lie beyond the end. They count in 64 bits, though, and a place that moves on past
the last position leaves no result: there is one just if above each position there is room for the
actions given up to it (`inRange_iff`).
-/

namespace Promotion.Placed

/-- An action of the result and where it comes from. -/
inductive Origin where
  /-- The action of the sequence at an index. -/
  | own (action : Action) (index : Nat)
  /-- The action that was given at an index among those to be put in. -/
  | given (placed : Placed) (index : Nat)

def positionLE (a b : Placed) : Bool :=
  a.position ≤ b.position

namespace Origin

def action : Origin → Action
  | own action _ => action
  | given placed _ => placed.action

/-- The action and its index, if it is one of the sequence. -/
def own? : Origin → Option (Action × Nat)
  | own action index => some (action, index)
  | given _ _ => none

/-- The action with its place and its index, if it was given. -/
def given? : Origin → Option (Placed × Nat)
  | own _ _ => none
  | given placed index => some (placed, index)

/-- The order of the result. Of two actions given for one position the earlier one comes first, and
both come before the action of the sequence that stands there. -/
def le : Origin → Origin → Bool
  | own _ m, own _ n => m ≤ n
  | own _ m, given p _ => m < p.position
  | given p _, own _ n => p.position ≤ n
  | given p i, given q j => List.zipIdxLE positionLE (p, i) (q, j)

theorem le_given_iff {p q : Placed} {i j : Nat} :
    le (given p i) (given q j) ↔ p.position < q.position ∨ p.position = q.position ∧ i ≤ j := by
  simp only [le, List.zipIdxLE, positionLE, decide_eq_true_eq]
  grind

theorem le_trans (a b c : Origin) (hab : le a b) (hbc : le b c) : le a c := by
  cases a <;> cases b <;> cases c <;> grind [le_given_iff, le]

theorem le_total (a b : Origin) : le a b || le b a := by
  rw [Bool.or_eq_true]
  cases a <;> cases b <;> grind [le_given_iff, le]

end Origin

variable {actions front rest : List Action} {placed later : List Placed} {entry : Placed}

/-- The actions of a sequence, from the index `start` on. -/
def ownFrom (start : Nat) (actions : List Action) : List Origin :=
  (actions.zipIdx start).map fun (action, index) => .own action index

/-- Actions to be put in as items of the result. -/
def givenOnes (given : List (Placed × Nat)) : List Origin :=
  given.map fun (entry, index) => .given entry index

/-- The actions to be put in, in the order in which that is done. -/
def inOrder (placed : List Placed) : List (Placed × Nat) :=
  placed.zipIdx.mergeSort (List.zipIdxLE positionLE)

/-- The items of the result in their order. -/
def origins (actions : List Action) (placed : List Placed) : List Origin :=
  (givenOnes (inOrder placed)).merge (ownFrom 0 actions) Origin.le

/-- No place moves on past the last position: above every position there is room for the actions
given up to it. -/
def Fits (placed : List Placed) : Prop :=
  ∀ entry ∈ placed, entry.position + placed.countP (·.position ≤ entry.position) ≤ 2 ^ 64

-- ---------------------------------------------------------------------------
-- Putting in and merging
-- ---------------------------------------------------------------------------

theorem map_action_ownFrom (start : Nat) (actions : List Action) :
    (ownFrom start actions).map Origin.action = actions := by
  rw [ownFrom, List.map_map]
  exact List.zipIdx_map_fst start actions

/-- An action whose place is right behind the `front` goes there. -/
theorem insertAll_cons {done : Nat}
    (hplace : min (entry.position + done) (front ++ rest).length = front.length) :
    insertAll (front ++ rest) done (entry :: later) =
      insertAll (front ++ [entry.action] ++ rest) (done + 1) later := by
  rw [insertAll, hplace, insertIdx_append_length, List.append_assoc, List.singleton_append]

/-- Behind a `front` in which the actions of the sequence up to `start` and those put in stand
already, the others of both are merged. -/
theorem insertAll_eq_merge (given : List (Placed × Nat)) (front rest : List Action)
    (start done : Nat) (hfront : front.length = start + done)
    (hstart : ∀ g ∈ given, start ≤ g.1.position)
    (hsorted : given.Pairwise fun g h => g.1.position ≤ h.1.position) :
    insertAll (front ++ rest) done (given.map (·.1)) =
      front ++ ((givenOnes given).merge (ownFrom start rest) Origin.le).map Origin.action := by
  induction given generalizing front rest start done with
  | nil => rw [givenOnes, List.map_nil, List.map_nil, List.nil_merge, map_action_ownFrom, insertAll]
  | cons g given ih =>
    obtain ⟨entry, index⟩ := g
    obtain ⟨hbelow, hpairwise⟩ := List.pairwise_cons.mp hsorted
    -- once the action stands behind the front, those after it are put in
    have hput : ∀ (front rest : List Action) (start : Nat), front.length = start + done →
        (∀ g ∈ (entry, index) :: given, start ≤ g.1.position) →
        insertAll (front ++ [entry.action] ++ rest) (done + 1) (given.map (·.1)) =
          front ++ entry.action ::
            ((givenOnes given).merge (ownFrom start rest) Origin.le).map Origin.action := by
      intro front rest start hfront hstart
      have hlength : (front ++ [entry.action]).length = start + (done + 1) := by
        rw [List.length_append, hfront, List.length_singleton, Nat.add_assoc]
      rw [ih (front ++ [entry.action]) rest start (done + 1) hlength
        (List.forall_mem_cons.mp hstart).2 hpairwise, List.append_assoc, List.singleton_append]
    induction rest generalizing front start with
    | nil =>
      have hentry : start ≤ entry.position := hstart _ List.mem_cons_self
      have hplace : min (entry.position + done) (front ++ []).length = front.length := by
        rw [List.append_nil]
        omega
      rw [List.map_cons, insertAll_cons hplace, hput front [] start hfront hstart]
      simp [givenOnes, ownFrom, Origin.action]
    | cons action rest ihrest =>
      by_cases hhere : entry.position ≤ start
      · have hentry : start ≤ entry.position := hstart _ List.mem_cons_self
        have hplace :
            min (entry.position + done) (front ++ action :: rest).length = front.length := by
          rw [List.length_append, List.length_cons]
          omega
        rw [List.map_cons, insertAll_cons hplace, hput front _ start hfront hstart]
        simp [givenOnes, ownFrom, Origin.action, Origin.le, hhere]
      · have hbeyond : ∀ g ∈ (entry, index) :: given, start + 1 ≤ g.1.position :=
          List.forall_mem_cons.mpr
            ⟨Nat.not_le.mp hhere, fun g hg =>
              Nat.lt_of_lt_of_le (Nat.not_le.mp hhere) (hbelow g hg)⟩
        have hlength : (front ++ [action]).length = start + 1 + done := by
          rw [List.length_append, hfront, List.length_singleton, Nat.add_right_comm]
        have hnext := ihrest (front ++ [action]) (start + 1) hlength hbeyond
        rw [List.append_assoc, List.singleton_append] at hnext
        rw [hnext, List.append_assoc, List.singleton_append]
        simp [givenOnes, ownFrom, Origin.action, Origin.le, hhere]

-- ---------------------------------------------------------------------------
-- The items of the result
-- ---------------------------------------------------------------------------

theorem positionLE_trans (a b c : Placed) (hab : positionLE a b) (hbc : positionLE b c) :
    positionLE a c :=
  decide_eq_true (Nat.le_trans (of_decide_eq_true hab) (of_decide_eq_true hbc))

theorem positionLE_total (a b : Placed) : positionLE a b || positionLE b a := by
  simpa [positionLE] using Nat.le_total a.position b.position

theorem pairwise_givenOnes (placed : List Placed) :
    (givenOnes (inOrder placed)).Pairwise fun a b => Origin.le a b :=
  List.pairwise_map.mpr <| List.pairwise_mergeSort (List.zipIdxLE_trans positionLE_trans)
    (List.zipIdxLE_total positionLE_total) placed.zipIdx

theorem pairwise_ownFrom (start : Nat) (actions : List Action) :
    (ownFrom start actions).Pairwise fun a b => Origin.le a b := by
  induction actions generalizing start with
  | nil => exact List.Pairwise.nil
  | cons action actions ih =>
    refine List.pairwise_cons.mpr ⟨fun b hb => ?_, ih (start + 1)⟩
    obtain ⟨⟨later, index⟩, hmem, rfl⟩ := List.mem_map.mp hb
    have hindex := List.le_snd_of_mem_zipIdx hmem
    simp only [Origin.le, decide_eq_true_eq]
    omega

theorem pairwise_origins (actions : List Action) (placed : List Placed) :
    (origins actions placed).Pairwise fun a b => Origin.le a b :=
  List.pairwise_merge Origin.le_trans Origin.le_total _ _ (pairwise_givenOnes placed)
    (pairwise_ownFrom 0 actions)

theorem origins_perm (actions : List Action) (placed : List Placed) :
    (origins actions placed).Perm (givenOnes (inOrder placed) ++ ownFrom 0 actions) :=
  List.merge_perm_append Origin.le

theorem filterMap_own?_ownFrom (start : Nat) (actions : List Action) :
    (ownFrom start actions).filterMap Origin.own? = actions.zipIdx start := by
  rw [ownFrom, List.filterMap_map]
  exact List.filterMap_some

theorem filterMap_given?_ownFrom (start : Nat) (actions : List Action) :
    (ownFrom start actions).filterMap Origin.given? = [] := by
  rw [ownFrom, List.filterMap_map]
  exact List.filterMap_none _

theorem filterMap_own?_givenOnes (given : List (Placed × Nat)) :
    (givenOnes given).filterMap Origin.own? = [] := by
  rw [givenOnes, List.filterMap_map]
  exact List.filterMap_none _

theorem filterMap_given?_givenOnes (given : List (Placed × Nat)) :
    (givenOnes given).filterMap Origin.given? = given := by
  rw [givenOnes, List.filterMap_map]
  exact List.filterMap_some

/-- Every action that was given stands in the result once. -/
theorem filterMap_given?_origins (actions : List Action) (placed : List Placed) :
    ((origins actions placed).filterMap Origin.given?).Perm placed.zipIdx := by
  have hperm := (origins_perm actions placed).filterMap Origin.given?
  rw [List.filterMap_append, filterMap_given?_givenOnes, filterMap_given?_ownFrom,
    List.append_nil] at hperm
  exact hperm.trans (List.mergeSort_perm _ _)

/-- The actions of the sequence keep their order. -/
theorem filterMap_own?_origins (actions : List Action) (placed : List Placed) :
    (origins actions placed).filterMap Origin.own? = actions.zipIdx := by
  have hperm := (origins_perm actions placed).filterMap Origin.own?
  rw [List.filterMap_append, filterMap_own?_givenOnes, filterMap_own?_ownFrom,
    List.nil_append] at hperm
  have hindices : ∀ {items : List Origin}, items.Pairwise (fun a b => Origin.le a b) →
      (items.filterMap Origin.own?).Pairwise fun a b => a.2 ≤ b.2 := by
    intro items hitems
    refine List.Pairwise.filterMap _ ?_ hitems
    intro a b hle x hx y hy
    cases a <;> cases hx
    cases b <;> cases hy
    exact of_decide_eq_true hle
  refine List.Perm.eq_of_pairwise ?_ (hindices (pairwise_origins actions placed)) ?_ hperm
  · rintro ⟨a, i⟩ ⟨b, j⟩ ha hb hij hji
    obtain rfl : i = j := Nat.le_antisymm hij hji
    rw [hperm.mem_iff, List.mk_mem_zipIdx_iff_getElem?] at ha
    rw [List.mk_mem_zipIdx_iff_getElem?] at hb
    rw [Option.some_inj.mp (ha.symm.trans hb)]
  · rw [← filterMap_own?_ownFrom]
    exact hindices (pairwise_ownFrom 0 actions)

/-- Actions that were given stand in the order of their positions, those of one position in the
order in which they were given. -/
theorem pairwise_filterMap_given? (actions : List Action) (placed : List Placed) :
    ((origins actions placed).filterMap Origin.given?).Pairwise fun a b =>
      a.1.position < b.1.position ∨ a.1.position = b.1.position ∧ a.2 < b.2 := by
  have hle : ((origins actions placed).filterMap Origin.given?).Pairwise fun a b =>
      a.1.position < b.1.position ∨ a.1.position = b.1.position ∧ a.2 ≤ b.2 := by
    refine List.Pairwise.filterMap _ ?_ (pairwise_origins actions placed)
    intro a b hle x hx y hy
    cases a <;> cases hx
    cases b <;> cases hy
    exact Origin.le_given_iff.mp hle
  have hne : ((origins actions placed).filterMap Origin.given?).Pairwise fun a b => a.2 ≠ b.2 := by
    have hnodup : (placed.zipIdx.map Prod.snd).Nodup := by
      rw [List.zipIdx_map_snd]
      exact List.nodup_range'
    have hperm := (filterMap_given?_origins actions placed).map Prod.snd
    exact List.pairwise_map.mp (hperm.nodup_iff.mpr hnodup)
  exact hle.imp₂ (fun a b hle hne => by omega) hne

/-- Of numbered entries parted at the number `k` the first part has `k`, or all there are. -/
theorem length_of_append_eq_zipIdx {α : Type} {xs ys : List (α × Nat)} {l : List α} {k : Nat}
    (h : xs ++ ys = l.zipIdx) (hxs : ∀ x ∈ xs, x.2 < k) (hys : ∀ y ∈ ys, k ≤ y.2) :
    xs.length = min k l.length := by
  have hnumber : ∀ {x : α × Nat} {i : Nat}, (xs ++ ys)[i]? = some x → x.2 = i := by
    intro x i hx
    rw [h, List.getElem?_zipIdx, Option.map_eq_some_iff] at hx
    obtain ⟨a, -, rfl⟩ := hx
    exact Nat.zero_add i
  have hlength : xs.length + ys.length = l.length := by
    rw [← List.length_append, h, List.length_zipIdx]
  have hle : xs.length ≤ k := by
    cases hlast : xs.getLast? with
    | none => simp [List.getLast?_eq_none_iff.mp hlast]
    | some x =>
      obtain ⟨front, rfl⟩ := List.getLast?_eq_some_iff.mp hlast
      have hx : x.2 = front.length := hnumber (by simp)
      have hlt := hxs x (by simp)
      rw [List.length_append, List.length_singleton]
      omega
  have hge : k ≤ xs.length ∨ ys = [] := by
    cases ys with
    | nil => exact .inr rfl
    | cons y ys =>
      have hy : y.2 = xs.length := hnumber (by simp)
      exact .inl (hy ▸ hys y List.mem_cons_self)
  rcases hge with hge | rfl
  · omega
  · rw [List.length_nil] at hlength
    omega

/-- Before an action that was given there are as many of the sequence as its position says. -/
theorem length_own?_before {before after : List Origin} {index : Nat}
    (h : origins actions placed = before ++ .given entry index :: after) :
    (before.filterMap Origin.own?).length = min entry.position actions.length := by
  have hpairwise := pairwise_origins actions placed
  have hown := filterMap_own?_origins actions placed
  rw [h] at hpairwise hown
  rw [List.filterMap_append, List.filterMap_cons_none rfl] at hown
  obtain ⟨-, hrest, hacross⟩ := List.pairwise_append.mp hpairwise
  refine length_of_append_eq_zipIdx hown (fun x hx => ?_) (fun y hy => ?_)
  · obtain ⟨origin, hmem, hsome⟩ := List.mem_filterMap.mp hx
    have hle := hacross origin hmem _ List.mem_cons_self
    cases origin <;> cases hsome
    exact of_decide_eq_true hle
  · obtain ⟨origin, hmem, hsome⟩ := List.mem_filterMap.mp hy
    have hle := (List.pairwise_cons.mp hrest).1 origin hmem
    cases origin <;> cases hsome
    exact of_decide_eq_true hle

-- ---------------------------------------------------------------------------
-- The result
-- ---------------------------------------------------------------------------

theorem pairwise_byPosition (placed : List Placed) :
    (byPosition placed).Pairwise fun a b => a.position ≤ b.position :=
  (List.pairwise_mergeSort positionLE_trans positionLE_total placed).imp of_decide_eq_true

theorem byPosition_perm (placed : List Placed) : (byPosition placed).Perm placed :=
  List.mergeSort_perm placed positionLE

theorem place_eq_map_origins (actions : List Action) (placed : List Placed) :
    place actions placed = (origins actions placed).map Origin.action := by
  have hsort : byPosition placed = (inOrder placed).map (·.1) := List.mergeSort_zipIdx.symm
  have hsorted : (inOrder placed).Pairwise fun g h => g.1.position ≤ h.1.position := by
    have hpairwise := pairwise_byPosition placed
    rwa [hsort, List.pairwise_map] at hpairwise
  rw [place, hsort]
  exact insertAll_eq_merge (inOrder placed) [] actions 0 0 rfl (fun _ _ => Nat.zero_le _) hsorted

theorem length_place (actions : List Action) (placed : List Placed) :
    (place actions placed).length = actions.length + placed.length := by
  rw [place_eq_map_origins, List.length_map, (origins_perm actions placed).length_eq,
    List.length_append, Nat.add_comm, givenOnes, ownFrom, inOrder]
  simp only [List.length_map, List.length_mergeSort, List.length_zipIdx]

/-- The result holds the actions of the sequence in their order, and every one that was given behind
as many of them as its position says, the last position standing for all that are beyond. Those
behind equally many stand in the order of their positions, those of one position in the order in
which they were given. -/
structure IsStableMerge (actions : List Action) (placed : List Placed) (items : List Origin) :
    Prop where
  own : items.filterMap Origin.own? = actions.zipIdx
  given : (items.filterMap Origin.given?).Perm placed.zipIdx
  before : ∀ before entry index after, items = before ++ .given entry index :: after →
    (before.filterMap Origin.own?).length = min entry.position actions.length
  sorted : (items.filterMap Origin.given?).Pairwise fun a b =>
    a.1.position < b.1.position ∨ a.1.position = b.1.position ∧ a.2 < b.2

theorem isStableMerge_origins (actions : List Action) (placed : List Placed) :
    IsStableMerge actions placed (origins actions placed) where
  own := filterMap_own?_origins actions placed
  given := filterMap_given?_origins actions placed
  before _ _ _ _ := length_own?_before
  sorted := pairwise_filterMap_given? actions placed

-- ---------------------------------------------------------------------------
-- Positions of 64 bits
-- ---------------------------------------------------------------------------

/-- Where positions do not fall, those up to a bound come first. -/
theorem getElem_position_le_iff {sorted : List Placed} (bound : Nat)
    (hsorted : sorted.Pairwise fun a b => a.position ≤ b.position) {number : Nat}
    (hnumber : number < sorted.length) :
    sorted[number].position ≤ bound ↔ number < sorted.countP (·.position ≤ bound) := by
  induction sorted generalizing number with
  | nil => cases hnumber
  | cons entry sorted ih =>
    obtain ⟨hbelow, hsorted⟩ := List.pairwise_cons.mp hsorted
    by_cases hentry : entry.position ≤ bound
    · rw [List.countP_cons_of_pos (by simpa using hentry)]
      cases number with
      | zero => simp [hentry]
      | succ number => simp [ih hsorted (Nat.lt_of_succ_lt_succ hnumber)]
    · -- the first position is beyond the bound already, and so are all others
      have hbeyond : ∀ other ∈ entry :: sorted, ¬other.position ≤ bound :=
        List.forall_mem_cons.mpr
          ⟨hentry, fun other hother hle => hentry (Nat.le_trans (hbelow other hother) hle)⟩
      have hnone : (entry :: sorted).countP (·.position ≤ bound) = 0 :=
        List.countP_eq_zero.mpr fun other hother => by simpa using hbeyond other hother
      simpa [hnone] using hbeyond _ (List.getElem_mem hnumber)

theorem inRange_iff_getElem :
    inRange placed ↔ ∀ (number : Nat) (h : number < (byPosition placed).length),
      (byPosition placed)[number].position + number < 2 ^ 64 := by
  simp only [inRange, List.all_eq_true, decide_eq_true_eq]
  constructor
  · intro hall number hnumber
    exact hall (_, number)
      (List.mk_mem_zipIdx_iff_getElem?.mpr (List.getElem?_eq_getElem hnumber))
  · rintro hall ⟨entry, number⟩ hmem
    obtain ⟨hnumber, rfl⟩ :=
      List.getElem?_eq_some_iff.mp (List.mk_mem_zipIdx_iff_getElem?.mp hmem)
    exact hall number hnumber

/-- Of the entries up to a position the last one moves on furthest. -/
theorem inRange_iff : inRange placed ↔ Fits placed := by
  have hsorted := pairwise_byPosition placed
  have hperm := byPosition_perm placed
  have hfits : Fits placed ↔ ∀ entry ∈ byPosition placed,
      entry.position + (byPosition placed).countP (·.position ≤ entry.position) ≤ 2 ^ 64 := by
    simp only [Fits, hperm.countP_eq, hperm.mem_iff]
  rw [inRange_iff_getElem, hfits]
  constructor
  · intro hrange entry hentry
    obtain ⟨number, hnumber, rfl⟩ := List.getElem_of_mem hentry
    have hlt := (getElem_position_le_iff _ hsorted hnumber).mp (Nat.le_refl _)
    have hcount := List.countP_le_length (p := (·.position ≤ (byPosition placed)[number].position))
      (l := byPosition placed)
    -- the last of the entries up to this position moves on furthest, and is not before it
    obtain ⟨last, hlast⟩ := Nat.exists_eq_add_one_of_ne_zero (Nat.ne_zero_of_lt hlt)
    have hlastlt : last < (byPosition placed).length := by omega
    have hself := (getElem_position_le_iff _ hsorted hlastlt).mp (Nat.le_refl _)
    have hle : (byPosition placed)[number].position ≤ (byPosition placed)[last].position :=
      (getElem_position_le_iff _ hsorted hnumber).mpr (by omega)
    have hroom := hrange last hlastlt
    omega
  · intro hfits number hnumber
    have hlt := (getElem_position_le_iff _ hsorted hnumber).mp (Nat.le_refl _)
    have hroom := hfits _ (List.getElem_mem hnumber)
    omega

/-- Actions are put in by a stable merge where there is room for all positions, and otherwise there
is no result. -/
theorem place?_stable (actions : List Action) (placed : List Placed) :
    (Fits placed → ∃ result, place? actions placed = some result ∧
      result.length = actions.length + placed.length ∧
      ∃ items, result = items.map Origin.action ∧ IsStableMerge actions placed items) ∧
    (¬Fits placed → place? actions placed = none) := by
  refine ⟨fun hfits => ?_, fun hfits => ?_⟩
  · exact ⟨place actions placed, if_pos (inRange_iff.mpr hfits), length_place actions placed,
      origins actions placed, place_eq_map_origins actions placed,
      isStableMerge_origins actions placed⟩
  · exact if_neg fun hrange => hfits (inRange_iff.mp hrange)

/-- The greatest position for which there is room beside another action. -/
theorem place?_stable_of_greatest :
    let actions := [Action.removeLineItem "a", .removeLineItem "b"]
    let y : Placed := ⟨1, .removeLineItem "y"⟩
    let z : Placed := ⟨2 ^ 64 - 2, .removeLineItem "z"⟩
    Fits [z, y] ∧
      place? actions [z, y] = some (["a", "y", "b", "z"].map Action.removeLineItem) ∧
      ∃ items, ["a", "y", "b", "z"].map Action.removeLineItem = items.map Origin.action ∧
        IsStableMerge actions [z, y] items := by
  intro actions y z
  have hfits : Fits [z, y] := by
    intro entry hentry
    simp only [List.mem_cons, List.not_mem_nil, or_false] at hentry
    rcases hentry with rfl | rfl <;> simp [y, z]
  have hsort : byPosition [z, y] = [y, z] := by
    simp [byPosition, List.mergeSort, List.MergeSort.Internal.splitInTwo, y, z]
  have hplace : place? actions [z, y] = some (["a", "y", "b", "z"].map Action.removeLineItem) := by
    rw [place?, if_pos (inRange_iff.mpr hfits), place, hsort]
    simp [insertAll, actions, y, z]
  obtain ⟨result, hresult, -, items, hitems, hmerge⟩ := (place?_stable actions [z, y]).1 hfits
  rw [hplace, Option.some_inj] at hresult
  exact ⟨hfits, hplace, items, hresult.trans hitems, hmerge⟩

/-- The greatest position of all leaves no result as soon as another action is put in before. -/
theorem not_forall_place?_stable :
    ¬∀ (actions : List Action) (placed : List Placed),
      (∀ entry ∈ placed, entry.position < 2 ^ 64) →
        ∃ result, place? actions placed = some result ∧
          ∃ items, result = items.map Origin.action ∧ IsStableMerge actions placed items := by
  intro hall
  let y : Placed := ⟨0, .removeLineItem "y"⟩
  let z : Placed := ⟨2 ^ 64 - 1, .removeLineItem "z"⟩
  have hsort : byPosition [y, z] = [y, z] := List.mergeSort_of_pairwise (by simp [y, z])
  have hrange : inRange [y, z] = false := by
    rw [inRange, hsort]
    simp [y, z]
  have hplace : place? [.removeLineItem "a"] [y, z] = none := by
    rw [place?, hrange]
    rfl
  obtain ⟨result, hresult, -⟩ := hall [.removeLineItem "a"] [y, z] (by simp [y, z])
  rw [hplace] at hresult
  cases hresult

end Promotion.Placed
