import Promotion.Proofs.Fields

/-!
# Single fields absorbed by an action that sets all fields

An action that sets all custom fields takes in the single fields that stand before it. The rest
keeps its order, and the action moves forward by the number of actions that it has taken in. That
this keeps the meaning is said against a reference without absorbing: the single fields before the
action are carried out on their own, the action's own fields are laid over the outcome, and the
single fields after it follow.
-/

namespace Promotion

namespace Action

variable {actions : List Action} {fields : Dict Json}

-- ---------------------------------------------------------------------------
-- Carrying out single fields
-- ---------------------------------------------------------------------------

theorem updateFields_of_not_setsField {action : Action} (hall : action.setsAllFields = false)
    (hsingle : Placed.setsField action = false) (fields : Dict Json) :
    updateFields fields action = fields := by
  cases action with
  | setCustomField name value => cases hsingle
  | setCustomType typed => cases hall
  | _ => rfl

/-- Where no action sets all fields, the single fields are all that counts. -/
theorem fieldsAfter_filter_setsField (h : ∀ action ∈ actions, action.setsAllFields = false)
    (fields : Dict Json) :
    fieldsAfter fields (actions.filter Placed.setsField) = fieldsAfter fields actions := by
  induction actions generalizing fields with
  | nil => rfl
  | cons action rest ih =>
    obtain ⟨hfirst, hrest⟩ := List.forall_mem_cons.mp h
    have hrun : ∀ fields, fieldsAfter fields (action :: rest) =
        fieldsAfter (updateFields fields action) rest := fun _ => rfl
    cases hsingle : Placed.setsField action with
    | true =>
      rw [List.filter_cons_of_pos hsingle]
      exact ih hrest (updateFields fields action)
    | false =>
      rw [List.filter_cons_of_neg (by simp [hsingle]), ih hrest, hrun,
        updateFields_of_not_setsField hfirst hsingle]

theorem sorted_updateFields (h : fields.Sorted) {action : Action}
    (hall : action.setsAllFields = false) : (updateFields fields action).Sorted := by
  cases action with
  | setCustomField name value =>
    cases value with
    | none => exact h.erase
    | some value => exact h.insert
  | setCustomType typed => cases hall
  | _ => exact h

theorem sorted_fieldsAfter (h : fields.Sorted)
    (hall : ∀ action ∈ actions, action.setsAllFields = false) :
    (fieldsAfter fields actions).Sorted :=
  List.foldlRecOn actions _ h fun _ h action haction => sorted_updateFields h (hall action haction)

end Action

namespace Placed

open Promotion.Action

variable {actions : List Action} {own : TypedFields} {fields : Dict Json}

-- ---------------------------------------------------------------------------
-- The absorbed fields
-- ---------------------------------------------------------------------------

theorem sorted_absorbField (h : fields.Sorted) (owned : List String) (action : Action) :
    (absorbField owned fields action).Sorted := by
  cases action with
  | setCustomField name value =>
    simp only [absorbField]
    split
    · exact h
    · cases value with
      | none => exact h.erase
      | some value => exact h.insert
  | _ => exact h

/-- Absorbing fields is the same as carrying them out first, with what is owned laid over them. -/
theorem foldl_absorbField_eq_overlay {own : Dict Json} (hown : own.Sorted)
    (h : ∀ action ∈ actions, action.setsAllFields = false) :
    actions.foldl (absorbField own.keys) own = (fieldsAfter [] actions).overlay own := by
  have hsorted : (actions.foldl (absorbField own.keys) own).Sorted :=
    List.foldlRecOn actions _ hown fun _ h action _ => sorted_absorbField h own.keys action
  have hreference : ((fieldsAfter [] actions).overlay own).Sorted :=
    (sorted_fieldsAfter List.Pairwise.nil h).overlay own
  refine hsorted.ext hreference fun name => ?_
  rw [get?_foldl_absorbField, Dict.get?_overlay, get?_fieldsAfter h, Dict.get?_nil]
  by_cases howned : name ∈ own.keys
  · obtain ⟨value, hvalue⟩ := Dict.exists_get?_of_mem_keys howned
    rw [if_pos howned, hvalue]
    rfl
  · rw [if_neg howned, Dict.get?_eq_none_iff.mpr howned]
    rfl

-- ---------------------------------------------------------------------------
-- The actions that are left
-- ---------------------------------------------------------------------------

/-- A part of a list at whose beginning the elements of one sort are left out, told by the places of
the elements in the whole list. -/
theorem map_fst_filter_zipIdx {α : Type} (p : α → Bool) (l : List α) (n : Nat) :
    (l.zipIdx.filter fun (a, index) => !(p a && index < n)).map (·.1) =
      (l.take n).filter (!p ·) ++ l.drop n := by
  have hbefore : ((l.take n).zipIdx.filter fun (a, index) => !(p a && index < n)).map (·.1) =
      (l.take n).filter (!p ·) := by
    have hcongr : (l.take n).zipIdx.filter (fun (a, index) => !(p a && index < n)) =
        (l.take n).zipIdx.filter ((!p ·) ∘ (·.1)) := by
      refine List.filter_congr fun entry hentry => ?_
      have hlt := List.snd_lt_of_mem_zipIdx hentry
      have hlength := List.length_take_le n l
      simp [show entry.2 < n by omega]
    rw [hcongr, ← List.filter_map, List.zipIdx_map_fst]
  have hafter : (((l.drop n).zipIdx (l.take n).length).filter
      fun (a, index) => !(p a && index < n)).map (·.1) = l.drop n := by
    have hall : ((l.drop n).zipIdx (l.take n).length).filter
        (fun (a, index) => !(p a && index < n)) = (l.drop n).zipIdx (l.take n).length := by
      rw [List.filter_eq_self]
      intro entry hentry
      have hle := List.le_snd_of_mem_zipIdx hentry
      have hlt := List.snd_lt_add_of_mem_zipIdx hentry
      rw [List.length_take] at hle hlt
      rw [List.length_drop] at hlt
      simp [show ¬entry.2 < n by omega]
    rw [hall, List.zipIdx_map_fst]
  have hsplit : l.zipIdx = (l.take n).zipIdx ++ (l.drop n).zipIdx (l.take n).length := by
    rw [← Nat.zero_add (l.take n).length, ← List.zipIdx_append, List.take_append_drop]
  rw [hsplit, List.filter_append, List.map_append, hbefore, hafter]

theorem length_filter_not_setsField (part : List Action) :
    (part.filter fun action => !setsField action).length = part.length - part.countP setsField := by
  have htotal : part.length = part.countP setsField + part.countP fun action => ¬setsField action :=
    List.length_eq_countP_add_countP setsField
  have hkept : (part.filter fun action => !setsField action).length =
      part.countP fun action => ¬setsField action := by
    rw [← List.countP_eq_length_filter]
    exact List.countP_congr fun action _ => by simp
  omega

-- ---------------------------------------------------------------------------
-- The meaning
-- ---------------------------------------------------------------------------

/-- An action that sets all fields and stands after `position` others, also beyond the end, takes in
the single fields before it and nothing else. Its place moves forward by as many actions, of which
there are no more than stand before it, and counts those that are left there. Put in that place, it
gives a resource the fields that the reference gives it, whatever fields there were. -/
theorem absorb_keeps_meaning (actions : List Action) (position : Nat) (own : TypedFields)
    (hactions : ∀ action ∈ actions, action.setsAllFields = false) (hown : own.fields.Sorted) :
    let before := actions.take position
    let after := actions.drop position
    let absorbed := before.countP setsField
    let kept := (absorb actions ⟨position, .setCustomType own⟩).1
    let placed := (absorb actions ⟨position, .setCustomType own⟩).2
    absorbed ≤ min position actions.length ∧
      placed.position = min position actions.length - absorbed ∧
      placed.position = before.countP (!setsField ·) ∧
      kept = (actions.zipIdx.filter fun (action, index) =>
        !(setsField action && index < position)).map (·.1) ∧
      (∃ fields, placed.action = .setCustomType ⟨own.typeKey, fields⟩) ∧
      ∀ start, fieldsAfter start (place kept [placed]) =
        fieldsAfter ((fieldsAfter [] (before.filter setsField)).overlay own.fields)
          (after.filter setsField) := by
  intro before after absorbed kept placed
  have hfolded : absorb actions ⟨position, .setCustomType own⟩ = _ :=
    absorb_setCustomType actions position own
  have hplace : placed.position = (before.filter fun action => !setsField action).length :=
    congrArg (·.2.position) hfolded
  have hlength : before.length = min position actions.length := List.length_take
  have hbefore : ∀ action ∈ before, action.setsAllFields = false :=
    fun action haction => hactions action (List.mem_of_mem_take haction)
  have hafter : ∀ action ∈ after, action.setsAllFields = false :=
    fun action haction => hactions action (List.mem_of_mem_drop haction)
  refine ⟨?_, ?_, ?_, ?_, ⟨_, congrArg (·.2.action) hfolded⟩, fun start => ?_⟩
  · exact hlength ▸ List.countP_le_length
  · rw [hplace, length_filter_not_setsField, hlength]
  · rw [hplace, List.countP_eq_length_filter]
  · rw [map_fst_filter_zipIdx]
    exact congrArg (·.1) hfolded
  · rw [place_absorb, fieldsAfter_setCustomType, foldl_absorbField_eq_overlay hown hbefore,
      fieldsAfter_filter_setsField hbefore, fieldsAfter_filter_setsField hafter]

/-- A field set and taken away again, one that the action owns, and a change after it. -/
theorem absorb_keeps_meaning_of_owned_field :
    let own : TypedFields := ⟨"cart", [("flag", .bool true)]⟩
    let actions : List Action := [.setCustomField "coupon" (some (.string "SUMMER")),
      .removeLineItem "item-1", .setCustomField "flag" none, .setCustomField "note" (some .null),
      .setCustomField "coupon" none, .setCustomField "flag" (some (.bool false))]
    let kept := (absorb actions ⟨5, .setCustomType own⟩).1
    let placed := (absorb actions ⟨5, .setCustomType own⟩).2
    ((∀ action ∈ actions, action.setsAllFields = false) ∧ own.fields.Sorted) ∧
      placed.position = 5 - 4 ∧
      ∀ start, fieldsAfter start (place kept [placed]) =
        [("flag", .bool false), ("note", .null)] := by
  intro own actions kept placed
  have hactions : ∀ action ∈ actions, action.setsAllFields = false := by
    simp [actions, setsAllFields]
  have hown : own.fields.Sorted := List.pairwise_singleton _ _
  obtain ⟨-, hposition, -, -, -, hfields⟩ := absorb_keeps_meaning actions 5 own hactions hown
  exact ⟨⟨hactions, hown⟩, hposition, hfields⟩

end Placed

end Promotion
