import Promotion.Placement
import Promotion.Proofs.Dict

/-!
# Custom fields under actions

What the shop does to a resource's custom fields when it carries out actions: a single field is set
or taken away, and an action that sets all fields puts its own in place of those there are. Of the
single fields the last change of each name counts, both where they are carried out and where they
are absorbed by an action that sets all fields.
-/

namespace Promotion

namespace Action

def updateFields (fields : Dict Json) : Action → Dict Json
  | setCustomField name (some value) => fields.insert name value
  | setCustomField name none => fields.erase name
  | setCustomType typed => typed.fields
  | _ => fields

def fieldsAfter (fields : Dict Json) (actions : List Action) : Dict Json :=
  actions.foldl updateFields fields

def setsAllFields : Action → Bool
  | setCustomType _ => true
  | _ => false

/-- The change of the field of a name, if an action is one. -/
def fieldChange? (name : String) : Action → Option (Option Json)
  | setCustomField field value => if field = name then some value else none
  | _ => none

def lastChange? (name : String) (actions : List Action) : Option (Option Json) :=
  (actions.filterMap (fieldChange? name)).getLast?

@[simp] theorem lastChange?_nil (name : String) : lastChange? name [] = none := rfl

theorem lastChange?_append (name : String) (before after : List Action) :
    lastChange? name (before ++ after) = (lastChange? name after).or (lastChange? name before) := by
  simp [lastChange?]

theorem lastChange?_cons (name : String) (action : Action) (rest : List Action) :
    lastChange? name (action :: rest) = (lastChange? name rest).or (fieldChange? name action) := by
  rw [show action :: rest = [action] ++ rest from rfl, lastChange?_append]
  congr 1
  unfold lastChange?
  cases hchange : fieldChange? name action with
  | none => simp [hchange]
  | some change => simp [hchange]

-- ---------------------------------------------------------------------------
-- Carrying out
-- ---------------------------------------------------------------------------

theorem get?_updateFields {action : Action} (h : action.setsAllFields = false) (fields : Dict Json)
    (name : String) :
    (updateFields fields action).get? name =
      (fieldChange? name action).getD (fields.get? name) := by
  cases action with
  | setCustomField field value =>
    simp only [fieldChange?]
    by_cases hname : field = name
    · subst hname
      cases value <;> simp [updateFields]
    · have hne : name ≠ field := fun heq => hname heq.symm
      rw [if_neg hname]
      cases value with
      | none => exact Dict.get?_erase_of_ne hne
      | some value => exact Dict.get?_insert_of_ne hne
  | setCustomType typed => cases h
  | _ => rfl

theorem get?_fieldsAfter {actions : List Action} (h : ∀ a ∈ actions, a.setsAllFields = false)
    (fields : Dict Json) (name : String) :
    (fieldsAfter fields actions).get? name =
      (lastChange? name actions).getD (fields.get? name) := by
  induction actions generalizing fields with
  | nil => rfl
  | cons action rest ih =>
    obtain ⟨hfirst, hrest⟩ := List.forall_mem_cons.mp h
    have hstep := ih hrest (updateFields fields action)
    rw [get?_updateFields hfirst] at hstep
    rw [lastChange?_cons]
    refine hstep.trans ?_
    cases lastChange? name rest <;> simp

/-- What stands before an action that sets all fields does not count. -/
theorem fieldsAfter_setCustomType (fields : Dict Json) (before after : List Action)
    (typed : TypedFields) :
    fieldsAfter fields (before ++ setCustomType typed :: after) =
      fieldsAfter typed.fields after := by
  simp [fieldsAfter, updateFields]

end Action

namespace Placed

open Promotion.Action

-- ---------------------------------------------------------------------------
-- Absorbing
-- ---------------------------------------------------------------------------

/-- A field that is owned stays; of any other the last change counts. -/
theorem get?_foldl_absorbField (owned : List String) (fields : Dict Json) (actions : List Action)
    (name : String) :
    (actions.foldl (absorbField owned) fields).get? name =
      if name ∈ owned then fields.get? name
      else (lastChange? name actions).getD (fields.get? name) := by
  induction actions generalizing fields with
  | nil => simp
  | cons action rest ih =>
    rw [List.foldl_cons, ih, lastChange?_cons]
    have hstep : (absorbField owned fields action).get? name =
        if name ∈ owned then fields.get? name
        else (fieldChange? name action).getD (fields.get? name) := by
      cases action with
      | setCustomField field value =>
        by_cases hname : field = name
        · subst hname
          by_cases howned : field ∈ owned
          · simp [absorbField, howned]
          · cases value <;> simp [absorbField, howned, fieldChange?]
        · have hne : name ≠ field := fun heq => hname heq.symm
          by_cases howned : field ∈ owned
          · simp [absorbField, howned, fieldChange?, hname]
          · cases value with
            | none => simp [absorbField, howned, fieldChange?, hname, Dict.get?_erase_of_ne hne]
            | some value =>
              simp [absorbField, howned, fieldChange?, hname, Dict.get?_insert_of_ne hne]
      | _ => simp [absorbField, fieldChange?]
    by_cases howned : name ∈ owned
    · simp [hstep, howned]
    · rw [hstep, if_neg howned, if_neg howned, if_neg howned]
      cases lastChange? name rest <;> simp

-- ---------------------------------------------------------------------------
-- Placing
-- ---------------------------------------------------------------------------

theorem place_singleton (actions : List Action) (placed : Placed) :
    place actions [placed] =
      actions.insertIdx (min placed.position actions.length) placed.action := by
  simp [place, insertAll]

theorem insertIdx_append_length {α : Type u} (before after : List α) (a : α) :
    (before ++ after).insertIdx before.length a = before ++ a :: after := by
  induction before with
  | nil => rfl
  | cons b before ih => exact congrArg (b :: ·) ih

/-- What is left of a sequence, and the action with the single fields before it. -/
theorem absorb_setCustomType (actions : List Action) (position : Nat) (own : TypedFields) :
    absorb actions ⟨position, .setCustomType own⟩ =
      ((actions.take position).filter (fun action => !setsField action) ++ actions.drop position,
        ⟨((actions.take position).filter fun action => !setsField action).length,
          .setCustomType { own with
            fields := (actions.take position).foldl (absorbField own.fields.keys) own.fields }⟩) := by
  have htake : actions.take (min position actions.length) = actions.take position :=
    List.take_eq_take_iff.mpr (by omega)
  have hdrop : actions.drop (min position actions.length) = actions.drop position := by
    rcases Nat.le_total position actions.length with hle | hle
    · rw [Nat.min_eq_left hle]
    · rw [Nat.min_eq_right hle, List.drop_length, List.drop_eq_nil_of_le hle]
  simp only [absorb, htake, hdrop]

/-- An action that sets all fields takes the place of the single fields before it. -/
theorem place_absorb (actions : List Action) (position : Nat) (own : TypedFields) :
    place (absorb actions ⟨position, .setCustomType own⟩).1
        [(absorb actions ⟨position, .setCustomType own⟩).2] =
      (actions.take position).filter (fun action => !setsField action) ++
        .setCustomType
          { own with fields := (actions.take position).foldl (absorbField own.fields.keys) own.fields }
        :: actions.drop position := by
  rw [absorb_setCustomType, place_singleton]
  simp only [List.length_append, Nat.le_add_right, Nat.min_eq_left]
  exact insertIdx_append_length _ _ _

end Placed

end Promotion
