import Promotion.Action

/-!
# Placing actions

An action that sets all custom fields takes away the fields that are not its own, so the single
fields set before it have to become part of it (`absorb`). Actions that were made apart are then put
into the sequence at their places (`place`, and `place?` with places that count in 64 bits).
-/

namespace Promotion

-- Powers are those of the core library, whichever others a theory has in scope.
attribute [local instance (20000)] instPowNat

/-- An action and the number of actions that stand before it. -/
structure Placed where
  position : Nat
  action : Action

namespace Placed

/-! ## Absorbing single fields -/

def setsField : Action → Bool
  | .setCustomField _ _ => true
  | _ => false

/-- A single field becomes part of the fields, unless its name is one of `owned`. -/
def absorbField (owned : List String) (fields : Dict Json) : Action → Dict Json
  | .setCustomField name value =>
    if name ∈ owned then fields
    else
      match value with
      | some value => fields.insert name value
      | none => fields.erase name
  | _ => fields

/-- What is left of a sequence, and the action that has taken the single fields before it in. Its
own fields stay as they are. An action that does not set all fields takes nothing. -/
def absorb (actions : List Action) (placed : Placed) : List Action × Placed :=
  match placed.action with
  | .setCustomType own =>
    let position := min placed.position actions.length
    let before := actions.take position
    let kept := before.filter fun action => !setsField action
    let fields := before.foldl (absorbField own.fields.keys) own.fields
    (kept ++ actions.drop position, ⟨kept.length, .setCustomType { own with fields }⟩)
  | _ => (actions, placed)

/-! ## Putting actions in place -/

/-- The order in which actions are put in. -/
def byPosition (placed : List Placed) : List Placed :=
  placed.mergeSort fun a b => a.position ≤ b.position

/-- Put actions into a sequence one after another. Each place counts the actions of the sequence
before anything was put in, so it moves on by the `done` that stand there already. -/
def insertAll (actions : List Action) (done : Nat) : List Placed → List Action
  | [] => actions
  | placed :: rest =>
    insertAll
      (actions.insertIdx (min (placed.position + done) actions.length) placed.action)
      (done + 1) rest

/-- Put actions into a sequence at their places. Those of one place stand in the order in which they
are given; a place beyond the end is the end. -/
def place (actions : List Action) (placed : List Placed) : List Action :=
  insertAll actions 0 (byPosition placed)

/-- Whether every place, moved on by the actions put in before, is still a number of 64 bits. -/
def inRange (placed : List Placed) : Bool :=
  (byPosition placed).zipIdx.all fun (entry, done) => entry.position + done < 2 ^ (64 : Nat)

/-- The sequence with actions at their places. Places are counted in 64 bits, and there is no result
where one of them moves on past the last: the count stops with an overflow. -/
def place? (actions : List Action) (placed : List Placed) : Option (List Action) :=
  if inRange placed then some (place actions placed) else none

@[simp] theorem byPosition_singleton (entry : Placed) : byPosition [entry] = [entry] :=
  List.mergeSort_singleton entry

/-- One action alone does not move on. -/
theorem place?_singleton (actions : List Action) {entry : Placed}
    (h : entry.position < 2 ^ (64 : Nat)) :
    place? actions [entry] = some (place actions [entry]) := by
  simp [place?, inRange, h]

end Placed

end Promotion
