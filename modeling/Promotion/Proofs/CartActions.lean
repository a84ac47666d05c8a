import Promotion.Proofs.Emission
import Promotion.Proofs.Fields

/-!
# The actions for a cart

The actions of an update are the removals of what the last update has left, followed by what the
effects emit. If anything was gathered for the cart's custom fields, one action that sets all of
them stands where the first contributing effect was met, and takes in the single fields emitted
before it.
-/

namespace Promotion

/-- Whether an action adds a line, be it a custom one or a line item. -/
def Action.adds : Action → Bool
  | addCustomLineItem .. | addLineItem .. => true
  | _ => false

namespace Settings

-- ---------------------------------------------------------------------------
-- Removals
-- ---------------------------------------------------------------------------

theorem eq_of_mem_removals {cart : Cart} {action : Action} (h : action ∈ removals cart) :
    ∃ id, action = .removeCustomLineItem id ∨ action = .removeLineItem id := by
  rcases List.mem_append.mp h with hline | hitem
  · obtain ⟨line, -, rfl⟩ := List.mem_map.mp hline
    exact ⟨line.id, .inl rfl⟩
  · obtain ⟨item, -, rfl⟩ := List.mem_map.mp hitem
    exact ⟨item.id, .inr rfl⟩

theorem map_addPieces_removals (cart : Cart) (more : Identity → Nat) :
    (removals cart).map (Action.addPieces more) = removals cart := by
  apply (List.map_congr_left ?_).trans (List.map_id _)
  intro action haction
  obtain ⟨id, rfl | rfl⟩ := eq_of_mem_removals haction <;> rfl

theorem setsField_of_mem_removals {cart : Cart} {action : Action} (h : action ∈ removals cart) :
    Placed.setsField action = false := by
  obtain ⟨id, rfl | rfl⟩ := eq_of_mem_removals h <;> rfl

theorem setsAllFields_of_mem_removals {cart : Cart} {action : Action} (h : action ∈ removals cart) :
    action.setsAllFields = false := by
  obtain ⟨id, rfl | rfl⟩ := eq_of_mem_removals h <;> rfl

theorem foldl_absorbField_removals (cart : Cart) (owned : List String) (fields : Dict Json) :
    (removals cart).foldl (Placed.absorbField owned) fields = fields := by
  simp [removals, List.foldl_map, Placed.absorbField]

variable {settings : Settings} {cart : Cart} {session : Session} {effects : List Effect}

theorem tracks_initialDraft (settings : Settings) (cart : Cart) :
    (settings.initialDraft cart).Tracks [] := by
  refine ⟨?_, fun identity => iff_of_false List.not_mem_nil nofun⟩
  intro identity index
  refine iff_of_false nofun fun hget => ?_
  obtain ⟨action, haction, hgift⟩ := List.mem_map.mp (List.mem_of_getElem? hget)
  obtain ⟨id, rfl | rfl⟩ := eq_of_mem_removals haction <;> cases hgift

-- ---------------------------------------------------------------------------
-- The aggregate of a cart
-- ---------------------------------------------------------------------------

variable (settings cart session effects)

/-- How many effects come before the first that contributes to the cart's aggregate; none where
nothing does. Paying with points contributes before all effects. -/
def firstContribution? : Option Nat :=
  if settings.payWithPointsAttribute.isSome then some 0
  else effects.findIdx? (·.contributes)

def gathered : Aggregate :=
  (settings.afterEffects cart.currency session.items 0 (settings.initialDraft cart) effects).cart

variable {settings cart session effects}

theorem gathered_isEmpty :
    (settings.gathered cart session effects).isEmpty =
      (settings.firstContribution? effects).isNone := by
  rw [gathered, cart_isEmpty_afterEffects, firstContribution?]
  by_cases hpay : settings.payWithPointsAttribute.isSome
  · simp [initialDraft, hpay, Aggregate.isEmpty, Aggregate.setPayWithPoints, Aggregate.atPosition]
  · simp only [initialDraft, hpay]
    rw [Bool.eq_iff_iff]
    simp [Aggregate.isEmpty, Aggregate.empty]

theorem gathered_position {n : Nat} (h : settings.firstContribution? effects = some n) :
    (settings.gathered cart session effects).position =
      some ((removals cart).length +
        ((settings.emitted cart.currency session.items effects).take n).reduceOption.length) := by
  rw [gathered, cart_position_afterEffects (tracks_initialDraft settings cart)
    (settings.giftPieces effects)]
  unfold firstContribution? at h
  by_cases hpay : settings.payWithPointsAttribute.isSome
  · rw [if_pos hpay] at h
    cases h
    simp [initialDraft, hpay, Aggregate.setPayWithPoints, Aggregate.atPosition, Aggregate.empty]
  · rw [if_neg hpay] at h
    simp only [initialDraft, hpay, h]
    rfl

theorem gathered_typeKey :
    (settings.gathered cart session effects).typeKey = settings.metadata.cart := by
  have hchange : ∀ place (a : Aggregate) effect,
      some (a.gather place effect).typeKey = (none : Option String).or (some a.typeKey) := by
    intro place a effect
    cases effect <;> rfl
  rw [← Option.some_inj]
  refine (cart_last_afterEffects (some ·.typeKey) (fun _ => none) hchange effects).trans ?_
  rw [List.filterMap_none, List.getLast?_nil, Option.none_or, initialDraft]
  split <;> rfl

theorem gathered_build :
    (settings.gathered cart session effects).build =
      (settings.firstContribution? effects).map fun n =>
        ((removals cart).length +
            ((settings.emitted cart.currency session.items effects).take n).reduceOption.length,
          ⟨settings.metadata.cart, (settings.gathered cart session effects).fields⟩) := by
  rw [Aggregate.build, gathered_isEmpty, gathered_typeKey]
  cases hfirst : settings.firstContribution? effects with
  | none => rfl
  | some n => simp [gathered_position hfirst]

theorem actions_afterEffects_initialDraft :
    (settings.afterEffects cart.currency session.items 0 (settings.initialDraft cart) effects).actions =
      removals cart ++ (settings.emitted cart.currency session.items effects).reduceOption := by
  rw [actions_afterEffects (tracks_initialDraft settings cart) fun identity _ => rfl]
  exact congrArg (· ++ _) (map_addPieces_removals cart _)

/-- What effects emit, cut after the effect number `n`. -/
theorem emitted_split {currency : String} {items : List SessionItem} (n : Nat) :
    (settings.emitted currency items effects).reduceOption =
      ((settings.emitted currency items effects).take n).reduceOption ++
        ((settings.emitted currency items effects).drop n).reduceOption := by
  rw [← List.reduceOption_append, List.take_append_drop]

/-- The fields that the cart's aggregate sets: what was gathered, and of the fields that it does not
own itself the last changes emitted before the first contribution, the effect number `n`. -/
def aggregateFields (settings : Settings) (cart : Cart) (session : Session) (effects : List Effect)
    (n : Nat) : Dict Json :=
  let own := (settings.gathered cart session effects).fields
  ((settings.emitted cart.currency session.items effects).take n).reduceOption.foldl
    (Placed.absorbField own.keys) own

/-- The actions of an update, with the fields of the aggregate. -/
theorem cartUpdate_actions :
    (settings.cartUpdate cart session effects).actions =
      match settings.firstContribution? effects with
      | none =>
        removals cart ++ (settings.emitted cart.currency session.items effects).reduceOption
      | some n =>
        removals cart ++
          ((settings.emitted cart.currency session.items effects).take n).reduceOption.filter
            (fun action => !Placed.setsField action) ++
          .setCustomType ⟨settings.metadata.cart, settings.aggregateFields cart session effects n⟩ ::
            ((settings.emitted cart.currency session.items effects).drop n).reduceOption := by
  have hupdate : (settings.cartUpdate cart session effects).actions =
      finish (settings.afterEffects cart.currency session.items 0 (settings.initialDraft cart)
        effects) := by
    rw [cartUpdate, ← applyEffects_fst]
  rw [hupdate, finish, actions_afterEffects_initialDraft, ← gathered, gathered_build]
  cases settings.firstContribution? effects with
  | none => rfl
  | some n =>
    -- the actions emitted before the first contribution end where the aggregate has its place
    have hkept : (removals cart).filter (fun action => !Placed.setsField action) = removals cart := by
      rw [List.filter_eq_self]
      intro action haction
      rw [setsField_of_mem_removals haction]
      rfl
    rw [emitted_split n, ← List.append_assoc, Option.map_some, ← List.length_append]
    refine (Placed.place_absorb _ _ _).trans ?_
    rw [List.take_left, List.drop_left, List.filter_append, hkept, List.foldl_append,
      foldl_absorbField_removals]
    rfl

-- ---------------------------------------------------------------------------
-- What is added
-- ---------------------------------------------------------------------------

/-- The line item of a gift is marked as one, and has the gift's name. -/
theorem get?_giftFields (settings : Settings) (name : String) :
    let custom := settings.lineFields
      [(freeItemField, .bool true), (promotionNameField, .string name)]
    custom.fields.get? freeItemField = some (.bool true) ∧
      custom.fields.get? promotionNameField = some (.string name) := by
  have hne : freeItemField ≠ promotionNameField := by decide
  simp only [lineFields, Dict.get?_ofList]
  simp [hne, hne.symm]

/-- What an update adds is what the effects emit. -/
theorem filter_cartUpdate_actions_of_adds {chosen : Action → Bool}
    (h : ∀ action, chosen action → action.adds) :
    (settings.cartUpdate cart session effects).actions.filter chosen =
      (settings.emitted cart.currency session.items effects).reduceOption.filter chosen := by
  have hother : ∀ action : Action, action.adds = false → chosen action = false := by
    intro action hadds
    rw [Bool.eq_false_iff]
    exact fun hchosen => Bool.eq_false_iff.mp hadds (h action hchosen)
  have hremoved : (removals cart).filter chosen = [] := by
    rw [List.filter_eq_nil_iff]
    intro action haction
    obtain ⟨id, rfl | rfl⟩ := eq_of_mem_removals haction <;> exact Bool.eq_false_iff.mp (hother _ rfl)
  have hkept : ∀ actions : List Action,
      (actions.filter fun action => !Placed.setsField action).filter chosen =
        actions.filter chosen := by
    intro actions
    rw [List.filter_filter]
    apply List.filter_congr
    intro action _
    cases action with
    | setCustomField name value => rw [hother _ rfl, Bool.false_and]
    | _ => exact Bool.and_true _
  rw [cartUpdate_actions]
  cases settings.firstContribution? effects with
  | none => rw [List.filter_append, hremoved, List.nil_append]
  | some n =>
    rw [emitted_split n]
    have hall : ∀ typed, chosen (.setCustomType typed) = false := fun _ => hother _ rfl
    simp only [List.filter_append, List.filter_cons, hremoved, hkept, hall]
    rfl

-- ---------------------------------------------------------------------------
-- The sequence
-- ---------------------------------------------------------------------------

theorem setsAllFields_of_mem_emitted {currency : String} {items : List SessionItem}
    {action : Action} (h : action ∈ (settings.emitted currency items effects).reduceOption) :
    action.setsAllFields = false := by
  obtain ⟨effect, -, index, claimed, met, hemission⟩ := exists_emission_of_mem h
  rcases emission_cases hemission with ⟨slug, hline⟩ | ⟨identity, name, rfl⟩ | ⟨value, rfl⟩
  · obtain ⟨_, _, _, _, rfl⟩ := discountLine?_eq_some hline
    rfl
  · rfl
  · rfl

theorem setsAllFields_of_mem_take {currency : String} {items : List SessionItem} {action : Action}
    {n : Nat} (h : action ∈ ((settings.emitted currency items effects).take n).reduceOption) :
    action.setsAllFields = false := by
  apply setsAllFields_of_mem_emitted
  rw [emitted_split n]
  exact List.mem_append_left _ h

theorem setsAllFields_of_mem_drop {currency : String} {items : List SessionItem} {action : Action}
    {n : Nat} (h : action ∈ ((settings.emitted currency items effects).drop n).reduceOption) :
    action.setsAllFields = false := by
  apply setsAllFields_of_mem_emitted
  rw [emitted_split n]
  exact List.mem_append_right _ h

private theorem filter_not_setsAllFields {part : List Action}
    (h : ∀ action ∈ part, action.setsAllFields = false) :
    part.filter (fun action => !action.setsAllFields) = part := by
  rw [List.filter_eq_self]
  intro action haction
  rw [h action haction]
  rfl

private theorem countP_setsAllFields {part : List Action}
    (h : ∀ action ∈ part, action.setsAllFields = false) : part.countP (·.setsAllFields) = 0 := by
  rw [List.countP_eq_zero]
  intro action haction
  rw [h action haction]
  exact Bool.false_ne_true

/-- The actions of an update but for the one that sets all fields. -/
theorem filter_cartUpdate_actions :
    (settings.cartUpdate cart session effects).actions.filter (fun action => !action.setsAllFields) =
      removals cart ++
        match settings.firstContribution? effects with
        | none => (settings.emitted cart.currency session.items effects).reduceOption
        | some n =>
          ((settings.emitted cart.currency session.items effects).take n).reduceOption.filter
              (fun action => !Placed.setsField action) ++
            ((settings.emitted cart.currency session.items effects).drop n).reduceOption := by
  have hremoved : (removals cart).filter (fun action => !action.setsAllFields) = removals cart :=
    filter_not_setsAllFields fun _ => setsAllFields_of_mem_removals
  rw [cartUpdate_actions]
  cases settings.firstContribution? effects with
  | none =>
    simp only [List.filter_append]
    rw [hremoved, filter_not_setsAllFields fun _ => setsAllFields_of_mem_emitted]
  | some n =>
    simp only [List.filter_append]
    rw [hremoved, List.filter_cons_of_neg (by simp [Action.setsAllFields]),
      filter_not_setsAllFields fun _ h => setsAllFields_of_mem_take (List.mem_of_mem_filter h),
      filter_not_setsAllFields fun _ => setsAllFields_of_mem_drop, List.append_assoc]

/-- At most one action of an update sets all fields. -/
theorem countP_cartUpdate_actions :
    (settings.cartUpdate cart session effects).actions.countP (·.setsAllFields) =
      if (settings.firstContribution? effects).isSome then 1 else 0 := by
  have hremoved : (removals cart).countP (·.setsAllFields) = 0 :=
    countP_setsAllFields fun _ => setsAllFields_of_mem_removals
  rw [cartUpdate_actions]
  cases settings.firstContribution? effects with
  | none =>
    simp only [List.countP_append]
    rw [hremoved, countP_setsAllFields fun _ => setsAllFields_of_mem_emitted]
    rfl
  | some n =>
    simp only [List.countP_append, List.countP_cons]
    rw [hremoved,
      countP_setsAllFields fun _ h => setsAllFields_of_mem_take (List.mem_of_mem_filter h),
      countP_setsAllFields fun _ => setsAllFields_of_mem_drop]
    rfl

/-- The actions of an update are the removals and then what the effects emit. Where something was
gathered for the cart, one action that sets all fields stands after what was emitted before the
first contribution, of which the changes of single fields are left out. So the removals come first,
at most one action sets all fields, and all others stand in the order of their effects. -/
theorem cartUpdate_sequence (settings : Settings) (cart : Cart) (session : Session)
    (effects : List Effect) :
    let removed := removals cart
    let emitted := settings.emitted cart.currency session.items effects
    let actions := (settings.cartUpdate cart session effects).actions
    (match settings.firstContribution? effects with
      | none => actions = removed ++ emitted.reduceOption
      | some n =>
        ∃ fields, actions =
          removed ++ (emitted.take n).reduceOption.filter (fun action => !Placed.setsField action) ++
            .setCustomType ⟨settings.metadata.cart, fields⟩ :: (emitted.drop n).reduceOption) ∧
      removed <+: actions ∧
      actions.countP (·.setsAllFields) =
        (if (settings.firstContribution? effects).isSome then 1 else 0) ∧
      (actions.filter fun action => !action.setsAllFields).Sublist
        (removed ++ emitted.reduceOption) ∧
      actions.filter (fun action => !Placed.setsField action && !action.setsAllFields) =
        (removed ++ emitted.reduceOption).filter (fun action => !Placed.setsField action) := by
  intro removed emitted actions
  have hactions : actions = _ := cartUpdate_actions
  have hothers : actions.filter (fun action => !action.setsAllFields) = _ :=
    filter_cartUpdate_actions
  have hcount : actions.countP (·.setsAllFields) = _ := countP_cartUpdate_actions
  have hsplit : ∀ n, emitted.reduceOption =
      (emitted.take n).reduceOption ++ (emitted.drop n).reduceOption := fun n => emitted_split n
  cases hfirst : settings.firstContribution? effects with
  | none =>
    rw [hfirst] at hactions hothers hcount
    refine ⟨hactions, ?_, hcount, ?_, ?_⟩
    · rw [hactions]
      exact List.prefix_append _ _
    · rw [hothers]
    · rw [← List.filter_filter, hothers]
  | some n =>
    rw [hfirst] at hactions hothers hcount
    refine ⟨⟨_, hactions⟩, ?_, hcount, ?_, ?_⟩
    · rw [hactions]
      exact (List.prefix_append _ _).trans (List.prefix_append _ _)
    · rw [hothers, hsplit n]
      exact (List.Sublist.refl _).append (List.filter_sublist.append (List.Sublist.refl _))
    · rw [← List.filter_filter, hothers, hsplit n]
      simp only [List.filter_append, List.filter_filter, Bool.and_self]
      rfl

end Settings

end Promotion
