import Promotion.Proofs.CartActions

/-!
# Lines of discounts

The custom lines that an update adds are those of its discounts, in the order of the effects
(`filter_addsLine_cartUpdate`). A discount's line depends on the number of its effect and on the
slugs of the lines before it. Gifts, coupons and what goes into custom fields have no part in it.
-/

namespace Promotion

def Action.addsLine : Action → Bool
  | addCustomLineItem .. => true
  | _ => false

def Action.slug? : Action → Option String
  | addCustomLineItem _ _ _ slug _ _ => some slug
  | _ => none

theorem Action.filterMap_slug? (actions : List Action) :
    actions.filterMap slug? = (actions.filter addsLine).filterMap slug? := by
  rw [List.filterMap_filter]
  apply List.filterMap_congr
  intro action _
  cases action <;> rfl

namespace Settings

variable (settings : Settings) (currency : String) (items : List SessionItem)

/-- The lines of the discounts among effects numbered from `index` on, each with its slug. The slugs
`claimed` are taken. -/
def discountLines (index : Nat) (claimed : List String) : List Effect → List (Action × String)
  | [] => []
  | effect :: rest =>
    let line? := settings.discountLine? currency items index claimed effect
    line?.toList ++ discountLines (index + 1) (claimed ++ (line?.map (·.2)).toList) rest

variable {settings currency items} {index : Nat} {claimed : List String} {cart : Cart}
  {session : Session} {effects : List Effect}

theorem discountLines_append (before after : List Effect) :
    settings.discountLines currency items index claimed (before ++ after) =
      settings.discountLines currency items index claimed before ++
        settings.discountLines currency items (index + before.length)
          (claimed ++ (settings.discountLines currency items index claimed before).map (·.2))
          after := by
  induction before generalizing index claimed with
  | nil => simp [discountLines]
  | cons effect before ih =>
    have hindex : index + 1 + before.length = index + (effect :: before).length := by
      simp only [List.length_cons]
      omega
    simp only [List.cons_append, discountLines, ih, hindex, List.append_assoc, List.map_append,
      Option.toList_map]

theorem slug?_of_mem_discountLines {line : Action × String}
    (h : line ∈ settings.discountLines currency items index claimed effects) :
    line.1.slug? = some line.2 := by
  induction effects generalizing index claimed with
  | nil => cases h
  | cons effect rest ih =>
    rcases List.mem_append.mp h with hfirst | hrest
    · obtain ⟨_, _, _, _, hline⟩ := discountLine?_eq_some (Option.mem_toList.mp hfirst)
      rw [hline]
      rfl
    · exact ih hrest

theorem filter_addsLine_emission {pieces : Identity → Nat} {met : List Identity} (effect : Effect) :
    (settings.emission currency items pieces index claimed met effect).toList.filter
        Action.addsLine =
      (settings.discountLine? currency items index claimed effect).toList.map (·.1) := by
  cases effect using Effect.discountCases with
  | discount effect hdiscount =>
    rw [emission_discount hdiscount]
    cases hline : settings.discountLine? currency items index claimed effect with
    | none => rfl
    | some line =>
      obtain ⟨_, _, _, _, heq⟩ := discountLine?_eq_some hline
      simp [heq, Action.addsLine]
  | addFreeItem item =>
    simp only [emission]
    split <;> rfl
  | _ => rfl

/-- What effects emit adds the lines of the discounts, and no other line. -/
theorem filter_addsLine_emissions {pieces : Identity → Nat} {met : List Identity} :
    (settings.emissions currency items pieces index claimed met effects).reduceOption.filter
        Action.addsLine =
      (settings.discountLines currency items index claimed effects).map (·.1) := by
  induction effects generalizing index claimed met with
  | nil => rfl
  | cons effect rest ih =>
    rw [reduceOption_emissions_cons, discountLines, List.filter_append, filter_addsLine_emission, ih,
      List.map_append]

/-- The lines that an update adds are the lines of its discounts. -/
theorem filter_addsLine_cartUpdate :
    (settings.cartUpdate cart session effects).actions.filter Action.addsLine =
      (settings.discountLines cart.currency session.items 0 [] effects).map (·.1) := by
  have hadds : ∀ action : Action, action.addsLine → action.adds := by
    intro action hline
    cases action with
    | addCustomLineItem _ _ _ _ _ _ => rfl
    | _ => cases hline
  rw [filter_cartUpdate_actions_of_adds hadds]
  exact filter_addsLine_emissions

/-- The slugs of the lines that an update adds. -/
theorem filterMap_slug?_cartUpdate :
    (settings.cartUpdate cart session effects).actions.filterMap Action.slug? =
      (settings.discountLines cart.currency session.items 0 [] effects).map (·.2) := by
  rw [Action.filterMap_slug?, filter_addsLine_cartUpdate, List.filterMap_map,
    ← List.filterMap_eq_map]
  apply List.filterMap_congr
  intro line hline
  exact slug?_of_mem_discountLines hline

end Settings

end Promotion
