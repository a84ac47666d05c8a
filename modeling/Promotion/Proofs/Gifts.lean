import Mathlib.Algebra.BigOperators.Group.List.Lemmas
import Mathlib.Algebra.Ring.Nat
import Promotion.Proofs.CartActions

/-!
# Gifts

The engine asks for gifts one piece at a time, each by a SKU. SKUs that stand for one identity ask
for one gift: an update adds a single line item for it, with as many pieces as were asked for and
the name under which it was asked for first. So no piece is lost and none is added
(`Settings.gifts_of_update`).
-/

namespace Promotion

def Effect.freeItem? : Effect → Option FreeItem
  | addFreeItem item => some item
  | _ => none

def Action.pieces : Action → Nat
  | addLineItem _ pieces _ => pieces
  | _ => 0

-- ---------------------------------------------------------------------------
-- First occurrences
-- ---------------------------------------------------------------------------

theorem nodup_eraseDups {α : Type} [BEq α] [LawfulBEq α] : ∀ l : List α, l.eraseDups.Nodup
  | [] => List.nodup_nil
  | a :: rest => by
    have hrest := nodup_eraseDups (rest.filter fun b => !b == a)
    rw [List.eraseDups_cons]
    refine List.nodup_cons.mpr ⟨?_, hrest⟩
    simp [List.mem_eraseDups]
termination_by l => l.length
decreasing_by exact Nat.lt_succ_of_le (List.length_filter_le ..)

/-- The elements of a list are counted once each through its first occurrences. -/
theorem sum_count_eraseDups {α : Type} [DecidableEq α] (l : List α) :
    (l.eraseDups.map fun a => l.count a).sum = l.length := by
  have hperm : l.eraseDups.Perm l.dedup := by
    rw [List.perm_ext_iff_of_nodup (nodup_eraseDups l) (List.nodup_dedup l)]
    intro a
    rw [List.mem_eraseDups, List.mem_dedup]
  rw [(hperm.map _).sum_eq]
  exact List.sum_map_count_dedup_eq_length l

namespace Settings

variable {settings : Settings} {currency : String} {items : List SessionItem}
  {pieces : Identity → Nat} {index : Nat} {claimed : List String} {met : List Identity}
  {cart : Cart} {session : Session} {effects : List Effect}

-- ---------------------------------------------------------------------------
-- Gifts among effects
-- ---------------------------------------------------------------------------

/-- The gifts of an identity that effects ask for, a piece for each. -/
def giftsOf (settings : Settings) (effects : List Effect) (identity : Identity) : List FreeItem :=
  (effects.filterMap Effect.freeItem?).filter fun item =>
    settings.resolver.decode item.sku = identity

theorem giftIdentity?_eq_some {effect : Effect} {identity : Identity}
    (h : settings.giftIdentity? effect = some identity) :
    ∃ item, effect = .addFreeItem item ∧ settings.resolver.decode item.sku = identity := by
  cases effect with
  | addFreeItem item => exact ⟨item, rfl, Option.some.inj h⟩
  | _ => cases h

theorem giftIdentity?_eq (effect : Effect) :
    settings.giftIdentity? effect =
      effect.freeItem?.map fun item => settings.resolver.decode item.sku := by
  cases effect <;> rfl

theorem giftsOf_cons (effect : Effect) (rest : List Effect) (identity : Identity) :
    settings.giftsOf (effect :: rest) identity =
      (if settings.giftIdentity? effect = some identity then effect.freeItem?.toList else []) ++
        settings.giftsOf rest identity := by
  rw [giftIdentity?_eq, giftsOf, List.filterMap_cons]
  cases effect.freeItem? with
  | none => rfl
  | some item =>
    rw [List.filter_cons]
    by_cases hidentity : settings.resolver.decode item.sku = identity
    · simp [hidentity, giftsOf]
    · simp [hidentity, giftsOf]

theorem length_giftsOf (effects : List Effect) (identity : Identity) :
    (settings.giftsOf effects identity).length = settings.giftPieces effects identity := by
  rw [giftsOf, ← List.countP_eq_length_filter, List.countP_filterMap]
  refine List.countP_congr fun effect _ => ?_
  rw [giftIdentity?_eq]
  cases effect.freeItem? <;> simp

theorem giftPieces_eq_count (effects : List Effect) :
    settings.giftPieces effects = fun identity =>
      (effects.filterMap settings.giftIdentity?).count identity := by
  funext identity
  rw [List.count_filterMap]
  exact List.countP_congr fun effect _ => by simp

-- ---------------------------------------------------------------------------
-- Gifts among what is emitted
-- ---------------------------------------------------------------------------

theorem filter_gift?_emission (effect : Effect) (identity : Identity) :
    (settings.emission currency items pieces index claimed met effect).toList.filter
        (·.gift? = some identity) =
      if settings.giftIdentity? effect = some identity ∧ identity ∉ met then
        effect.freeItem?.toList.map fun item =>
          settings.giftLine identity (pieces identity) item.name
      else [] := by
  by_cases hidentity : settings.giftIdentity? effect = some identity
  · obtain ⟨item, rfl, rfl⟩ := giftIdentity?_eq_some hidentity
    simp only [emission]
    split
    · rename_i hmet
      rw [if_neg fun hnew => hnew.2 hmet]
      rfl
    · rename_i hnew
      rw [if_pos ⟨hidentity, hnew⟩]
      simp [Action.gift?, giftLine, Effect.freeItem?]
  · rw [if_neg fun hboth => hidentity hboth.1, List.filter_eq_nil_iff]
    intro action haction
    rw [gift?_of_emission (Option.mem_toList.mp haction)]
    simpa using hidentity

/-- Effects emit one line item for each gift that has not been met, named as it was asked for
first. -/
theorem filter_gift?_emissions (identity : Identity) :
    (settings.emissions currency items pieces index claimed met effects).reduceOption.filter
        (·.gift? = some identity) =
      if identity ∈ met then []
      else
        (settings.giftsOf effects identity).head?.toList.map fun first =>
          settings.giftLine identity (pieces identity) first.name := by
  induction effects generalizing index claimed met with
  | nil => simp [emissions, giftsOf]
  | cons effect rest ih =>
    rw [reduceOption_emissions_cons, List.filter_append, filter_gift?_emission, ih, giftsOf_cons]
    by_cases hmet : identity ∈ met
    · simp [hmet]
    · by_cases hidentity : settings.giftIdentity? effect = some identity
      · obtain ⟨item, rfl, -⟩ := giftIdentity?_eq_some hidentity
        simp [hmet, hidentity, Effect.freeItem?]
      · simp [hmet, hidentity]

theorem filterMap_gift?_emission (effect : Effect) :
    (settings.emission currency items pieces index claimed met effect).toList.filterMap
        Action.gift? =
      (settings.giftIdentity? effect).toList.filter (· ∉ met) := by
  cases hidentity : settings.giftIdentity? effect with
  | none =>
    rw [Option.toList_none, List.filter_nil, List.filterMap_eq_nil_iff]
    intro action haction
    rw [gift?_of_emission (Option.mem_toList.mp haction), hidentity]
  | some identity =>
    obtain ⟨item, rfl, rfl⟩ := giftIdentity?_eq_some hidentity
    simp only [emission]
    split
    · rename_i hmet
      simp [hmet]
    · rename_i hnew
      simp [hnew, giftLine, Action.gift?]

/-- The line items of gifts stand in the order in which the gifts were asked for first. -/
theorem filterMap_gift?_emissions :
    (settings.emissions currency items pieces index claimed met effects).reduceOption.filterMap
        Action.gift? =
      ((effects.filterMap settings.giftIdentity?).filter (· ∉ met)).eraseDups := by
  induction effects generalizing index claimed met with
  | nil => rfl
  | cons effect rest ih =>
    rw [reduceOption_emissions_cons, List.filterMap_append, filterMap_gift?_emission, ih,
      List.filterMap_cons]
    cases settings.giftIdentity? effect with
    | none => simp
    | some identity =>
      by_cases hmet : identity ∈ met
      · have hfilter : ∀ other, other ∉ met ++ [identity] ↔ other ∉ met := by
          intro other
          rw [List.mem_append, List.mem_singleton, not_or, and_iff_left_iff_imp]
          rintro hother rfl
          exact hother hmet
        simp only [Option.toList_some, hfilter]
        simp [hmet]
      · have hfilter : ∀ ids : List Identity, ids.filter (· ∉ met ++ [identity]) =
            (ids.filter (· ∉ met)).filter fun other => !other == identity := by
          intro ids
          rw [List.filter_filter]
          exact List.filter_congr fun other _ => by simp [Bool.and_comm, beq_eq_decide]
        rw [Option.toList_some, hfilter, List.filter_cons_of_pos (by simpa using hmet),
          List.filter_cons_of_pos (by simpa using hmet), List.eraseDups_cons]
        rfl

-- ---------------------------------------------------------------------------
-- Gifts of an update
-- ---------------------------------------------------------------------------

theorem filter_gift?_cartUpdate (identity : Identity) :
    (settings.cartUpdate cart session effects).actions.filter (·.gift? = some identity) =
      (settings.giftsOf effects identity).head?.toList.map fun first =>
        settings.giftLine identity (settings.giftPieces effects identity) first.name := by
  have hadds : ∀ action : Action, decide (action.gift? = some identity) → action.adds := by
    intro action hgift
    cases action with
    | addLineItem _ _ _ => rfl
    | _ => simp [Action.gift?] at hgift
  rw [filter_cartUpdate_actions_of_adds hadds]
  refine (filter_gift?_emissions identity).trans ?_
  rw [if_neg List.not_mem_nil]

theorem filterMap_gift?_cartUpdate :
    (settings.cartUpdate cart session effects).actions.filterMap Action.gift? =
      (effects.filterMap settings.giftIdentity?).eraseDups := by
  have hadds : ∀ action : Action, action.gift?.isSome → action.adds := by
    intro action hgift
    cases action with
    | addLineItem _ _ _ => rfl
    | _ => cases hgift
  have hgifts : ∀ actions : List Action,
      actions.filterMap Action.gift? = (actions.filter (·.gift?.isSome)).filterMap Action.gift? := by
    intro actions
    rw [List.filterMap_filter]
    refine List.filterMap_congr fun action _ => ?_
    cases action.gift? <;> rfl
  rw [hgifts, filter_cartUpdate_actions_of_adds hadds, ← hgifts]
  refine filterMap_gift?_emissions.trans ?_
  simp

/-- An action adds as many pieces of a gift as effects ask for. -/
theorem pieces_of_mem_cartUpdate {action : Action}
    (h : action ∈ (settings.cartUpdate cart session effects).actions) :
    action.pieces = (action.gift?.map (settings.giftPieces effects)).getD 0 := by
  cases hgift : action.gift? with
  | none =>
    cases action with
    | addLineItem _ _ _ => cases hgift
    | _ => rfl
  | some identity =>
    have hmem : action ∈ (settings.cartUpdate cart session effects).actions.filter
        (·.gift? = some identity) := List.mem_filter.mpr ⟨h, decide_eq_true hgift⟩
    rw [filter_gift?_cartUpdate] at hmem
    obtain ⟨first, -, rfl⟩ := List.mem_map.mp hmem
    rfl

theorem sum_pieces_cartUpdate :
    ((settings.cartUpdate cart session effects).actions.map Action.pieces).sum =
      (effects.filterMap Effect.freeItem?).length := by
  have hsum : ∀ actions : List Action,
      (actions.map fun action => (action.gift?.map (settings.giftPieces effects)).getD 0).sum =
        ((actions.filterMap Action.gift?).map (settings.giftPieces effects)).sum := by
    intro actions
    induction actions with
    | nil => rfl
    | cons action rest ih =>
      rw [List.map_cons, List.sum_cons, ih, List.filterMap_cons]
      cases action.gift? <;> simp
  have hidentities : effects.filterMap settings.giftIdentity? =
      (effects.filterMap Effect.freeItem?).map fun item => settings.resolver.decode item.sku := by
    rw [List.map_filterMap]
    exact List.filterMap_congr fun effect _ => giftIdentity?_eq effect
  calc ((settings.cartUpdate cart session effects).actions.map Action.pieces).sum
      = (((effects.filterMap settings.giftIdentity?).eraseDups).map
          (settings.giftPieces effects)).sum := by
        rw [List.map_congr_left fun action => pieces_of_mem_cartUpdate, hsum,
          filterMap_gift?_cartUpdate]
    _ = (effects.filterMap settings.giftIdentity?).length := by
        rw [giftPieces_eq_count]
        exact sum_count_eraseDups _
    _ = (effects.filterMap Effect.freeItem?).length := by
        rw [hidentities, List.length_map]

/-- An update adds no line item for an identity that no gift stands for, and exactly one for any
other: it has a piece for each of the identity's gifts, the name of the first of them, and the mark
of a gift. These line items stand in the order of their first gifts, and all their pieces together
are as many as there are gifts. -/
theorem gifts_of_update (settings : Settings) (cart : Cart) (session : Session)
    (effects : List Effect) :
    let actions := (settings.cartUpdate cart session effects).actions
    (∀ identity,
      match settings.giftsOf effects identity with
      | [] => actions.filter (·.gift? = some identity) = []
      | first :: others =>
        ∃ custom,
          actions.filter (·.gift? = some identity) =
              [.addLineItem identity (others.length + 1) (some custom)] ∧
            custom.fields.get? promotionNameField = some (.string first.name) ∧
            custom.fields.get? freeItemField = some (.bool true)) ∧
      actions.filterMap Action.gift? = (effects.filterMap settings.giftIdentity?).eraseDups ∧
      (actions.map Action.pieces).sum = (effects.filterMap Effect.freeItem?).length := by
  intro actions
  refine ⟨fun identity => ?_, filterMap_gift?_cartUpdate, sum_pieces_cartUpdate⟩
  have hlines : actions.filter (·.gift? = some identity) = _ := filter_gift?_cartUpdate identity
  have hpieces : (settings.giftsOf effects identity).length = _ := length_giftsOf effects identity
  cases hgifts : settings.giftsOf effects identity with
  | nil =>
    rw [hgifts] at hlines
    exact hlines
  | cons first others =>
    rw [hgifts] at hlines hpieces
    obtain ⟨hfree, hname⟩ := get?_giftFields settings first.name
    refine ⟨_, ?_, hname, hfree⟩
    rw [hlines, ← hpieces]
    rfl

/-- Three ways to write one SKU, and a fourth text that stands for the product alone. -/
example :
    let settings : Settings := ⟨⟨.productAndVariant, '@'⟩, .halfEven, "en", none, none, [], [], [],
      ⟨"line", "cart", "customer"⟩⟩
    let effects : List Effect := [.addFreeItem ⟨"p@5", "A"⟩, .addFreeItem ⟨"p@x", "B"⟩,
      .addFreeItem ⟨"p@05", "C"⟩, .addFreeItem ⟨"p@+5", "D"⟩]
    effects.filterMap settings.giftIdentity? =
      [.variant "p" 5, .product "p", .variant "p" 5, .variant "p" 5] := by
  decide

end Settings

end Promotion
