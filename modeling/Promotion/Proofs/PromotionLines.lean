import Promotion.Proofs.Slugs

/-!
# Lines that promotions leave in a cart

An update marks what it adds: its custom lines by their slugs, its line items by a custom field. The
next update finds the marks and takes the lines away again, so that over any number of updates only
what the last one has added stays, beside the lines that promotions never touched.
-/

namespace Promotion

-- ---------------------------------------------------------------------------
-- What the shop does
-- ---------------------------------------------------------------------------

structure Added where
  lines : List CustomLineItem
  items : List LineItem

namespace Added

def none : Added := ⟨[], []⟩

def append (first next : Added) : Added :=
  ⟨first.lines ++ next.lines, first.items ++ next.items⟩

end Added

/-- One action carried out on a cart. The shop is free to choose the place of what it adds, an id
that no other line has, and whatever else of a line item the action leaves open. -/
inductive Carried (cart : Cart) : Action → Added → Cart → Prop where
  | removeCustomLineItem (id : String) :
      Carried cart (.removeCustomLineItem id) .none
        { cart with customLineItems := cart.customLineItems.filter (·.id ≠ id) }
  | removeLineItem (id : String) :
      Carried cart (.removeLineItem id) .none
        { cart with lineItems := cart.lineItems.filter (·.id ≠ id) }
  | addCustomLineItem {name : Dict String} {quantity : Nat} {money : CentMoney}
      {tax : Option ResourceIdentifier} {custom : Option TypedFields} (line : CustomLineItem)
      {before after : List CustomLineItem} (hplace : cart.customLineItems = before ++ after)
      (hfresh : line.id ∉ cart.customLineItems.map (·.id)) :
      Carried cart (.addCustomLineItem name quantity money line.slug tax custom) ⟨[line], []⟩
        { cart with customLineItems := before ++ line :: after }
  | addLineItem {identity : Identity} {quantity : Nat} {custom : Option TypedFields}
      (item : LineItem) {before after : List LineItem} (hplace : cart.lineItems = before ++ after)
      (hfresh : item.id ∉ cart.lineItems.map (·.id)) (hcustom : item.custom = custom.map (·.fields)) :
      Carried cart (.addLineItem identity quantity custom) ⟨[], [item]⟩
        { cart with lineItems := before ++ item :: after }
  | setCustomField (name : String) (value : Option Json) :
      Carried cart (.setCustomField name value) .none
        { cart with
          custom := some (Action.updateFields (cart.custom.getD []) (.setCustomField name value)) }
  | setCustomType (typed : TypedFields) :
      Carried cart (.setCustomType typed) .none
        { cart with
          custom := some (Action.updateFields (cart.custom.getD []) (.setCustomType typed)) }

/-- Actions carried out one after another. When all are done the shop works out the total price. -/
inductive CarriedAll : Cart → List Action → Added → Cart → Prop where
  | nil (cart : Cart) (total : ShopMoney) :
      CarriedAll cart [] .none { cart with totalPrice := total }
  | cons {cart next last : Cart} {action : Action} {rest : List Action} {added later : Added} :
      Carried cart action added next → CarriedAll next rest later last →
      CarriedAll cart (action :: rest) (added.append later) last

/-- One update of a cart: its session is projected, the effects are translated, and the shop carries
the actions out. -/
def Updated (settings : Settings) (effects : List Effect) (cart : Cart) (added : Added)
    (next : Cart) : Prop :=
  CarriedAll cart (settings.cartUpdate cart (settings.cartSession cart) effects).actions added next

/-- The carts that any number of updates make of a cart, each with effects of its own. -/
inductive UpdateRun (settings : Settings) (start : Cart) : Cart → Prop where
  | start : UpdateRun settings start start
  | update {cart next : Cart} {effects : List Effect} {added : Added} :
      UpdateRun settings start cart → Updated settings effects cart added next →
      UpdateRun settings start next

private theorem exists_fresh_id (ids : List String) : ∃ id, id ∉ ids := by
  obtain ⟨id, hid⟩ := Infinite.exists_notMem_finset ids.toFinset
  exact ⟨id, fun hmem => hid (List.mem_toFinset.mpr hmem)⟩

theorem exists_carried (cart : Cart) (action : Action) :
    ∃ added next, Carried cart action added next := by
  cases action with
  | removeCustomLineItem id => exact ⟨_, _, .removeCustomLineItem id⟩
  | removeLineItem id => exact ⟨_, _, .removeLineItem id⟩
  | setCustomField name value => exact ⟨_, _, .setCustomField name value⟩
  | setCustomType typed => exact ⟨_, _, .setCustomType typed⟩
  | addCustomLineItem name quantity money slug tax custom =>
    obtain ⟨id, hfresh⟩ := exists_fresh_id (cart.customLineItems.map (·.id))
    exact ⟨_, _, .addCustomLineItem ⟨id, slug⟩ (List.append_nil _).symm hfresh⟩
  | addLineItem identity quantity custom =>
    obtain ⟨id, hfresh⟩ := exists_fresh_id (cart.lineItems.map (·.id))
    let item : LineItem :=
      ⟨id, "", [], .unknown, quantity, cart.totalPrice, custom.map (·.fields)⟩
    exact ⟨_, _, .addLineItem item (List.append_nil _).symm hfresh rfl⟩

/-- The shop can carry out every list of actions. -/
theorem exists_carriedAll (cart : Cart) (actions : List Action) :
    ∃ added next, CarriedAll cart actions added next := by
  induction actions generalizing cart with
  | nil => exact ⟨_, _, .nil cart cart.totalPrice⟩
  | cons action rest ih =>
    obtain ⟨added, middle, hcarried⟩ := exists_carried cart action
    obtain ⟨later, next, hrest⟩ := ih middle
    exact ⟨_, next, .cons hcarried hrest⟩

/-- So every update of a cart can be carried out, with any effects. -/
theorem exists_updated (settings : Settings) (effects : List Effect) (cart : Cart) :
    ∃ added next, Updated settings effects cart added next :=
  exists_carriedAll cart _

-- ---------------------------------------------------------------------------
-- Marks
-- ---------------------------------------------------------------------------

def CustomLineItem.isPromotion (line : CustomLineItem) : Bool :=
  Slug.marker.toList.isPrefixOf line.slug.toList

/-- Of each kind, no two lines have the same id. -/
structure Cart.DistinctIds (cart : Cart) : Prop where
  lines : (cart.customLineItems.map (·.id)).Nodup
  items : (cart.lineItems.map (·.id)).Nodup

/-- Whether an action takes nothing away and puts a mark on what it adds. -/
def Action.addsMarked : Action → Bool
  | addCustomLineItem _ _ _ slug _ _ => Slug.marker.toList.isPrefixOf slug.toList
  | addLineItem _ _ custom => flagField (custom.map (·.fields)) freeItemField
  | removeCustomLineItem _ | removeLineItem _ => false
  | setCustomField _ _ | setCustomType _ => true

/-- How a cart changes by additions that are all marked. -/
structure Cart.Gains (cart : Cart) (added : Added) (next : Cart) : Prop where
  distinct : cart.DistinctIds → next.DistinctIds
  lines : (next.customLineItems.filter (·.isPromotion)).Perm
    (cart.customLineItems.filter (·.isPromotion) ++ added.lines)
  items : (next.lineItems.filter (·.isFree)).Perm (cart.lineItems.filter (·.isFree) ++ added.items)
  otherLines : next.customLineItems.filter (!·.isPromotion) =
    cart.customLineItems.filter (!·.isPromotion)
  otherItems : next.lineItems.filter (!·.isFree) = cart.lineItems.filter (!·.isFree)

namespace Cart.Gains

/-- A cart whose lines are the same has gained nothing. -/
theorem of_lines_eq {cart next : Cart} (hlines : next.customLineItems = cart.customLineItems)
    (hitems : next.lineItems = cart.lineItems) : cart.Gains .none next where
  distinct h := ⟨hlines ▸ h.lines, hitems ▸ h.items⟩
  lines := by simp [hlines, Added.none]
  items := by simp [hitems, Added.none]
  otherLines := by rw [hlines]
  otherItems := by rw [hitems]

theorem trans {cart next last : Cart} {added later : Added} (h : cart.Gains added next)
    (hnext : next.Gains later last) : cart.Gains (added.append later) last where
  distinct hdistinct := hnext.distinct (h.distinct hdistinct)
  lines := by
    refine hnext.lines.trans ((h.lines.append_right _).trans ?_)
    rw [List.append_assoc]
    exact List.Perm.refl _
  items := by
    refine hnext.items.trans ((h.items.append_right _).trans ?_)
    rw [List.append_assoc]
    exact List.Perm.refl _
  otherLines := hnext.otherLines.trans h.otherLines
  otherItems := hnext.otherItems.trans h.otherItems

end Cart.Gains

/-- One more element in the middle of a list whose elements have different keys. -/
private theorem nodup_map_middle {α : Type} {key : α → String} {before after : List α} {a : α}
    (h : ((before ++ after).map key).Nodup) (hfresh : key a ∉ (before ++ after).map key) :
    ((before ++ a :: after).map key).Nodup := by
  have hperm : ((before ++ a :: after).map key).Perm (key a :: (before ++ after).map key) :=
    List.perm_middle.map key
  exact hperm.nodup_iff.mpr (List.nodup_cons.mpr ⟨hfresh, h⟩)

/-- The marked part of a list with one more marked element. -/
private theorem filter_middle_perm {α : Type} {marked : α → Bool} {before after : List α} {a : α}
    (h : marked a) :
    ((before ++ a :: after).filter marked).Perm ((before ++ after).filter marked ++ [a]) := by
  have hperm : ((before ++ a :: after).filter marked).Perm ((a :: (before ++ after)).filter marked) :=
    List.perm_middle.filter marked
  rw [List.filter_cons_of_pos h] at hperm
  exact hperm.trans (List.perm_append_singleton _ _).symm

/-- The unmarked part of a list with one more marked element. -/
private theorem filter_not_middle {α : Type} {marked : α → Bool} {before after : List α} {a : α}
    (h : marked a) :
    (before ++ a :: after).filter (!marked ·) = (before ++ after).filter (!marked ·) := by
  rw [List.filter_append, List.filter_append, List.filter_cons_of_neg (by simp [h])]

theorem gains_of_carried {cart next : Cart} {action : Action} {added : Added}
    (h : Carried cart action added next) (hmarked : action.addsMarked) :
    cart.Gains added next := by
  cases h with
  | removeCustomLineItem id => cases hmarked
  | removeLineItem id => cases hmarked
  | setCustomField name value => exact .of_lines_eq rfl rfl
  | setCustomType typed => exact .of_lines_eq rfl rfl
  | addCustomLineItem line hplace hfresh =>
    have hline : line.isPromotion := hmarked
    constructor
    case distinct =>
      intro hdistinct
      exact ⟨nodup_map_middle (hplace ▸ hdistinct.lines) (hplace ▸ hfresh), hdistinct.items⟩
    case lines =>
      rw [hplace]
      exact filter_middle_perm hline
    case items => simp
    case otherLines =>
      rw [hplace]
      exact filter_not_middle hline
    case otherItems => rfl
  | addLineItem item hplace hfresh hcustom =>
    have hitem : item.isFree := by
      rw [LineItem.isFree, hcustom]
      exact hmarked
    constructor
    case distinct =>
      intro hdistinct
      exact ⟨hdistinct.lines, nodup_map_middle (hplace ▸ hdistinct.items) (hplace ▸ hfresh)⟩
    case lines => simp
    case items =>
      rw [hplace]
      exact filter_middle_perm hitem
    case otherLines => rfl
    case otherItems =>
      rw [hplace]
      exact filter_not_middle hitem

theorem gains_of_carriedAll {cart last : Cart} {actions : List Action} {added : Added}
    (h : CarriedAll cart actions added last) (hmarked : ∀ action ∈ actions, action.addsMarked) :
    cart.Gains added last := by
  induction h with
  | nil cart total => exact .of_lines_eq rfl rfl
  | cons hcarried _ ih =>
    obtain ⟨hfirst, hrest⟩ := List.forall_mem_cons.mp hmarked
    exact (gains_of_carried hcarried hfirst).trans (ih hrest)

-- ---------------------------------------------------------------------------
-- Removals
-- ---------------------------------------------------------------------------

theorem carriedAll_append {cart last : Cart} {before after : List Action} {added : Added}
    (h : CarriedAll cart (before ++ after) added last) :
    ∃ next first later, CarriedAll cart before first next ∧ CarriedAll next after later last ∧
      added = first.append later := by
  induction before generalizing cart added with
  | nil =>
    refine ⟨cart, .none, added, .nil cart cart.totalPrice, h, ?_⟩
    cases added
    rfl
  | cons action before ih =>
    cases h with
    | cons hcarried hrest =>
      obtain ⟨next, first, later, hbefore, hafter, rfl⟩ := ih hrest
      refine ⟨next, _, later, .cons hcarried hbefore, hafter, ?_⟩
      simp [Added.append]

def Action.removedLine? : Action → Option String
  | removeCustomLineItem id => some id
  | _ => none

def Action.removedItem? : Action → Option String
  | removeLineItem id => some id
  | _ => none

/-- Removals take away the lines they name, and add nothing. -/
theorem removed_of_carriedAll {cart next : Cart} {actions : List Action} {added : Added}
    (h : CarriedAll cart actions added next)
    (hremovals : ∀ action ∈ actions, ∃ id, action = .removeCustomLineItem id ∨
      action = .removeLineItem id) :
    added = .none ∧
      next.customLineItems =
        cart.customLineItems.filter (·.id ∉ actions.filterMap Action.removedLine?) ∧
      next.lineItems = cart.lineItems.filter (·.id ∉ actions.filterMap Action.removedItem?) := by
  induction h with
  | nil cart total => simp
  | cons hcarried _ ih =>
    obtain ⟨⟨id, hfirst⟩, hrest⟩ := List.forall_mem_cons.mp hremovals
    obtain ⟨rfl, hlines, hitems⟩ := ih hrest
    rcases hfirst with rfl | rfl
    · cases hcarried with
      | removeCustomLineItem =>
        refine ⟨rfl, ?_, hitems⟩
        rw [hlines, List.filter_filter]
        simp [Action.removedLine?, Bool.and_comm]
    · cases hcarried with
      | removeLineItem =>
        refine ⟨rfl, hlines, ?_⟩
        rw [hitems, List.filter_filter]
        simp [Action.removedItem?, Bool.and_comm]

/-- Elements whose keys are not those of marked ones are the unmarked ones. -/
private theorem filter_notMem_marked {α : Type} {key : α → String} {marked : α → Bool} {l : List α}
    (h : (l.map key).Nodup) :
    l.filter (key · ∉ (l.filter marked).map key) = l.filter (!marked ·) := by
  apply List.filter_congr
  intro a ha
  have hiff : key a ∈ (l.filter marked).map key ↔ marked a := by
    constructor
    · intro hmem
      obtain ⟨b, hb, heq⟩ := List.mem_map.mp hmem
      obtain ⟨hbl, hbmarked⟩ := List.mem_filter.mp hb
      exact List.inj_on_of_nodup_map h hbl ha heq ▸ hbmarked
    · exact fun hmarked => List.mem_map_of_mem (List.mem_filter.mpr ⟨ha, hmarked⟩)
  rw [Bool.eq_iff_iff, decide_eq_true_iff, hiff]
  simp

/-- After the removals of an update nothing is left of the updates before it. -/
theorem unmarked_of_removals {cart next : Cart} {added : Added} (hdistinct : cart.DistinctIds)
    (h : CarriedAll cart (Settings.removals cart) added next) :
    added = .none ∧ next.customLineItems = cart.customLineItems.filter (!·.isPromotion) ∧
      next.lineItems = cart.lineItems.filter (!·.isFree) := by
  obtain ⟨hadded, hlines, hitems⟩ := removed_of_carriedAll h fun _ => Settings.eq_of_mem_removals
  have hlineIds : (Settings.removals cart).filterMap Action.removedLine? =
      (cart.customLineItems.filter (·.isPromotion)).map (·.id) := by
    simp [Settings.removals, List.filterMap_map, Function.comp_def, Action.removedLine?,
      CustomLineItem.isPromotion]
  have hitemIds : (Settings.removals cart).filterMap Action.removedItem? =
      (cart.lineItems.filter (·.isFree)).map (·.id) := by
    simp [Settings.removals, List.filterMap_map, Function.comp_def, Action.removedItem?]
  refine ⟨hadded, ?_, ?_⟩
  · rw [hlines, hlineIds]
    exact filter_notMem_marked hdistinct.lines
  · rw [hitems, hitemIds]
    exact filter_notMem_marked hdistinct.items

-- ---------------------------------------------------------------------------
-- Marks of what is emitted
-- ---------------------------------------------------------------------------

namespace Settings

variable {settings : Settings} {cart : Cart} {session : Session} {effects : List Effect}
  {currency : String} {items : List SessionItem}

theorem flagField_giftLine (name : String) :
    flagField (some (settings.lineFields
      [(freeItemField, .bool true), (promotionNameField, .string name)]).fields) freeItemField := by
  obtain ⟨hfree, -⟩ := get?_giftFields settings name
  simp only [flagField, Option.bind_some, hfree]
  rfl

theorem addsMarked_of_mem_emitted {action : Action}
    (h : action ∈ (settings.emitted currency items effects).reduceOption) :
    action.addsMarked := by
  obtain ⟨effect, -, index, claimed, met, hemission⟩ := exists_emission_of_mem h
  rcases emission_cases hemission with ⟨slug, hline⟩ | ⟨identity, name, rfl⟩ | ⟨value, rfl⟩
  · obtain ⟨_, _, _, _, rfl⟩ := discountLine?_eq_some hline
    exact marker_isPrefixOf_of_discountLine? hline
  · exact flagField_giftLine name
  · rfl

/-- An update takes lines away first, and everything that it adds is marked. -/
theorem cartUpdate_adds_marked (settings : Settings) (cart : Cart) (session : Session)
    (effects : List Effect) :
    ∃ rest, (settings.cartUpdate cart session effects).actions = removals cart ++ rest ∧
      ∀ action ∈ rest, action.addsMarked := by
  have hemitted : ∀ action ∈
      (settings.emitted cart.currency session.items effects).reduceOption, action.addsMarked :=
    fun _ => addsMarked_of_mem_emitted
  rw [cartUpdate_actions]
  cases settings.firstContribution? effects with
  | none => exact ⟨_, rfl, hemitted⟩
  | some n =>
    refine ⟨_, List.append_assoc _ _ _, ?_⟩
    rw [emitted_split n] at hemitted
    obtain ⟨hbefore, hafter⟩ := List.forall_mem_append.mp hemitted
    refine List.forall_mem_append.mpr ⟨?_, List.forall_mem_cons.mpr ⟨rfl, hafter⟩⟩
    exact fun action haction => hbefore action (List.mem_of_mem_filter haction)

-- ---------------------------------------------------------------------------
-- Updates
-- ---------------------------------------------------------------------------

/-- One update: what is marked afterwards is what it has added, and what is not marked stays. -/
theorem lines_of_updated {added : Added} {next : Cart} (hdistinct : cart.DistinctIds)
    (h : Updated settings effects cart added next) :
    next.DistinctIds ∧
      (next.customLineItems.filter (·.isPromotion)).Perm added.lines ∧
      (next.lineItems.filter (·.isFree)).Perm added.items ∧
      next.customLineItems.filter (!·.isPromotion) =
        cart.customLineItems.filter (!·.isPromotion) ∧
      next.lineItems.filter (!·.isFree) = cart.lineItems.filter (!·.isFree) := by
  obtain ⟨rest, hactions, hmarked⟩ :=
    cartUpdate_adds_marked settings cart (settings.cartSession cart) effects
  rw [Updated, hactions] at h
  -- `middle` is the cart between the removals, which leave no mark, and the marked additions
  obtain ⟨middle, first, later, hremoved, hadded, rfl⟩ := carriedAll_append h
  obtain ⟨rfl, hlines, hitems⟩ := unmarked_of_removals hdistinct hremoved
  have hgains := gains_of_carriedAll hadded hmarked
  have hmiddle : middle.DistinctIds := by
    constructor
    · rw [hlines]
      exact hdistinct.lines.sublist (List.filter_sublist.map _)
    · rw [hitems]
      exact hdistinct.items.sublist (List.filter_sublist.map _)
  refine ⟨hgains.distinct hmiddle, ?_, ?_, ?_, ?_⟩
  · have hnone : middle.customLineItems.filter (·.isPromotion) = [] := by
      rw [hlines, List.filter_filter]
      simp
    have hperm := hgains.lines
    rwa [hnone] at hperm
  · have hnone : middle.lineItems.filter (·.isFree) = [] := by
      rw [hitems, List.filter_filter]
      simp
    have hperm := hgains.items
    rwa [hnone] at hperm
  · rw [hgains.otherLines, hlines, List.filter_filter]
    simp
  · rw [hgains.otherItems, hitems, List.filter_filter]
    simp

/-- Any number of updates: ids stay distinct, and no line without a mark is touched. -/
theorem unmarked_of_updateRun {start : Cart} (hstart : start.DistinctIds)
    (h : UpdateRun settings start cart) :
    cart.DistinctIds ∧
      cart.customLineItems.filter (!·.isPromotion) =
        start.customLineItems.filter (!·.isPromotion) ∧
      cart.lineItems.filter (!·.isFree) = start.lineItems.filter (!·.isFree) := by
  -- ids that stay distinct carry the induction: a removal by id must not take another line along
  induction h with
  | start => exact ⟨hstart, rfl, rfl⟩
  | update _ hupdated ih =>
    obtain ⟨hdistinct, hlines, hitems⟩ := ih
    obtain ⟨hnext, -, -, hnextLines, hnextItems⟩ := lines_of_updated hdistinct hupdated
    exact ⟨hnext, hnextLines.trans hlines, hnextItems.trans hitems⟩

/-- However many updates a cart has seen, each with effects of its own, the marked lines are those
that the last update has added, and the lines without a mark are those of the cart before all
updates, unchanged and in their order. -/
theorem promotionLines_after_run {start next : Cart} {added : Added} (hstart : start.DistinctIds)
    (hrun : UpdateRun settings start cart) (hlast : Updated settings effects cart added next) :
    (next.customLineItems.filter (·.isPromotion)).Perm added.lines ∧
      (next.lineItems.filter (·.isFree)).Perm added.items ∧
      next.customLineItems.filter (!·.isPromotion) =
        start.customLineItems.filter (!·.isPromotion) ∧
      next.lineItems.filter (!·.isFree) = start.lineItems.filter (!·.isFree) := by
  obtain ⟨hdistinct, hlines, hitems⟩ := unmarked_of_updateRun hstart hrun
  obtain ⟨-, hmarkedLines, hmarkedItems, hnextLines, hnextItems⟩ :=
    lines_of_updated hdistinct hlast
  exact ⟨hmarkedLines, hmarkedItems, hnextLines.trans hlines, hnextItems.trans hitems⟩

/-- A gift that is in the cart and is given again, beside a discount that no effect renews and a
line that is no promotion's. -/
theorem promotionLines_after_run_gift_twice :
    let settings : Settings :=
      ⟨⟨.variantSku, '_'⟩, .halfEven, "en", none, none, [], [], [], ⟨"line", "cart", "customer"⟩⟩
    let gift : List Effect := [.addFreeItem ⟨"mug", "Free mug"⟩]
    let mug (id : String) : LineItem := ⟨id, "product-1", [], .unknown, 1, ⟨"EUR", 0⟩,
      some (settings.lineFields
        [(freeItemField, .bool true), (promotionNameField, .string "Free mug")]).fields⟩
    let start : Cart := ⟨"cart-1", none, none, ⟨"EUR", 0⟩, [],
      [⟨"line-1", "promotion-welcome"⟩, ⟨"line-2", "gift-wrap"⟩], none⟩
    let once : Cart :=
      { start with lineItems := [mug "item-1"], customLineItems := [⟨"line-2", "gift-wrap"⟩] }
    let twice : Cart := { once with lineItems := [mug "item-2"] }
    (start.DistinctIds ∧ UpdateRun settings start once ∧
      Updated settings gift once ⟨[], [mug "item-2"]⟩ twice) ∧
    (twice.customLineItems.filter (·.isPromotion)).Perm [] ∧
      (twice.lineItems.filter (·.isFree)).Perm [mug "item-2"] ∧
      twice.customLineItems.filter (!·.isPromotion) =
        start.customLineItems.filter (!·.isPromotion) ∧
      twice.lineItems.filter (!·.isFree) = start.lineItems.filter (!·.isFree) := by
  intro settings gift mug start once twice
  have hdistinct : start.DistinctIds := ⟨by decide, by decide⟩
  let cleared : Cart := { once with lineItems := [] }
  have hgift : ∀ id, Carried cleared (.addLineItem (.sku "mug") 1
      (some (settings.lineFields
        [(freeItemField, .bool true), (promotionNameField, .string "Free mug")])))
      ⟨[], [mug id]⟩ { once with lineItems := [mug id] } :=
    fun id => @Carried.addLineItem cleared _ _ _ (mug id) [] [] rfl List.not_mem_nil rfl
  have hremoved : Carried start (.removeCustomLineItem "line-1") .none cleared :=
    .removeCustomLineItem "line-1"
  have hremovedGift : Carried once (.removeLineItem "item-1") .none cleared :=
    .removeLineItem "item-1"
  have hfirst := CarriedAll.cons hremoved (.cons (hgift "item-1") (.nil once ⟨"EUR", 0⟩))
  have hsecond := CarriedAll.cons hremovedGift (.cons (hgift "item-2") (.nil twice ⟨"EUR", 0⟩))
  have hrun : UpdateRun settings start once :=
    @UpdateRun.update _ _ _ _ gift _ .start hfirst
  have hlast : Updated settings gift once ⟨[], [mug "item-2"]⟩ twice := hsecond
  exact ⟨⟨hdistinct, hrun, hlast⟩, promotionLines_after_run hdistinct hrun hlast⟩

end Settings

end Promotion
