import Mathlib.Data.List.Forall2
import Promotion.Proofs.DiscountLines

/-!
# What the engine is shown of a cart

Promotions put lines and gifts into a cart, and the engine must not take them for the customer's
own. So a session is made of the rest of the cart alone (`Cart.bare`), and a discount on an item
counts positions in the session and not in the cart. Both together keep positions where they were:
however many gifts come and go, and wherever they stand, the same position means the same line item
(`session_blind_to_promotions`).
-/

namespace Promotion

/-- A cart without custom lines and without the gifts of promotions. -/
def Cart.bare (cart : Cart) : Cart :=
  { cart with customLineItems := [], lineItems := cart.lineItems.filter (!·.isFree) }

/-- What an aggregate has gathered, whatever its place is. -/
def Aggregate.unplaced (a : Aggregate) : Aggregate :=
  { a with position := none }

namespace Settings

variable {settings : Settings} {cart other : Cart} {session : Session} {effects : List Effect}

-- ---------------------------------------------------------------------------
-- Items
-- ---------------------------------------------------------------------------

/-- Whether the session has an item for a line item: it is no gift and has a SKU. -/
def isListed (settings : Settings) (item : LineItem) : Bool :=
  !item.isFree && (settings.resolver.encode item.reference).isSome

/-- The line items of a cart that its session has items for. -/
def listed (settings : Settings) (cart : Cart) : List LineItem :=
  cart.lineItems.filter settings.isListed

/-- An item of a session that stands for a line item. -/
structure StandsFor (settings : Settings) (item : LineItem) (entry : SessionItem) : Prop where
  sku : settings.resolver.encode item.reference = some entry.sku
  name : entry.name = item.localizedName settings.language
  quantity : entry.quantity = item.quantity
  price : entry.price = item.price.toMoney.amount
  attributes : entry.attributes =
    Mapping.evaluate settings.language settings.itemRules item.variant.attributeTree

theorem sessionItem?_eq_none {item : LineItem} (h : ¬settings.isListed item) :
    settings.sessionItem? item = none := by
  unfold sessionItem?
  split
  · rfl
  · rename_i hfree
    simpa [isListed, hfree] using h

theorem sessionItem?_eq_some {item : LineItem} (h : settings.isListed item) :
    ∃ entry, settings.sessionItem? item = some entry ∧ settings.StandsFor item entry := by
  simp only [isListed, Bool.and_eq_true, Bool.not_eq_true'] at h
  obtain ⟨hfree, hsku⟩ := h
  obtain ⟨sku, hsku⟩ := Option.isSome_iff_exists.mp hsku
  simp only [sessionItem?, hfree, hsku]
  exact ⟨_, rfl, ⟨hsku, rfl, rfl, rfl, rfl⟩⟩

/-- The items of a session stand for the listed line items, one for each and in their order. -/
theorem standsFor_sessionItems (lineItems : List LineItem) :
    List.Forall₂ settings.StandsFor (lineItems.filter settings.isListed)
      (settings.sessionItems lineItems) := by
  unfold sessionItems
  induction lineItems with
  | nil => exact .nil
  | cons item rest ih =>
    by_cases hlisted : settings.isListed item
    · obtain ⟨entry, hentry, hstands⟩ := sessionItem?_eq_some hlisted
      rw [List.filter_cons_of_pos hlisted, List.filterMap_cons_some hentry]
      exact .cons hstands ih
    · rw [List.filter_cons_of_neg hlisted,
        List.filterMap_cons_none (sessionItem?_eq_none hlisted)]
      exact ih

-- ---------------------------------------------------------------------------
-- Carts that differ in promotions only
-- ---------------------------------------------------------------------------

theorem listed_bare (settings : Settings) (cart : Cart) :
    settings.listed cart.bare = settings.listed cart := by
  unfold listed Cart.bare
  rw [List.filter_filter]
  apply List.filter_congr
  intro item _
  cases hfree : item.isFree <;> simp [isListed, hfree]

theorem cartSession_bare (settings : Settings) (cart : Cart) :
    settings.cartSession cart.bare = settings.cartSession cart := by
  have hitems : settings.sessionItems cart.bare.lineItems =
      settings.sessionItems cart.lineItems := by
    unfold sessionItems Cart.bare
    rw [List.filterMap_filter]
    apply List.filterMap_congr
    intro item _
    cases hfree : item.isFree <;> simp [sessionItem?, hfree]
  unfold cartSession
  rw [hitems]
  rfl

theorem listed_eq_of_bare (h : cart.bare = other.bare) :
    settings.listed other = settings.listed cart := by
  rw [← listed_bare, ← h, listed_bare]

theorem cartSession_eq_of_bare (h : cart.bare = other.bare) :
    settings.cartSession other = settings.cartSession cart := by
  rw [← cartSession_bare, ← h, cartSession_bare]

-- ---------------------------------------------------------------------------
-- Updates of such carts
-- ---------------------------------------------------------------------------

theorem unplaced_gather {a b : Aggregate} (h : a.unplaced = b.unplaced) (place place' : Nat)
    (effect : Effect) : (a.gather place effect).unplaced = (b.gather place' effect).unplaced := by
  simp only [Aggregate.unplaced, Aggregate.mk.injEq] at h
  cases effect <;>
    simp [Aggregate.unplaced, Aggregate.gather, Aggregate.atPosition, Aggregate.addNotification,
      Aggregate.addLoyaltyPoints, Aggregate.setReferralCode, Aggregate.removeReferralCode, h]

theorem unplaced_afterEffects {currency : String} {items : List SessionItem} {index : Nat}
    {draft draft' : Draft} (h : draft.cart.unplaced = draft'.cart.unplaced) :
    (settings.afterEffects currency items index draft effects).cart.unplaced =
      (settings.afterEffects currency items index draft' effects).cart.unplaced := by
  induction effects generalizing index draft draft' with
  | nil => exact h
  | cons effect rest ih =>
    apply ih
    rw [afterEffect_cart, afterEffect_cart]
    exact unplaced_gather h _ _ effect

theorem currency_eq_of_bare (h : cart.bare = other.bare) : cart.currency = other.currency := by
  have hbare := congrArg Cart.currency h
  exact hbare

/-- What is gathered is the same. How many removals come before it decides about its place only. -/
theorem fields_gathered_eq_of_bare (h : cart.bare = other.bare) (session : Session)
    (effects : List Effect) :
    (settings.gathered cart session effects).fields =
      (settings.gathered other session effects).fields := by
  have hpoints : paysWithPoints cart = paysWithPoints other := by
    have hbare := congrArg paysWithPoints h
    exact hbare
  have hinitial : (settings.initialDraft cart).cart.unplaced =
      (settings.initialDraft other).cart.unplaced := by
    unfold initialDraft
    rw [hpoints]
    split <;> rfl
  have hgathered : (settings.gathered cart session effects).unplaced =
      (settings.gathered other session effects).unplaced := by
    unfold gathered
    rw [currency_eq_of_bare h]
    exact unplaced_afterEffects hinitial
  have hfields := congrArg Aggregate.fields hgathered
  exact hfields

/-- Updates of such carts by the same effects do the same, once each has taken its own lines and
gifts away. -/
theorem cartUpdate_eq_of_bare (h : cart.bare = other.bare) (session : Session)
    (effects : List Effect) :
    ∃ actions, (settings.cartUpdate cart session effects).actions = removals cart ++ actions ∧
      (settings.cartUpdate other session effects).actions = removals other ++ actions := by
  simp only [cartUpdate_actions, aggregateFields, currency_eq_of_bare h,
    fields_gathered_eq_of_bare h]
  cases settings.firstContribution? effects with
  | none => exact ⟨_, rfl, rfl⟩
  | some n => exact ⟨_, List.append_assoc _ _ _, List.append_assoc _ _ _⟩

-- ---------------------------------------------------------------------------
-- Discounts on items
-- ---------------------------------------------------------------------------

def addedLines (settings : Settings) (cart : Cart) (session : Session) (effects : List Effect) :
    List Action :=
  (settings.cartUpdate cart session effects).actions.filter Action.addsLine

/-- What one effect more adds to the lines. -/
theorem addedLines_concat (before : List Effect) (effect : Effect) :
    settings.addedLines cart session (before ++ [effect]) =
      settings.addedLines cart session before ++
        ((settings.discountLine? cart.currency session.items before.length
          ((settings.discountLines cart.currency session.items 0 [] before).map (·.2))
          effect).toList.map (·.1)) := by
  simp [addedLines, filter_addsLine_cartUpdate, discountLines_append, discountLines]

/-- Effects that come later leave the lines of those before them alone. -/
theorem addedLines_prefix_append (before after : List Effect) :
    settings.addedLines cart session before <+:
      settings.addedLines cart session (before ++ after) := by
  simp [addedLines, filter_addsLine_cartUpdate, discountLines_append]

theorem getElem?_of_forall₂ {α β : Type} {R : α → β → Prop} {l : List α} {l' : List β}
    (h : List.Forall₂ R l l') {i : Nat} {a : α} (ha : l[i]? = some a) :
    ∃ b, l'[i]? = some b ∧ R a b := by
  induction h generalizing i with
  | nil => cases ha
  | cons hR _ ih =>
    cases i with
    | zero =>
      cases ha
      exact ⟨_, rfl, hR⟩
    | succ i => exact ih ha

/-- What a discount on an item does to the lines of the effects before it. It is dropped if its
position is beyond the listed line items or its amount overflows, and otherwise adds a line with the
SKU of the line item in its position. -/
structure AddsItemLine (settings : Settings) (currency : String) (listed : List LineItem)
    (discount : ItemDiscount) (lines lines' : List Action) : Prop where
  beyond : listed.length ≤ discount.position → lines' = lines
  overflow : ∀ fault, settings.deduction currency discount.value = .error fault → lines' = lines
  tied : ∀ item money, listed[discount.position]? = some item →
    settings.deduction currency discount.value = .ok money →
    ∃ sku slug fields, settings.resolver.encode item.reference = some sku ∧
      Dict.get? fields lineItemSkuField = some (.string sku) ∧
      lines' = lines ++
        [.addCustomLineItem [(settings.language, discount.name)] 1 money slug
          (settings.discountTaxCategory.map fun id => ⟨id, "tax-category"⟩)
          (some ⟨settings.metadata.lineItem, fields⟩)]

/-- A discount on an item that the session has, and with an amount, has a line. -/
theorem exists_discountLine?_of_item {currency : String} {items : List SessionItem} {index : Nat}
    {claimed : List String} {discount : ItemDiscount} {entry : SessionItem} {money : CentMoney}
    (hentry : items[discount.position]? = some entry)
    (hmoney : settings.deduction currency discount.value = .ok money) :
    ∃ slug, settings.discountLine? currency items index claimed (.setDiscountPerItem discount) =
      some (.addCustomLineItem [(settings.language, discount.name)] 1 money slug
        (settings.discountTaxCategory.map fun id => ⟨id, "tax-category"⟩)
        (some (settings.lineFields [(promotionNameField, .string discount.name),
          (lineItemSkuField, .string entry.sku)])), slug) := by
  simp only [discountLine?, hentry, Option.bind_some, deductionLine?, hmoney]
  exact ⟨_, rfl⟩

theorem get?_lineItemSkuField (name sku : String) :
    (Dict.ofList [(promotionNameField, Json.string name), (lineItemSkuField, .string sku)]).get?
      lineItemSkuField = some (.string sku) :=
  Dict.get?_insert_self

theorem addsItemLine_addedLines (settings : Settings) (cart : Cart) (before : List Effect)
    (discount : ItemDiscount) :
    settings.AddsItemLine cart.currency (settings.listed cart) discount
      (settings.addedLines cart (settings.cartSession cart) before)
      (settings.addedLines cart (settings.cartSession cart)
        (before ++ [.setDiscountPerItem discount])) := by
  have hitems : List.Forall₂ settings.StandsFor (settings.listed cart)
      (settings.cartSession cart).items := standsFor_sessionItems cart.lineItems
  rw [addedLines_concat]
  constructor
  case beyond =>
    intro hbeyond
    rw [hitems.length_eq] at hbeyond
    simp [discountLine?, List.getElem?_eq_none hbeyond]
  case overflow =>
    intro fault hfault
    simp only [discountLine?, deductionLine?, hfault]
    simp [Except.toOption]
  case tied =>
    intro item money hitem hmoney
    obtain ⟨entry, hentry, hstands⟩ := getElem?_of_forall₂ hitems hitem
    obtain ⟨slug, hline⟩ := exists_discountLine?_of_item hentry hmoney
    refine ⟨entry.sku, slug, _, hstands.sku, get?_lineItemSkuField discount.name entry.sku, ?_⟩
    rw [hline]
    rfl

/-- Of two carts that differ in custom lines and gifts only, the engine is told the same. Both have
the same listed line items, which the items of the session stand for one by one; updates of both do
the same once each has taken its own lines and gifts away; and in both a discount on an item is for
the listed line item in its position. -/
theorem session_blind_to_promotions (settings : Settings) (h : cart.bare = other.bare) :
    let session := settings.cartSession cart
    let listed := settings.listed cart
    settings.cartSession other = session ∧
      settings.listed other = listed ∧
      List.Forall₂ settings.StandsFor listed session.items ∧
      (∀ effects, ∃ actions,
        (settings.cartUpdate cart session effects).actions = removals cart ++ actions ∧
          (settings.cartUpdate other session effects).actions = removals other ++ actions) ∧
      ∀ c, c = cart ∨ c = other → ∀ before discount after,
        let lines := settings.addedLines c session
        settings.AddsItemLine c.currency listed discount (lines before)
            (lines (before ++ [.setDiscountPerItem discount])) ∧
          lines (before ++ [.setDiscountPerItem discount]) <+:
            lines (before ++ .setDiscountPerItem discount :: after) := by
  intro session listed
  have hsession : settings.cartSession other = session := cartSession_eq_of_bare h
  have hlisted : settings.listed other = listed := listed_eq_of_bare h
  refine ⟨hsession, hlisted, standsFor_sessionItems cart.lineItems, ?_, ?_⟩
  · intro effects
    exact cartUpdate_eq_of_bare h session effects
  · intro c hc before discount after lines
    have hown : settings.cartSession c = session ∧ settings.listed c = listed := by
      rcases hc with rfl | rfl
      · exact ⟨rfl, rfl⟩
      · exact ⟨hsession, hlisted⟩
    have hline := addsItemLine_addedLines settings c before discount
    rw [hown.1, hown.2] at hline
    refine ⟨hline, ?_⟩
    have hprefix := @addedLines_prefix_append settings c session
      (before ++ [.setDiscountPerItem discount]) after
    simpa using hprefix

/-- A cart with two gifts and a line that is no promotion's, and the same cart without them. An item
without SKU stands between the two that are listed. -/
theorem session_blind_to_promotions_two_gifts :
    let settings : Settings :=
      ⟨⟨.variantSku, '_'⟩, .halfEven, "en", none, none, [], [], [], ⟨"line", "cart", "customer"⟩⟩
    let line (id : String) (sku : Option String) (custom : Option CustomFields) : LineItem :=
      ⟨id, "product", [], ⟨none, sku, []⟩, 1, ⟨"EUR", 500⟩, custom⟩
    let gift (id : String) : LineItem := line id (some "mug") (some [(freeItemField, .bool true)])
    let own : List LineItem :=
      [line "item-1" (some "shirt") none, line "item-2" none none,
        line "item-3" (some "socks") (some [(freeItemField, .bool false)])]
    let cart : Cart := ⟨"cart-1", none, none, ⟨"EUR", 1500⟩,
      gift "gift-1" :: own ++ [gift "gift-2"], [⟨"line-1", "gift-wrap"⟩], none⟩
    let other : Cart := { cart with lineItems := own, customLineItems := [] }
    let discount : ItemDiscount := ⟨"Two for one", .ofInt 3, 1⟩
    let session := settings.cartSession cart
    cart.bare = other.bare ∧
      settings.cartSession other = session ∧
      session.items.map (·.sku) = ["shirt", "socks"] ∧
      ∀ c, c = cart ∨ c = other → ∃ slug fields,
        Dict.get? fields lineItemSkuField = some (.string "socks") ∧
        settings.addedLines c session [.setDiscountPerItem discount] =
          [.addCustomLineItem [("en", "Two for one")] 1 ⟨"centPrecision", "EUR", -300, 2⟩ slug none
            (some ⟨"line", fields⟩)] := by
  intro settings line gift own cart other discount session
  have hbare : cart.bare = other.bare := rfl
  obtain ⟨hsession, -, -, -, hlines⟩ := session_blind_to_promotions settings hbare
  refine ⟨hbare, hsession, rfl, ?_⟩
  intro c hc
  have hmoney : settings.deduction c.currency discount.value =
      .ok ⟨"centPrecision", "EUR", -300, 2⟩ := by
    rcases hc with rfl | rfl <;> rfl
  have hnone : settings.addedLines c session [] = [] := by
    rcases hc with rfl | rfl <;> rfl
  obtain ⟨sku, slug, fields, hsku, hfield, hadded⟩ :=
    (hlines c hc [] discount []).1.tied (line "item-3" (some "socks") _) _ rfl hmoney
  cases hsku
  rw [hnone] at hadded
  exact ⟨slug, fields, hfield, hadded⟩

end Settings

end Promotion
