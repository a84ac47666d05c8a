import Promotion.Proofs.Isolation
import Promotion.Proofs.RetryLoop
import Promotion.Proofs.SessionItems
import Promotion.Proofs.Spellings

/-!
# The case of letters in currency codes

Codes are brought to capitals before credentials are looked up, so that a cart with `usd` in it goes
where one with `USD` goes. The amounts are made with the code as it is written: its fraction digits
decide what a number of cents is worth, and how many cents a discount is. They are looked up by the
exact text, and a code of a currency without cents is not recognized in small letters.

So how a code is written shows in amounts exactly where it shows in the fraction digits
(`Processor.handle_respelled`), which it never does for a currency of two digits
(`fractionDigits_eq_of_sameLetters`), and does for others (`Processor.not_forall_amounts_kept`).
-/

namespace Promotion

-- ---------------------------------------------------------------------------
-- Fraction digits
-- ---------------------------------------------------------------------------

/-- Only the codes of currencies without two digits are told apart by their case, and they are
recognized in capitals. -/
theorem upper_eq_self_of_fractionDigits {code : String} (h : fractionDigits code ≠ 2) :
    Text.upper code = code := by
  have hcapitals : ∀ code ∈ ["JPY", "KRW", "CLP", "ISK", "VND", "BHD", "KWD", "OMR", "JOD", "TND"],
      Text.upper code = code := by decide
  refine hcapitals code ?_
  by_contra hcode
  refine h ?_
  unfold fractionDigits
  simp only [List.mem_cons, List.not_mem_nil, or_false, not_or] at hcode ⊢
  simp [hcode]

theorem fractionDigits_eq_of_sameLetters {code other : String} (h : Text.SameLetters code other)
    (htwo : fractionDigits (Text.upper code) = 2) : fractionDigits other = fractionDigits code := by
  have hupper : ∀ s, Text.upper s = Text.upper code → fractionDigits s = 2 := by
    intro s hs
    by_contra hdigits
    rw [← upper_eq_self_of_fractionDigits hdigits, hs] at hdigits
    exact hdigits htwo
  rw [hupper other (Text.upper_eq_of_sameLetters h), hupper code rfl]

-- ---------------------------------------------------------------------------
-- Carts and sessions
-- ---------------------------------------------------------------------------

/-- The same amount, in a currency code that differs at most in the case of ASCII letters. -/
structure ShopMoney.Respelled (m other : ShopMoney) : Prop where
  letters : Text.SameLetters m.currency other.currency
  cents : other.cents = m.cents

/-- The same line item but for the spelling of its price. -/
structure LineItem.Respelled (item other : LineItem) : Prop where
  price : item.price.Respelled other.price
  rest : { other with price := item.price } = item

/-- The same cart but for the spelling of its prices. -/
structure Cart.Respelled (cart other : Cart) : Prop where
  totalPrice : cart.totalPrice.Respelled other.totalPrice
  lineItems : List.Forall₂ LineItem.Respelled cart.lineItems other.lineItems
  rest : { other with totalPrice := cart.totalPrice, lineItems := cart.lineItems } = cart

/-- The fraction digits are the same for the prices of the line items that a session has. -/
def Settings.KeepsItemDigits (settings : Settings) (cart other : Cart) : Prop :=
  List.Forall₂ (fun item otherItem => settings.isListed item →
    fractionDigits otherItem.price.currency = fractionDigits item.price.currency)
    cart.lineItems other.lineItems

theorem Cart.Respelled.upper_currency {cart other : Cart} (h : cart.Respelled other) :
    Text.upper other.currency = Text.upper cart.currency :=
  Text.upper_eq_of_sameLetters h.totalPrice.letters

/-- What does not depend on the price is the same. -/
theorem LineItem.Respelled.congr {β : Type} {item other : LineItem} (h : item.Respelled other)
    (f : LineItem → β)
    (hf : ∀ (item : LineItem) (price : ShopMoney), f { item with price } = f item) :
    f other = f item :=
  (hf other item.price).symm.trans (congrArg f h.rest)

@[inherit_doc LineItem.Respelled.congr]
theorem Cart.Respelled.congr {β : Type} {cart other : Cart} (h : cart.Respelled other)
    (f : Cart → β) (hf : ∀ (cart : Cart) (totalPrice : ShopMoney) (lineItems : List LineItem),
      f { cart with totalPrice, lineItems } = f cart) : f other = f cart :=
  (hf other cart.totalPrice cart.lineItems).symm.trans (congrArg f h.rest)

namespace Settings

variable {settings : Settings} {cart other : Cart} {currency code : String}
  {items : List SessionItem} {session : Session} {effects : List Effect}

theorem sessionItem?_respelled {item otherItem : LineItem} (h : item.Respelled otherItem)
    (hdigits : settings.isListed item →
      fractionDigits otherItem.price.currency = fractionDigits item.price.currency) :
    settings.sessionItem? otherItem = settings.sessionItem? item := by
  have hfree : otherItem.isFree = item.isFree := h.congr LineItem.isFree fun _ _ => rfl
  have hreference : otherItem.reference = item.reference :=
    h.congr LineItem.reference fun _ _ => rfl
  by_cases hlisted : settings.isListed item
  · have hname : otherItem.localizedName = item.localizedName :=
      h.congr LineItem.localizedName fun _ _ => rfl
    have hquantity : otherItem.quantity = item.quantity := h.congr LineItem.quantity fun _ _ => rfl
    have hvariant : otherItem.variant = item.variant := h.congr LineItem.variant fun _ _ => rfl
    have hamount : otherItem.price.toMoney.amount = item.price.toMoney.amount := by
      simp only [ShopMoney.toMoney, Money.of]
      rw [h.price.cents, hdigits hlisted]
    unfold sessionItem?
    rw [hfree, hreference, hname, hquantity, hvariant, hamount]
  · have hother : ¬settings.isListed otherItem := by
      rwa [isListed, hfree, hreference, ← isListed]
    rw [sessionItem?_eq_none hlisted, sessionItem?_eq_none hother]

theorem sessionItems_respelled {lineItems otherItems : List LineItem}
    (h : List.Forall₂ LineItem.Respelled lineItems otherItems)
    (hdigits : List.Forall₂ (fun item otherItem => settings.isListed item →
      fractionDigits otherItem.price.currency = fractionDigits item.price.currency)
      lineItems otherItems) :
    settings.sessionItems otherItems = settings.sessionItems lineItems := by
  unfold sessionItems
  induction h with
  | nil => rfl
  | cons hitem _ ih =>
    cases hdigits with
    | cons hdigit hrest =>
      simp only [List.filterMap_cons]
      rw [sessionItem?_respelled hitem hdigit, ih hrest]

theorem cartSession_respelled (h : cart.Respelled other)
    (hdigits : settings.KeepsItemDigits cart other) :
    settings.cartSession other = settings.cartSession cart := by
  have hitems := sessionItems_respelled h.lineItems hdigits
  have hrest := h.congr (fun cart => { settings.cartSession cart with items := [] })
    fun _ _ _ => rfl
  simp only [cartSession, Session.mk.injEq] at hrest ⊢
  simp only [hitems, hrest, and_self]

end Settings

-- ---------------------------------------------------------------------------
-- Updates
-- ---------------------------------------------------------------------------

/-- The same action, with its amount in another currency code. -/
def Action.inCurrency (code : String) : Action → Action
  | addCustomLineItem name quantity money slug taxCategory custom =>
    addCustomLineItem name quantity { money with currency := code } slug taxCategory custom
  | action => action

def Action.money? : Action → Option CentMoney
  | addCustomLineItem _ _ money _ _ _ => some money
  | _ => none

def Draft.inCurrency (code : String) (draft : Draft) : Draft :=
  { draft with actions := draft.actions.map (Action.inCurrency code) }

@[simp] theorem Placed.setsField_inCurrency (code : String) (action : Action) :
    setsField (action.inCurrency code) = setsField action := by
  cases action <;> rfl

@[simp] theorem Placed.absorbField_inCurrency (code : String) (owned : List String)
    (fields : Dict Json) (action : Action) :
    absorbField owned fields (action.inCurrency code) = absorbField owned fields action := by
  cases action <;> rfl

theorem Action.onePieceMore_inCurrency (code : String) (action : Action) :
    Settings.onePieceMore (action.inCurrency code) =
      (Settings.onePieceMore action).inCurrency code := by
  cases action <;> rfl

theorem Money.of_toCents {m : Money} {money : CentMoney} (h : m.toCents.toOption = some money) :
    money.currency = m.currency ∧ money.fractionDigits = fractionDigits m.currency := by
  unfold toCents at h
  cases hcents : m.cents with
  | error fault =>
    rw [hcents] at h
    cases h
  | ok cents =>
    rw [hcents] at h
    cases h
    exact ⟨rfl, rfl⟩

/-- A currency code has its say in smallest units through its fraction digits alone. -/
theorem Money.toCents_cases (m other : Money) (hamount : other.amount = m.amount)
    (hrounding : other.rounding = m.rounding)
    (hdigits : fractionDigits other.currency = fractionDigits m.currency) :
    (∃ money, m.toCents = .ok money ∧
        other.toCents = .ok { money with currency := other.currency }) ∨
      (m.toCents = .error (.overflow m.currency) ∧
        other.toCents = .error (.overflow other.currency)) := by
  unfold toCents cents
  simp only [hamount, hrounding, hdigits]
  split
  · exact .inl ⟨_, rfl, rfl⟩
  · exact .inr ⟨rfl, rfl⟩

/-- Two results are the same but for `f`, or both are failures of the same code. -/
def SameUpTo {α : Type} (f : α → α) (result other : Except Failure α) : Prop :=
  (∃ value, result = .ok value ∧ other = .ok (f value)) ∨
    ∃ failure otherFailure, result = .error failure ∧ other = .error otherFailure ∧
      otherFailure.code = failure.code

namespace Settings

variable {settings : Settings} {cart other : Cart} {currency code : String}
  {items : List SessionItem} {session : Session} {effects : List Effect}

theorem discountLine_inCurrency (hdigits : fractionDigits code = fractionDigits currency)
    (name : String) (value : Decimal) (slug : String) (fields : List (String × Json))
    (claimed : List String) :
    SameUpTo (fun line => (line.1.inCurrency code, line.2))
      (settings.discountLine name value currency slug fields claimed)
      (settings.discountLine name value code slug fields claimed) := by
  have hcents := Money.toCents_cases
    ((Money.of .decimal currency value).roundedWith settings.rounding).negate
    ((Money.of .decimal code value).roundedWith settings.rounding).negate rfl rfl hdigits
  unfold discountLine
  rcases hcents with ⟨money, hone, hother⟩ | ⟨hone, hother⟩
  · rw [hone, hother]
    exact .inl ⟨_, rfl, rfl⟩
  · rw [hone, hother]
    exact .inr ⟨_, _, rfl, rfl, rfl⟩

theorem addLine_inCurrency {line otherLine : Except Failure (Action × String)} (draft : Draft)
    (h : SameUpTo (fun line => (line.1.inCurrency code, line.2)) line otherLine) :
    SameUpTo (Draft.inCurrency code) (addLine draft line)
      (addLine (draft.inCurrency code) otherLine) := by
  rcases h with ⟨added, rfl, rfl⟩ | ⟨failure, otherFailure, rfl, rfl, hcode⟩
  · refine .inl ⟨_, rfl, ?_⟩
    simp [addLine, Except.map, Draft.inCurrency]
  · exact .inr ⟨_, _, rfl, rfl, hcode⟩

theorem modify_inCurrency (actions : List Action) (place : Nat) :
    (actions.map (Action.inCurrency code)).modify place onePieceMore =
      (actions.modify place onePieceMore).map (Action.inCurrency code) := by
  apply List.ext_getElem?
  intro j
  rw [List.getElem?_modify, List.getElem?_map, List.getElem?_map, List.getElem?_modify]
  cases actions[j]? with
  | none => rfl
  | some action =>
    simp only [Option.map_eq_map, Option.map_some]
    split
    · rw [Action.onePieceMore_inCurrency]
    · rfl

theorem addGift_inCurrency (item : FreeItem) (draft : Draft) :
    settings.addGift item (draft.inCurrency code) =
      (settings.addGift item draft).inCurrency code := by
  simp only [addGift, Draft.inCurrency]
  cases draft.gifts.lookup (settings.resolver.decode item.sku) with
  | some place => simp only [modify_inCurrency]
  | none => simp only [List.length_map, List.map_append]; rfl

/-- An effect does the same to a draft whose amounts are in another currency code of the same
fraction digits. -/
theorem applyEffect_inCurrency (hdigits : fractionDigits code = fractionDigits currency)
    (index : Nat) (draft : Draft) (effect : Effect) :
    SameUpTo (Draft.inCurrency code) (settings.applyEffect currency items index draft effect)
      (settings.applyEffect code items index (draft.inCurrency code) effect) := by
  cases effect with
  | setDiscount discount => exact addLine_inCurrency draft (discountLine_inCurrency hdigits ..)
  | setDiscountPerItem discount =>
    simp only [applyEffect, addItemDiscount]
    cases items[discount.position]? with
    | none => exact .inr ⟨_, _, rfl, rfl, rfl⟩
    | some item => exact addLine_inCurrency draft (discountLine_inCurrency hdigits ..)
  | addFreeItem item => exact .inl ⟨_, rfl, congrArg Except.ok (addGift_inCurrency item draft)⟩
  | acceptCoupon _ | rejectCoupon _ _ =>
    refine .inl ⟨_, rfl, ?_⟩
    simp [applyEffect, addAction, Draft.inCurrency, Action.inCurrency]
  | _ =>
    refine .inl ⟨_, rfl, ?_⟩
    simp [applyEffect, contribute, Draft.inCurrency]

theorem applyEffects_inCurrency (hdigits : fractionDigits code = fractionDigits currency)
    (index : Nat) (draft : Draft) (effects : List Effect) :
    settings.applyEffects code items index (draft.inCurrency code) effects =
      ((settings.applyEffects currency items index draft effects).1.inCurrency code,
        (settings.applyEffects currency items index draft effects).2) := by
  induction effects generalizing index draft with
  | nil => rfl
  | cons effect rest ih =>
    have hstep : SameUpTo _ (settings.applyEffect currency items index draft effect) _ :=
      applyEffect_inCurrency hdigits index draft effect
    unfold applyEffects
    rcases hstep with ⟨next, hone, hother⟩ | ⟨failure, otherFailure, hone, hother, hcode⟩
    · simp only [hone, hother, ih]
    · simp only [hone, hother, ih, hcode]

theorem finish_inCurrency (draft : Draft) :
    finish (draft.inCurrency code) = (finish draft).map (Action.inCurrency code) := by
  have hnot : (fun action => !Placed.setsField action) ∘ Action.inCurrency code =
      fun action => !Placed.setsField action :=
    funext fun action => congrArg _ (Placed.setsField_inCurrency code action)
  unfold finish
  simp only [Draft.inCurrency]
  cases draft.cart.build with
  | none => rfl
  | some built =>
    obtain ⟨position, fields⟩ := built
    simp only [Placed.place_absorb, ← List.map_take, ← List.map_drop, List.filter_map, hnot,
      List.foldl_map, Placed.absorbField_inCurrency, List.map_append, List.map_cons]
    rfl

theorem money?_of_mem_discountLines {index : Nat} {claimed : List String}
    {line : Action × String} {money : CentMoney}
    (h : line ∈ settings.discountLines currency items index claimed effects)
    (hmoney : line.1.money? = some money) :
    money.currency = currency ∧ money.fractionDigits = fractionDigits currency := by
  induction effects generalizing index claimed with
  | nil => cases h
  | cons effect rest ih =>
    rcases List.mem_append.mp h with hfirst | hrest
    · obtain ⟨_, _, deducted, _, _, _, hline, hdeduction, -⟩ :=
        exists_wanted_of_discountLine? (Option.mem_toList.mp hfirst)
      rw [hline] at hmoney
      obtain rfl : deducted = money := Option.some.inj hmoney
      exact Money.of_toCents hdeduction
    · exact ih hrest

/-- The amounts of an update are in the cart's currency code as it is written, with its fraction
digits. -/
theorem amounts_cartUpdate {money : CentMoney}
    (h : money ∈ (settings.cartUpdate cart session effects).actions.filterMap Action.money?) :
    money.currency = cart.currency ∧ money.fractionDigits = fractionDigits cart.currency := by
  obtain ⟨action, haction, hmoney⟩ := List.mem_filterMap.mp h
  have hadds : action.addsLine = true := by
    cases action with
    | addCustomLineItem name quantity amount slug taxCategory custom => rfl
    | _ => cases hmoney
  have hline := List.mem_filter.mpr ⟨haction, hadds⟩
  rw [filter_addsLine_cartUpdate] at hline
  obtain ⟨line, hmem, rfl⟩ := List.mem_map.mp hline
  exact money?_of_mem_discountLines hmem hmoney

theorem giftIds_respelled {lineItems otherItems : List LineItem}
    (h : List.Forall₂ LineItem.Respelled lineItems otherItems) :
    (otherItems.filter (·.isFree)).map (·.id) = (lineItems.filter (·.isFree)).map (·.id) := by
  induction h with
  | nil => rfl
  | @cons item otherItem _ _ hitem _ ih =>
    have hfree : otherItem.isFree = item.isFree := hitem.congr LineItem.isFree fun _ _ => rfl
    have hid : otherItem.id = item.id := hitem.congr LineItem.id fun _ _ => rfl
    simp only [List.filter_cons, hfree]
    split
    · simp only [List.map_cons, hid, ih]
    · exact ih

theorem removals_respelled (h : cart.Respelled other) : removals other = removals cart := by
  have hlines : other.customLineItems = cart.customLineItems :=
    h.congr Cart.customLineItems fun _ _ _ => rfl
  have hgifts := congrArg (List.map Action.removeLineItem) (giftIds_respelled h.lineItems)
  rw [List.map_map, List.map_map] at hgifts
  unfold removals
  rw [hlines]
  exact congrArg (_ ++ ·) hgifts

/-- The draft that effects are applied to has no amounts yet. -/
theorem initialDraft_respelled (code : String) (h : cart.Respelled other) :
    settings.initialDraft other = (settings.initialDraft cart).inCurrency code := by
  have hremovals : (removals cart).map (Action.inCurrency code) = removals cart := by
    apply (List.map_congr_left ?_).trans (List.map_id _)
    intro action haction
    obtain ⟨id, rfl | rfl⟩ := eq_of_mem_removals haction <;> rfl
  have hpays : paysWithPoints other = paysWithPoints cart :=
    h.congr paysWithPoints fun _ _ _ => rfl
  simp only [initialDraft, Draft.inCurrency, hremovals, removals_respelled h, hpays]

/-- What effects mean for a cart is the same, but for the code in which amounts are given, if its
fraction digits are the same. -/
theorem cartUpdate_respelled (h : cart.Respelled other)
    (hdigits : fractionDigits other.currency = fractionDigits cart.currency) (session : Session)
    (effects : List Effect) :
    settings.cartUpdate other session effects =
      { settings.cartUpdate cart session effects with
        actions := (settings.cartUpdate cart session effects).actions.map
          (Action.inCurrency other.currency) } := by
  unfold cartUpdate
  rw [initialDraft_respelled other.currency h, applyEffects_inCurrency hdigits]
  simp only [finish_inCurrency]
  rfl

end Settings

-- ---------------------------------------------------------------------------
-- Events
-- ---------------------------------------------------------------------------

def Outcome.inCurrency (code : String) (outcome : Outcome) : Outcome :=
  match outcome.response with
  | .updateRequest actions =>
    { outcome with response := .updateRequest (actions.map (Action.inCurrency code)) }
  | .failedValidation _ => outcome

def Outcome.amounts (outcome : Outcome) : List CentMoney :=
  outcome.actions.filterMap Action.money?

namespace Processor

variable {σ : Type} {processor : Processor} {action : EventAction} {cart other : Cart}

/-- Where the calls for a task go: for each currency the credentials and the session, or the failure
to find any. -/
def routes (processor : Processor) (task : Task) :
    List (String × Except Failure (Credentials × String)) :=
  (processor.requests task).map fun (currency, request) =>
    (currency, request.map fun call => (call.credentials, call.id))

theorem currencies_respelled (h : cart.Respelled other) :
    processor.currencies (.cart action other) = processor.currencies (.cart action cart) := by
  cases action <;> simp only [currencies, h.upper_currency]

theorem routes_respelled (h : cart.Respelled other) :
    processor.routes (.cart action other) = processor.routes (.cart action cart) := by
  have hid : other.id = cart.id := h.congr Cart.id fun _ _ _ => rfl
  unfold routes requests
  rw [currencies_respelled h, List.map_map, List.map_map]
  refine List.map_congr_left fun currency _ => ?_
  simp only [Function.comp_apply, request, message, hid]
  cases processor.routing.resolve currency <;> rfl

theorem requests_respelled (h : cart.Respelled other)
    (hitems : processor.settings.KeepsItemDigits cart other) :
    processor.requests (.cart action other) = processor.requests (.cart action cart) := by
  have hid : other.id = cart.id := h.congr Cart.id fun _ _ _ => rfl
  unfold requests
  rw [currencies_respelled h]
  unfold request message
  simp only [hid, Settings.cartSession_respelled h hitems]

theorem conclude_respelled (h : cart.Respelled other)
    (hitems : processor.settings.KeepsItemDigits cart other)
    (hdigits : fractionDigits other.currency = fractionDigits cart.currency)
    (results : List CurrencyResult) :
    processor.conclude (.cart action other) results =
      ((processor.conclude (.cart action cart) results).1.inCurrency other.currency,
        (processor.conclude (.cart action cart) results).2) := by
  unfold conclude
  cases settle results with
  | error failure => rfl
  | ok settled =>
    simp only [concludeSettled, concludeCart, h.upper_currency,
      Settings.cartSession_respelled h hitems, Settings.cartUpdate_respelled h hdigits]
    rfl

theorem amounts_handle {engine : Engine σ} {state : σ} {event : Json}
    (hevent : readEvent event = .ok (.cart action cart)) {money : CentMoney}
    (h : money ∈ (processor.handle engine state event).outcome.amounts) :
    money.currency = cart.currency ∧ money.fractionDigits = fractionDigits cart.currency := by
  rw [outcome_handle hevent, conclude] at h
  split at h
  · cases h
  · exact Settings.amounts_cartUpdate h

/-- Where a task has a single call, its result is that of the retry loop. -/
theorem finalResults_singleton {task : Task} {currency : String} {call : Call}
    (answers : Nat → Answer) (h : processor.requests task = [(currency, .ok call)]) :
    processor.finalResults (.numbered answers) 0 task =
      [(currency, (effectsOf currency (processor.retry.run EngineFault.isRetryable
        fun made => (answers made).result).result).1)] := by
  obtain ⟨hresult, -⟩ := Timeline.ofCalls_singleton processor.retry answers call
  rw [finalResults, h]
  have hanswer := Option.get_of_eq_some (Option.isSome_of_eq_some hresult) hresult
  exact congrArg (fun answer => [(currency, (effectsOf currency answer).1)]) hanswer

-- ---------------------------------------------------------------------------
-- A cart with tea
-- ---------------------------------------------------------------------------

/-- A cart with one item at 500 cents, in given currency codes. -/
def teaCart (code price : String) : Cart :=
  ⟨"cart-1", none, none, ⟨code, 500⟩,
    [⟨"item-1", "product", [], ⟨none, some "tea", []⟩, 1, ⟨price, 500⟩, none⟩], [], none⟩

def teaEvent (code price : String) : Json :=
  let money (code : String) : Json :=
    .object [("centAmount", .ofNat 500), ("currencyCode", .string code)]
  .object
    [("action", .string "Update"), ("resource", .object
      [("id", .string "cart-1"), ("obj", .object
        [("id", .string "cart-1"),
          ("lineItems", .array [.object
            [("id", .string "item-1"), ("price", .object [("value", money price)]),
              ("productId", .string "product"), ("quantity", .ofNat 1),
              ("variant", .object [("sku", .string "tea")])]]),
          ("totalPrice", money code)]),
        ("typeId", .string "cart")])]

def teaProcessor (currency : String) : Processor :=
  ⟨⟨⟨.variantSku, '_'⟩, .halfEven, "en", none, none, [], [], [], ⟨"line", "cart", "customer"⟩⟩,
    .only currency, ⟨0, 0, 0⟩⟩

/-- The engine always takes 100 off. -/
def teaAnswers : Nat → Answer := fun _ =>
  ⟨0, .ok [.object [("effectType", .string "setDiscount"),
    ("props", .object [("name", .string "Summer"), ("value", .ofNat 100)])]]⟩

theorem readEvent_teaEvent (code price : String) :
    readEvent (teaEvent code price) = .ok (.cart .update (teaCart code price)) := rfl

theorem teaCart_respelled {code price otherCode otherPrice : String}
    (hcode : Text.SameLetters code otherCode) (hprice : Text.SameLetters price otherPrice) :
    (teaCart code price).Respelled (teaCart otherCode otherPrice) :=
  ⟨⟨hcode, rfl⟩, .cons ⟨⟨hprice, rfl⟩, rfl⟩ .nil, rfl⟩

theorem requests_teaCart {code : String} (price : String) (h : Text.upper code = "JPY") :
    (teaProcessor "JPY").requests (.cart .update (teaCart code price)) =
      [("JPY", .ok ⟨⟨"JPY", "", ""⟩, "cart-1",
        .session ((teaProcessor "JPY").settings.cartSession (teaCart code price))⟩)] := by
  have hcurrency : Text.upper (teaCart code price).currency = "JPY" := h
  simp only [requests, currencies, hcurrency, List.map_cons, List.map_nil]
  rfl

-- ---------------------------------------------------------------------------
-- Spelling
-- ---------------------------------------------------------------------------

/-- How the currency codes of a cart are written, as to the case of ASCII letters, never shows in
where calls go. Amounts are in the code as it is written, with its fraction digits, and it shows in
them through those alone. If the codes of the prices in the session have the same digits in both
spellings, the session is the same. If the cart's code has, too, everything is: the calls, and the
outcome but for the code itself, so that all numbers of cents and of fraction digits are kept. -/
theorem handle_respelled (processor : Processor) (engine : Engine σ) (state : σ)
    {event otherEvent : Json} {action : EventAction} {cart other : Cart}
    (hevent : readEvent event = .ok (.cart action cart))
    (hother : readEvent otherEvent = .ok (.cart action other)) (h : cart.Respelled other) :
    let handling := processor.handle engine state event
    processor.routes (.cart action other) = processor.routes (.cart action cart) ∧
      (∀ money ∈ handling.outcome.amounts,
        money.currency = cart.currency ∧ money.fractionDigits = fractionDigits cart.currency) ∧
      (processor.settings.KeepsItemDigits cart other →
        processor.settings.cartSession other = processor.settings.cartSession cart) ∧
      (processor.settings.KeepsItemDigits cart other →
        fractionDigits other.currency = fractionDigits cart.currency →
        processor.handle engine state otherEvent =
          { handling with outcome := handling.outcome.inCurrency other.currency }) := by
  intro handling
  refine ⟨routes_respelled h, fun _ => amounts_handle hevent, Settings.cartSession_respelled h,
    fun hitems hdigits => ?_⟩
  simp only [handling, handle, hevent, hother, handleTask, requests_respelled h hitems,
    conclude_respelled h hitems hdigits]

/-- The discount of a cart is the same in `eur` as in `EUR`, and where its item costs `Usd`. -/
theorem handle_respelled_euro :
    let handling := (teaProcessor "EUR").handle (.numbered teaAnswers) 0 (teaEvent "EUR" "USD")
    (teaProcessor "EUR").handle (.numbered teaAnswers) 0 (teaEvent "eur" "Usd") =
      { handling with outcome := handling.outcome.inCurrency "eur" } := by
  intro handling
  have hcode : Text.SameLetters "EUR" "eur" := by decide
  have hprice : Text.SameLetters "USD" "Usd" := by decide
  obtain ⟨-, -, -, hsame⟩ :=
    handle_respelled (teaProcessor "EUR") (.numbered teaAnswers) 0 (readEvent_teaEvent "EUR" "USD")
      (readEvent_teaEvent "eur" "Usd") (teaCart_respelled hcode hprice)
  exact hsame (.cons (fun _ => fractionDigits_eq_of_sameLetters hprice (by decide)) .nil)
    (fractionDigits_eq_of_sameLetters hcode (by decide))

/-- Prices and amounts do not stay as they are however currency codes are written. A price of 500
yen is one of 5 where the code is in small letters, and a discount of 100 yen is 10000 cents. -/
theorem not_forall_amounts_kept :
    (¬∀ (settings : Settings) (cart other : Cart), cart.Respelled other →
        (settings.cartSession other).items.map (·.price) =
          (settings.cartSession cart).items.map (·.price)) ∧
      ¬∀ (processor : Processor) (engine : Engine Nat) (state : Nat) (event otherEvent : Json)
        (action : EventAction) (cart other : Cart), readEvent event = .ok (.cart action cart) →
        readEvent otherEvent = .ok (.cart action other) → cart.Respelled other →
        (processor.handle engine state otherEvent).outcome.amounts.map
            (fun money => (money.cents, money.fractionDigits)) =
          (processor.handle engine state event).outcome.amounts.map
            fun money => (money.cents, money.fractionDigits) := by
  have h : (teaCart "JPY" "JPY").Respelled (teaCart "jpy" "jpy") :=
    teaCart_respelled (by decide) (by decide)
  refine ⟨fun hprices => ?_, fun hamounts => ?_⟩
  · have hsame := hprices (teaProcessor "JPY").settings _ _ h
    revert hsame
    decide
  · have hsame := hamounts (teaProcessor "JPY") (.numbered teaAnswers) 0 _ _ .update _ _
      (readEvent_teaEvent "JPY" "JPY") (readEvent_teaEvent "jpy" "jpy") h
    rw [outcome_handle (readEvent_teaEvent _ _), outcome_handle (readEvent_teaEvent _ _),
      finalResults_singleton teaAnswers (requests_teaCart "JPY" (by decide)),
      finalResults_singleton teaAnswers (requests_teaCart "jpy" (by decide))] at hsame
    revert hsame
    decide

end Processor

end Promotion
