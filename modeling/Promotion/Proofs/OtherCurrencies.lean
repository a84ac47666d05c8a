import Promotion.Proofs.CustomerActions
import Promotion.Proofs.Interleaving

/-!
# Other currencies

A new cart has a session in every currency, but only its own currency has a say in the answer. What
the other currencies leave behind are the referral codes that they create, for the customer
(`Processor.cartAnswer`). Two runs that agree on the cart's currency give the same answer, then, and
two runs that agree on the other currencies' codes, too, give the customer the same actions.
-/

namespace Promotion

namespace Processor

variable {σ τ υ : Type} {processor : Processor} {engine : Engine σ} {state : σ} {task : Task}
  {action : EventAction} {cart : Cart} {currencies : List String} {currency : String}
  {result : String → Except Failure (List Effect)} {failure : Failure}

-- ---------------------------------------------------------------------------
-- Fatal results
-- ---------------------------------------------------------------------------

def fatal? : Except Failure (List Effect) → Option Failure
  | .error failure => if failure.isFatal then some failure else none
  | .ok _ => none

theorem fatal?_eq_some {result : Except Failure (List Effect)} :
    fatal? result = some failure ↔ result = .error failure ∧ failure.isFatal := by
  cases result with
  | ok effects => simp [fatal?]
  | error other =>
    simp only [fatal?, Option.ite_none_right_eq_some, Option.some.injEq, Except.error.injEq]
    constructor
    · rintro ⟨hfatal, rfl⟩
      exact ⟨rfl, hfatal⟩
    · rintro ⟨rfl, hfatal⟩
      exact ⟨hfatal, rfl⟩

/-- The only fatal failure of a call is that its credentials are refused. -/
theorem fatal?_finalResult (h : ∀ message,
    processor.finalAnswer? engine state task currency ≠ some (.error (.unauthorized message))) :
    fatal? (processor.finalResult engine state task currency) = none := by
  rw [Option.eq_none_iff_forall_ne_some]
  intro failure hsome
  obtain ⟨hresult, hfatal⟩ := fatal?_eq_some.mp hsome
  rcases failure_of_resultOf hresult with rfl | ⟨fault, rfl⟩
  · cases hfatal
  · cases fault with
    | unauthorized message => exact h message (finalResult_eq_engine_iff.mp hresult)
    | _ => cases hfatal

theorem mem_failed_map :
    (currency, failure) ∈ failed (currencies.map fun currency => (currency, result currency)) ↔
      currency ∈ currencies ∧ result currency = .error failure := by
  rw [mem_failed, List.mem_map]
  constructor
  · rintro ⟨other, hother, heq⟩
    obtain ⟨rfl, hresult⟩ := Prod.mk.inj heq
    exact ⟨hother, hresult⟩
  · rintro ⟨hcurrency, hresult⟩
    exact ⟨currency, hcurrency, congrArg _ hresult⟩

theorem isFatal_of_mem_failed_map (h : ∀ currency ∈ currencies, fatal? (result currency) = none) :
    ∀ entry ∈ failed (currencies.map fun currency => (currency, result currency)),
      entry.2.isFatal = false := by
  rintro ⟨currency, failure⟩ hentry
  obtain ⟨hcurrency, hresult⟩ := mem_failed_map.mp hentry
  rw [Bool.eq_false_iff]
  intro hfatal
  cases (h currency hcurrency).symm.trans (fatal?_eq_some.mpr ⟨hresult, hfatal⟩)

-- ---------------------------------------------------------------------------
-- The cart's own currency
-- ---------------------------------------------------------------------------

/-- The referral codes created in the currencies other than the cart's, in the order of the
currencies. -/
def othersCodes (cart : Cart) (currencies : List String)
    (result : String → Except Failure (List Effect)) : List String :=
  (currencies.filter (· ≠ Text.upper cart.currency)).flatMap fun currency =>
    Effect.createdCodes (brought (result currency))

/-- The answer to a cart event and the actions on the customer, from the result of the cart's
currency and the codes that other currencies create. -/
def cartAnswer (processor : Processor) (cart : Cart) (own : Except Failure (List Effect))
    (codes : List String) : Response × List Action :=
  match fatal? own with
  | some failure => (.failedValidation [failure.entry], [])
  | none =>
    let settings := processor.settings
    let update := settings.cartUpdate cart (settings.cartSession cart) (brought own)
    (.updateRequest update.actions,
      settings.customerActions (Effect.createdCodes (brought own) ++ codes).eraseDups [])

/-- Other currencies' codes have no say in the answer. -/
theorem cartAnswer_fst (processor : Processor) (cart : Cart) (own : Except Failure (List Effect))
    (codes others : List String) :
    (processor.cartAnswer cart own codes).1 = (processor.cartAnswer cart own others).1 := by
  unfold cartAnswer
  split <;> rfl

/-- Where the cart's currency alone fails fatally, its failure is the outcome. -/
theorem conclude_cart_of_fatal (hown : Text.upper cart.currency ∈ currencies)
    (hothers : ∀ currency ≠ Text.upper cart.currency, fatal? (result currency) = none)
    (hfatal : fatal? (result (Text.upper cart.currency)) = some failure) :
    (processor.conclude (.cart action cart)
      (currencies.map fun currency => (currency, result currency))).1 = .failed failure := by
  obtain ⟨hresult, hisFatal⟩ := fatal?_eq_some.mp hfatal
  cases hfind : (failed (currencies.map fun currency => (currency, result currency))).find?
      (·.2.isFatal) with
  | none =>
    have hnone := List.find?_eq_none.mp hfind _ (mem_failed_map.mpr ⟨hown, hresult⟩)
    exact absurd hisFatal hnone
  | some entry =>
    obtain ⟨other, fault⟩ := entry
    have hentry := mem_failed_map.mp (List.mem_of_find?_eq_some hfind)
    have hfault : fault.isFatal := by
      have hfound := List.find?_some hfind
      exact hfound
    have hother : other = Text.upper cart.currency := by
      by_contra hne
      cases (hothers other hne).symm.trans (fatal?_eq_some.mpr ⟨hentry.2, hfault⟩)
    subst hother
    cases hresult.symm.trans hentry.2
    exact conclude_of_find? hfind

/-- Where no currency fails fatally, the actions are those of the cart's currency. -/
theorem conclude_cart_of_not_fatal (processor : Processor) (action : EventAction)
    (hown : Text.upper cart.currency ∈ currencies)
    (hnone : ∀ currency ∈ currencies, fatal? (result currency) = none) :
    let own := brought (result (Text.upper cart.currency))
    let outcome := (processor.conclude (.cart action cart)
      (currencies.map fun currency => (currency, result currency))).1
    outcome.response = .updateRequest
        (processor.settings.cartUpdate cart (processor.settings.cartSession cart) own).actions ∧
      outcome.customerActions =
        processor.settings.customerActions
          (Effect.createdCodes own ++ othersCodes cart currencies result).eraseDups [] := by
  intro own outcome
  obtain ⟨hactions, hcustomer⟩ :=
    concludeSettled_cart processor result action cart hown
  simp only [outcome, conclude_of_not_fatal processor _ (isFatal_of_mem_failed_map hnone), hactions,
    hcustomer]
  exact ⟨rfl, rfl⟩

/-- Where no other currency fails fatally, a cart's event comes down to the cart's currency and the
other currencies' codes. -/
theorem conclude_cart (hown : Text.upper cart.currency ∈ currencies)
    (hothers : ∀ currency ≠ Text.upper cart.currency, fatal? (result currency) = none) :
    let outcome := (processor.conclude (.cart action cart)
      (currencies.map fun currency => (currency, result currency))).1
    (outcome.response, outcome.customerActions) =
      processor.cartAnswer cart (result (Text.upper cart.currency))
        (othersCodes cart currencies result) := by
  intro outcome
  unfold cartAnswer
  cases hfatal : fatal? (result (Text.upper cart.currency)) with
  | some failure =>
    simp only [outcome, conclude_cart_of_fatal hown hothers hfatal, Outcome.failed]
  | none =>
    have hnone : ∀ currency ∈ currencies, fatal? (result currency) = none := by
      intro currency _
      by_cases hsame : currency = Text.upper cart.currency
      · rw [hsame]
        exact hfatal
      · exact hothers currency hsame
    obtain ⟨hresponse, hcustomer⟩ := conclude_cart_of_not_fatal processor action hown hnone
    exact Prod.ext hresponse hcustomer

theorem mem_currencies_cart (action : EventAction) (cart : Cart) :
    Text.upper cart.currency ∈ processor.currencies (.cart action cart) := by
  cases action with
  | create => exact Dict.mem_keys_insert.mpr (.inl rfl)
  | update => exact List.mem_singleton_self _

/-- The outcome of a cart's event, in terms of the last answers to the calls. -/
theorem outcome_handle_cart (hsorted : processor.routing.credentials.Sorted) {event : Json}
    (hevent : readEvent event = .ok (.cart action cart))
    (hothers : ∀ currency ≠ Text.upper cart.currency, ∀ message,
      processor.finalAnswer? engine state (.cart action cart) currency ≠
        some (.error (.unauthorized message))) :
    let outcome := (processor.handle engine state event).outcome
    let final := processor.finalResult engine state (.cart action cart)
    (outcome.response, outcome.customerActions) =
      processor.cartAnswer cart (final (Text.upper cart.currency))
        (othersCodes cart (processor.currencies (.cart action cart)) final) := by
  intro outcome final
  have hnodup : (processor.currencies (.cart action cart)).Nodup :=
    (pairwise_currencies hsorted _).imp String.ne_of_lt
  simp only [outcome, outcome_handle hevent, finalResults_eq_map hnodup]
  apply conclude_cart (mem_currencies_cart action cart)
  intro currency hcurrency
  exact fatal?_finalResult (hothers currency hcurrency)

-- ---------------------------------------------------------------------------
-- Two runs
-- ---------------------------------------------------------------------------

/-- The result of the cart's currency is the same in an update as for a new cart. -/
theorem finalResult_cart_congr {other : Engine τ} {start : τ} {before after : EventAction}
    (h : processor.finalAnswer? other start (.cart after cart) currency =
      processor.finalAnswer? engine state (.cart before cart) currency) :
    processor.finalResult other start (.cart after cart) currency =
      processor.finalResult engine state (.cart before cart) currency := by
  unfold finalResult
  rw [h]
  rfl

/-- Other currencies cannot touch the cart. As long as no other currency's credentials are refused,
two engines whose last answers for the cart's currency are the same give a new cart the same answer,
which is the answer to an update of the cart, too. The actions on the customer are the same if the
other currencies create the same codes, whatever else they bring. -/
theorem handle_cart_of_own_currency (processor : Processor)
    (hsorted : processor.routing.credentials.Sorted) {create update : Json} {cart : Cart}
    (hcreate : readEvent create = .ok (.cart .create cart))
    (hupdate : readEvent update = .ok (.cart .update cart)) (first : Engine σ) (second : Engine τ)
    (updating : Engine υ) (one : σ) (two : τ) (three : υ)
    (hsecond : processor.finalAnswer? second two (.cart .create cart) (Text.upper cart.currency) =
      processor.finalAnswer? first one (.cart .create cart) (Text.upper cart.currency))
    (hupdating :
      processor.finalAnswer? updating three (.cart .update cart) (Text.upper cart.currency) =
        processor.finalAnswer? first one (.cart .create cart) (Text.upper cart.currency))
    (hfirstOthers : ∀ currency ≠ Text.upper cart.currency, ∀ message,
      processor.finalAnswer? first one (.cart .create cart) currency ≠
        some (.error (.unauthorized message)))
    (hsecondOthers : ∀ currency ≠ Text.upper cart.currency, ∀ message,
      processor.finalAnswer? second two (.cart .create cart) currency ≠
        some (.error (.unauthorized message))) :
    let currencies := processor.currencies (.cart .create cart)
    let firstCodes := othersCodes cart currencies (processor.finalResult first one (.cart .create cart))
    let secondCodes :=
      othersCodes cart currencies (processor.finalResult second two (.cart .create cart))
    let outcome := (processor.handle first one create).outcome
    (processor.handle second two create).outcome.response = outcome.response ∧
      (processor.handle updating three update).outcome.response = outcome.response ∧
      (secondCodes = firstCodes →
        (processor.handle second two create).outcome.customerActions = outcome.customerActions) ∧
      currencies.Pairwise (· < ·) := by
  intro currencies firstCodes secondCodes outcome
  have hupdatingOthers : ∀ currency ≠ Text.upper cart.currency, ∀ message,
      processor.finalAnswer? updating three (.cart .update cart) currency ≠
        some (.error (.unauthorized message)) := by
    intro currency hcurrency message hrefused
    obtain ⟨call, hcall⟩ := mem_calls_of_finalAnswer? hrefused
    exact hcurrency (List.mem_singleton.mp (mem_calls.mp hcall).1)
  have hone := outcome_handle_cart hsorted hcreate hfirstOthers
  have htwo := outcome_handle_cart hsorted hcreate hsecondOthers
  have hthree := outcome_handle_cart hsorted hupdate hupdatingOthers
  simp only [finalResult_cart_congr hsecond] at htwo
  simp only [finalResult_cart_congr hupdating] at hthree
  let own := processor.finalResult first one (.cart .create cart) (Text.upper cart.currency)
  refine ⟨?_, ?_, fun hcodes => ?_, pairwise_currencies hsorted _⟩
  · calc (processor.handle second two create).outcome.response
        = (processor.cartAnswer cart own secondCodes).1 := congrArg Prod.fst htwo
      _ = (processor.cartAnswer cart own firstCodes).1 := cartAnswer_fst ..
      _ = outcome.response := (congrArg Prod.fst hone).symm
  · calc (processor.handle updating three update).outcome.response
        = (processor.cartAnswer cart own _).1 := congrArg Prod.fst hthree
      _ = (processor.cartAnswer cart own firstCodes).1 := cartAnswer_fst ..
      _ = outcome.response := (congrArg Prod.fst hone).symm
  · calc (processor.handle second two create).outcome.customerActions
        = (processor.cartAnswer cart own secondCodes).2 := congrArg Prod.snd htwo
      _ = (processor.cartAnswer cart own firstCodes).2 := by rw [hcodes]
      _ = outcome.customerActions := (congrArg Prod.snd hone).symm

/-- A coupon and a failure of other currencies make no difference to a cart whose currency has no
credentials of its own. -/
theorem handle_cart_of_own_currency_by_fallback :
    let processor : Processor :=
      ⟨⟨⟨.variantSku, '_'⟩, .halfEven, "en", none, none, [], [], [], ⟨"line", "cart", "customer"⟩⟩,
        ⟨[("EUR", ⟨"EUR", "key", "https://engine.test"⟩),
          ("USD", ⟨"USD", "key", "https://engine.test"⟩)], some "EUR"⟩, ⟨2, 100, 1000⟩⟩
    let entry (kind value : String) : Json :=
      .object [("effectType", .string kind), ("props", .object [("value", .string value)])]
    let engine (usd : Except EngineFault (List Json)) : Engine Unit :=
      ⟨fun _ call =>
        (⟨5, if call.credentials.currency = "USD" then usd
          else .ok [entry "acceptCoupon" "SUMMER", entry "referralCreated" "FRIEND"]⟩, ())⟩
    let first := engine (.ok [entry "rejectCoupon" "SUMMER"])
    let second := engine (.error .timeout)
    let event (action : String) : Json := .object
      [("action", .string action), ("resource", .object
        [("id", .string "cart-1"), ("obj", .object
          [("id", .string "cart-1"), ("totalPrice", .object
            [("centAmount", .ofNat 0), ("currencyCode", .string "gbp")])]),
          ("typeId", .string "cart")])]
    let outcome := (processor.handle first () (event "Create")).outcome
    processor.routing.credentials.Sorted ∧
      (processor.handle second () (event "Create")).outcome.response = outcome.response ∧
      (processor.handle second () (event "Update")).outcome.response = outcome.response ∧
      (processor.handle second () (event "Create")).outcome.customerActions =
        outcome.customerActions := by
  intro processor entry engine first second event outcome
  let cart : Cart := ⟨"cart-1", none, none, ⟨"gbp", 0⟩, [], [], none⟩
  have hsorted : processor.routing.credentials.Sorted := by
    simp only [processor, Dict.Sorted, List.pairwise_cons]
    decide
  have hfinal : ∀ usd action currency call,
      (currency, call) ∈ calls (processor.requests (.cart action cart)) →
      processor.finalAnswer? (engine usd) () (.cart action cart) currency =
        some (if call.credentials.currency = "USD" then usd
          else .ok [entry "acceptCoupon" "SUMMER", entry "referralCreated" "FRIEND"]) :=
    fun usd action currency call hcall =>
      finalAnswer?_of_steady ((pairwise_currencies hsorted (.cart action cart)).imp String.ne_of_lt)
        (fun call => if call.credentials.currency = "USD" then usd
          else .ok [entry "acceptCoupon" "SUMMER", entry "referralCreated" "FRIEND"])
        (fun _ _ => rfl) hcall
  have hown : ∀ usd action, processor.finalAnswer? (engine usd) () (.cart action cart) "GBP" =
      some (.ok [entry "acceptCoupon" "SUMMER", entry "referralCreated" "FRIEND"]) :=
    fun usd action => hfinal usd action "GBP" ⟨⟨"EUR", "key", "https://engine.test"⟩, _, _⟩
      (mem_calls.mpr ⟨by cases action <;> decide, rfl⟩)
  have hothers : ∀ usd, (∀ message, usd ≠ .error (.unauthorized message)) →
      ∀ currency ≠ Text.upper cart.currency, ∀ message,
        processor.finalAnswer? (engine usd) () (.cart .create cart) currency ≠
          some (.error (.unauthorized message)) := by
    intro usd husd currency _ message hrefused
    obtain ⟨call, hcall⟩ := mem_calls_of_finalAnswer? hrefused
    rw [hfinal usd .create currency call hcall, Option.some_inj] at hrefused
    split at hrefused
    · exact husd message hrefused
    · cases hrefused
  have hcodes : ∀ usd, othersCodes cart (processor.currencies (.cart .create cart))
        (processor.finalResult (engine usd) () (.cart .create cart)) =
      "FRIEND" :: Effect.createdCodes (brought (effectsOf "USD" usd).1) := by
    intro usd
    have hEUR := hfinal usd .create "EUR" _ (mem_calls.mpr ⟨by decide, rfl⟩)
    have hUSD := hfinal usd .create "USD" _ (mem_calls.mpr ⟨by decide, rfl⟩)
    have hcurrencies : (processor.currencies (.cart .create cart)).filter
        (· ≠ Text.upper cart.currency) = ["EUR", "USD"] := by decide
    simp only [othersCodes, hcurrencies, finalResult, hEUR, hUSD, List.flatMap_cons,
      List.flatMap_nil, List.append_nil]
    rfl
  have hcreate : readEvent (event "Create") = .ok (.cart .create cart) := rfl
  have hupdate : readEvent (event "Update") = .ok (.cart .update cart) := rfl
  have hupper : Text.upper cart.currency = "GBP" := by decide
  obtain ⟨hresponse, hupdated, hcustomer, -⟩ :=
    handle_cart_of_own_currency processor hsorted hcreate hupdate first second second () () ()
      (by rw [hupper, hown, hown]) (by rw [hupper, hown, hown])
      (hothers (.ok [entry "rejectCoupon" "SUMMER"]) nofun) (hothers (.error .timeout) nofun)
  refine ⟨hsorted, hresponse, hupdated, hcustomer ?_⟩
  rw [hcodes, hcodes]
  rfl

end Processor

end Promotion
