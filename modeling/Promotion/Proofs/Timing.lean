import Promotion.Proofs.OtherCurrencies

/-!
# Timing

Calls for several currencies are answered at any time and in any order, and the outcome of an event
is the same: it is what comes of making the calls one after another, in the order of the currencies.
That order is the one in which a customer's codes and changes of points are listed, with a cart's own
currency before all others.
-/

namespace Promotion

/-- What a loop has ended in, if it is done. -/
def Phase.result? : Phase → Option (Except EngineFault (List Json))
  | .done result => some result
  | _ => none

namespace Processor

variable {σ : Type} {processor : Processor} {engine : Engine σ} {state : σ} {task : Task}
  {answers : Answers} {phases : Phases} {currency : String}

/-- The result of a currency whose calls are made without those of any other. -/
def resultAlone (processor : Processor) (answers : Answers) (task : Task) (currency : String) :
    Except Failure (List Effect) :=
  resultOf currency (processor.request task currency) fun call =>
    (processor.retry.run EngineFault.isRetryable (answers currency call)).result

/-- The results where the calls for each currency are made when those for the currency before are
done. -/
def oneAfterAnother (processor : Processor) (answers : Answers) (task : Task) :
    List CurrencyResult :=
  (processor.currencies task).map fun currency =>
    (currency, processor.resultAlone answers task currency)

/-- The outcome of a task from what the loops around its calls have ended in. -/
def outcomeOf (processor : Processor) (task : Task) (phases : Phases) : Outcome :=
  (processor.conclude task
    (results (processor.requests task) fun index => (phases index).result?.getD (.ok [])).1).1

-- ---------------------------------------------------------------------------
-- Any order
-- ---------------------------------------------------------------------------

/-- Loops that cannot go on are done, and have brought what they bring one after another. -/
theorem outcomeOf_of_interleaving
    (hphases : Phases.Interleaving processor.retry answers (calls (processor.requests task)) .start
      phases)
    (hstuck : ∀ next, ¬Phases.Step processor.retry answers (calls (processor.requests task)) phases
      next) :
    processor.outcomeOf task phases =
      (processor.conclude task (processor.oneAfterAnother answers task)).1 := by
  have hresults : (results (processor.requests task) fun index =>
      (phases index).result?.getD (.ok [])).1 = processor.oneAfterAnother answers task := by
    refine (results_eq_map (fun currency call =>
      (processor.retry.run EngineFault.isRetryable (answers currency call)).result) ?_).trans ?_
    · intro index currency call hcall
      obtain ⟨hlt, -⟩ := List.getElem?_eq_some_iff.mp hcall
      obtain ⟨result, hdone⟩ := Phases.done_of_stuck hstuck hlt
      simp only [hdone, Phase.result?, Option.getD_some]
      exact Phases.done_of_interleaving hphases hcall hdone
    · unfold oneAfterAnother requests
      rw [List.map_map]
      rfl
  unfold outcomeOf
  rw [hresults]

/-- A run by the clock brings what the loops bring one after another, too. -/
theorem finalResults_of_answers (hnodup : (processor.currencies task).Nodup)
    (hanswers : ∀ exchange ∈ processor.exchanges engine state task,
      exchange.result = answers exchange.currency exchange.call exchange.failures) :
    processor.finalResults engine state task = processor.oneAfterAnother answers task := by
  rw [finalResults_eq_map hnodup]
  refine List.map_congr_left fun currency hcurrency => congrArg _ ?_
  unfold finalResult resultAlone
  cases hrequest : processor.request task currency with
  | error failure => rfl
  | ok call =>
    have hfinal := finalAnswer?_of_answers hnodup hanswers (mem_calls.mpr ⟨hcurrency, hrequest⟩)
    rw [hfinal]
    rfl

-- ---------------------------------------------------------------------------
-- The order in which codes and changes are listed
-- ---------------------------------------------------------------------------

variable {currencies : List String} {result : String → Except Failure (List Effect)}

/-- Where no currency fails fatally, a customer gets the codes and the changes of points of all
currencies in order. -/
theorem conclude_customer_of_not_fatal {id : String} {content : Json}
    (hnone : ∀ currency ∈ currencies, fatal? (result currency) = none) :
    let all := currencies.flatMap fun currency => brought (result currency)
    let outcome := (processor.conclude (.customer id content)
      (currencies.map fun currency => (currency, result currency))).1
    outcome.response = .updateRequest
      (processor.settings.customerActions (Effect.createdCodes all).eraseDups
        (Effect.pointsChanges all)) := by
  intro all outcome
  obtain ⟨hactions, -⟩ :=
    concludeSettled_customer processor currencies result id content
  simp only [outcome, conclude_of_not_fatal processor _ (isFatal_of_mem_failed_map hnone), hactions]
  rfl

/-- The outcome of an event does not depend on timing. Let the answer to an attempt depend on its
call and its number alone. Then no interleaving of the loops around the calls goes on forever, each
one ends in the outcome that the currencies have one after another, and so does the run by the clock
of every engine that answers so. That outcome lists the customer's codes in the order of the
currencies, the cart's own currency first, each code where it comes first; in the event of a customer
the codes and the changes of points. -/
theorem handle_independent_of_timing (processor : Processor)
    (hsorted : processor.routing.credentials.Sorted) (answers : Answers) {event : Json} {task : Task}
    (hevent : readEvent event = .ok task) :
    let calls := calls (processor.requests task)
    let currencies := processor.currencies task
    let alone := processor.resultAlone answers task
    let outcome := (processor.conclude task (processor.oneAfterAnother answers task)).1
    (∀ schedule : Nat → Phases,
        ¬∀ n, Phases.Step processor.retry answers calls (schedule n) (schedule (n + 1))) ∧
      (∀ phases, Phases.Interleaving processor.retry answers calls .start phases →
        (∀ next, ¬Phases.Step processor.retry answers calls phases next) →
        processor.outcomeOf task phases = outcome) ∧
      (∀ {σ : Type} (engine : Engine σ) (state : σ),
        (∀ exchange ∈ processor.exchanges engine state task,
          exchange.result = answers exchange.currency exchange.call exchange.failures) →
        (processor.handle engine state event).outcome = outcome) ∧
      currencies.Pairwise (· < ·) ∧
      (∀ action cart, task = .cart action cart →
        (∀ currency ∈ currencies, fatal? (alone currency) = none) →
        outcome.customerActions = processor.settings.customerActions
          (Effect.createdCodes (brought (alone (Text.upper cart.currency))) ++
            othersCodes cart currencies alone).eraseDups []) ∧
      ∀ id content, task = .customer id content →
        (∀ currency ∈ currencies, fatal? (alone currency) = none) →
        let all := currencies.flatMap fun currency => brought (alone currency)
        outcome.response = .updateRequest
          (processor.settings.customerActions (Effect.createdCodes all).eraseDups
            (Effect.pointsChanges all)) := by
  intro calls currencies alone outcome
  have horder : currencies.Pairwise (· < ·) := pairwise_currencies hsorted task
  refine ⟨Phases.not_forall_step _ answers calls, fun phases => outcomeOf_of_interleaving, ?_,
    horder, ?_, ?_⟩
  · intro σ engine state hanswers
    rw [outcome_handle hevent, finalResults_of_answers (horder.imp String.ne_of_lt) hanswers]
  · rintro action cart rfl hnone
    exact (conclude_cart_of_not_fatal processor action (mem_currencies_cart action cart) hnone).2
  · rintro id content rfl hnone
    exact conclude_customer_of_not_fatal hnone

/-- The call for the first currency times out and is answered last. -/
theorem handle_independent_of_timing_of_slow_currency :
    let processor : Processor :=
      ⟨⟨⟨.variantSku, '_'⟩, .halfEven, "en", none, none, [], [], [], ⟨"line", "cart", "customer"⟩⟩,
        ⟨[("EUR", ⟨"EUR", "key", "https://engine.test"⟩),
          ("GBP", ⟨"GBP", "key", "https://engine.test"⟩)], none⟩, ⟨1, 100, 100⟩⟩
    let created (code : String) : Json := .object
      [("effectType", .string "referralCreated"), ("props", .object [("value", .string code)])]
    let answers : Answers := fun currency _ failures =>
      if currency = "GBP" then .ok [created "SECOND", created "FIRST"]
      else if failures = 0 then .error .timeout
      else .ok [created "FIRST", created "THIRD"]
    -- the state counts the attempts at the slow call
    let engine : Engine Nat := ⟨fun attempts call =>
      let currency := call.credentials.currency
      (⟨300, answers currency call attempts⟩, if currency = "GBP" then attempts else attempts + 1)⟩
    let event : Json := .object
      [("action", .string "Create"), ("resource", .object
        [("id", .string "cart-1"), ("obj", .object
          [("id", .string "cart-1"), ("totalPrice", .object
            [("centAmount", .ofNat 0), ("currencyCode", .string "gbp")])]),
          ("typeId", .string "cart")])]
    let cart : Cart := ⟨"cart-1", none, none, ⟨"gbp", 0⟩, [], [], none⟩
    let task : Task := .cart .create cart
    (processor.routing.credentials.Sorted ∧ readEvent event = .ok task ∧
        ∀ exchange ∈ processor.exchanges engine 0 task,
          exchange.result = answers exchange.currency exchange.call exchange.failures) ∧
      (processor.handle engine 0 event).outcome =
        (processor.conclude task (processor.oneAfterAnother answers task)).1 ∧
      (processor.handle engine 0 event).outcome.customerActions =
        processor.settings.customerActions ["SECOND", "FIRST", "THIRD"] [] := by
  intro processor created answers engine event cart task
  have hsorted : processor.routing.credentials.Sorted := by
    simp only [processor, Dict.Sorted, List.pairwise_cons]
    decide
  have hcurrencies : processor.currencies task = ["EUR", "GBP"] := by decide
  have hanswers : ∀ exchange ∈ processor.exchanges engine 0 task,
      exchange.result = answers exchange.currency exchange.call exchange.failures := by
    let session := Payload.session (processor.settings.cartSession cart)
    let eur : Call := ⟨⟨"EUR", "key", "https://engine.test"⟩, "cart-1", session⟩
    let gbp : Call := ⟨⟨"GBP", "key", "https://engine.test"⟩, "cart-1", session⟩
    have hcalls : calls (processor.requests task) = [("EUR", eur), ("GBP", gbp)] := by
      rw [requests, hcurrencies]
      rfl
    have hstart : Timeline.firstAttempts [eur, gbp] = [⟨0, eur, 0, 0⟩, ⟨1, gbp, 0, 0⟩] := rfl
    have hdelay : processor.retry.delay 0 = 100 := by decide +kernel
    have hagain : Timeline.again? processor.retry ⟨0, eur, 0, 0⟩ (engine.answer 0 eur).1 =
        some ⟨0, eur, 1, 400⟩ :=
      congrArg (fun wait => some (Attempt.mk 0 eur 1 (0 + 300 + wait))) hdelay
    have hqueue : Timeline.enqueue ⟨0, eur, 1, 400⟩ [⟨1, gbp, 0, 0⟩] =
        [⟨1, gbp, 0, 0⟩, ⟨0, eur, 1, 400⟩] := rfl
    have hmade : Timeline.exchanges engine processor.retry 0 [⟨0, eur, 0, 0⟩, ⟨1, gbp, 0, 0⟩] =
        [(⟨0, eur, 0, 0⟩, ⟨300, answers "EUR" eur 0⟩), (⟨1, gbp, 0, 0⟩, ⟨300, answers "GBP" gbp 0⟩),
          (⟨0, eur, 1, 400⟩, ⟨300, answers "EUR" eur 1⟩)] := by
      rw [Timeline.exchanges_cons_again _ hagain, hqueue, Timeline.exchanges_cons_done _ rfl,
        Timeline.exchanges_cons_done _ rfl, Timeline.exchanges_nil]
      rfl
    simp only [exchanges, hcalls, List.map_cons, List.map_nil, hstart, hmade]
    exact List.forall_mem_cons.mpr
      ⟨rfl, List.forall_mem_cons.mpr ⟨rfl, List.forall_mem_singleton.mpr rfl⟩⟩
  have hEUR : processor.resultAlone answers task "EUR" =
      .ok [.referralCreated "FIRST", .referralCreated "THIRD"] := rfl
  have hGBP : processor.resultAlone answers task "GBP" =
      .ok [.referralCreated "SECOND", .referralCreated "FIRST"] := rfl
  have hevent : readEvent event = .ok task := rfl
  obtain ⟨-, -, houtcome, -, hcustomer, -⟩ :=
    handle_independent_of_timing processor hsorted answers hevent
  have hcodes : (Effect.createdCodes (brought (processor.resultAlone answers task "GBP")) ++
      othersCodes cart ["EUR", "GBP"] (processor.resultAlone answers task)).eraseDups =
        ["SECOND", "FIRST", "THIRD"] := by
    have hothers : ["EUR", "GBP"].filter (· ≠ Text.upper cart.currency) = ["EUR"] := by decide
    simp only [othersCodes, hothers, List.flatMap_cons, List.flatMap_nil, hEUR, hGBP]
    decide
  refine ⟨⟨hsorted, hevent, hanswers⟩, houtcome engine 0 hanswers, ?_⟩
  have hupper : Text.upper cart.currency = "GBP" := by decide
  have hnone : ∀ currency ∈ processor.currencies task,
      fatal? (processor.resultAlone answers task currency) = none := by
    simp [hcurrencies, hEUR, hGBP, fatal?]
  rw [houtcome engine 0 hanswers, hcustomer .create cart rfl hnone, hcurrencies, hupper, hcodes]

end Processor

end Promotion
