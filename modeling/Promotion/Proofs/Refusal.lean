import Promotion.Proofs.Interleaving

/-!
# Refused events

An event is answered as a whole or refused as a whole. It is refused where it cannot be read, and
where the engine refuses the credentials of a currency in the end; whatever other currencies have
brought or failed to bring is dropped then.
-/

namespace Promotion

namespace Processor

variable {σ : Type} {processor : Processor} {engine : Engine σ} {state : σ} {task : Task}
  {event : Json} {finals : List CurrencyResult}

-- ---------------------------------------------------------------------------
-- Events that cannot be read
-- ---------------------------------------------------------------------------

/-- What keeps an event from being read: it does not have the shape of an event, or its cart or
order does not have that of a cart or an order. The content of a customer may be anything. -/
inductive Unreadable (json : Json) : Mismatch → Prop where
  | event {mismatch : Mismatch} (h : Reader.event json = .error mismatch) : Unreadable json mismatch
  | cart {event : Event} {mismatch : Mismatch} (hevent : Reader.event json = .ok event)
      (hkind : event.resource.kind = .cart)
      (h : Reader.cart event.resource.content = .error mismatch) : Unreadable json mismatch
  | order {event : Event} {mismatch : Mismatch} (hevent : Reader.event json = .ok event)
      (hkind : event.resource.kind = .order)
      (h : Reader.order event.resource.content = .error mismatch) : Unreadable json mismatch

theorem readEvent_of_unreadable {mismatch : Mismatch} (h : Unreadable event mismatch) :
    readEvent event = .error (.invalidEvent mismatch) := by
  cases h with
  | event h => simp only [readEvent, h, bind, Except.bind, Except.mapError]
  | cart hevent hkind h =>
    simp only [readEvent, hevent, bind, Except.bind, readTask, hkind, h, Except.map,
      Except.mapError]
  | order hevent hkind h =>
    simp only [readEvent, hevent, bind, Except.bind, readTask, hkind, h, Except.map,
      Except.mapError]

/-- An event that is not unreadable is about a cart, a customer or an order. -/
theorem readEvent_cases (event : Json) :
    (∃ mismatch, Unreadable event mismatch) ∨ ∃ task, readEvent event = .ok task := by
  cases hevent : Reader.event event with
  | error mismatch => exact .inl ⟨mismatch, .event hevent⟩
  | ok read =>
    simp only [readEvent, hevent, bind, Except.bind, readTask]
    cases hkind : read.resource.kind with
    | cart =>
      cases hcart : Reader.cart read.resource.content with
      | error mismatch => exact .inl ⟨mismatch, .cart hevent hkind hcart⟩
      | ok cart => exact .inr ⟨_, rfl⟩
    | customer => exact .inr ⟨_, rfl⟩
    | order =>
      cases horder : Reader.order read.resource.content with
      | error mismatch => exact .inl ⟨mismatch, .order hevent hkind horder⟩
      | ok order => exact .inr ⟨_, rfl⟩

theorem outcome_of_unreadable {mismatch : Mismatch} (h : Unreadable event mismatch) :
    (processor.handle engine state event).outcome = .failed (.invalidEvent mismatch) := by
  simp only [handle, readEvent_of_unreadable h]

-- ---------------------------------------------------------------------------
-- The first fatal failure
-- ---------------------------------------------------------------------------

/-- A currency is the first, in order, whose call is refused for its credentials in the end. -/
structure FirstRefusal (processor : Processor) (engine : Engine σ) (state : σ) (task : Task)
    (currency message : String) : Prop where
  refused : processor.finalAnswer? engine state task currency =
    some (.error (.unauthorized message))
  first : ∀ earlier other, earlier < currency →
    processor.finalAnswer? engine state task earlier ≠ some (.error (.unauthorized other))

theorem mem_failed_finalResults (hnodup : (processor.currencies task).Nodup) {currency : String}
    {fault : EngineFault} :
    (currency, .engine currency fault) ∈ failed (processor.finalResults engine state task) ↔
      processor.finalAnswer? engine state task currency = some (.error fault) := by
  rw [mem_failed, finalResults_eq_map hnodup, List.mem_map]
  constructor
  · rintro ⟨other, -, heq⟩
    obtain ⟨rfl, hresult⟩ := Prod.mk.inj heq
    exact finalResult_eq_engine_iff.mp hresult
  · intro h
    obtain ⟨call, hcall⟩ := mem_calls_of_finalAnswer? h
    exact ⟨currency, (mem_calls.mp hcall).1, congrArg _ (finalResult_eq_engine_iff.mpr h)⟩

/-- The first failure that is fatal is the first refusal. -/
theorem firstRefusal_of_find? (horder : (processor.currencies task).Pairwise (· < ·))
    {currency : String} {failure : Failure}
    (h : (failed (processor.finalResults engine state task)).find? (·.2.isFatal) =
      some (currency, failure)) :
    ∃ message, failure = .engine currency (.unauthorized message) ∧
      processor.FirstRefusal engine state task currency message := by
  have hnodup : (processor.currencies task).Nodup := horder.imp String.ne_of_lt
  have hmem := List.mem_of_find?_eq_some h
  have hfatal := List.find?_some h
  have hmessage : ∃ message, failure = .engine currency (.unauthorized message) := by
    rcases failure_of_mem_finalResults (mem_failed.mp hmem) with rfl | ⟨fault, rfl⟩
    · cases hfatal
    · cases fault with
      | unauthorized message => exact ⟨message, rfl⟩
      | _ => cases hfatal
  obtain ⟨message, rfl⟩ := hmessage
  refine ⟨message, rfl, (mem_failed_finalResults hnodup).mp hmem, ?_⟩
  intro earlier other hearlier hrefused
  have hpairwise : (failed (processor.finalResults engine state task)).Pairwise (·.1 < ·.1) := by
    apply pairwise_failed
    rw [currencies_finalResults]
    exact horder
  obtain ⟨-, before, after, hsplit, hbefore⟩ := List.find?_eq_some_iff_append.mp h
  have hentry := (mem_failed_finalResults hnodup).mpr hrefused
  rw [hsplit] at hentry hpairwise
  rcases List.mem_append.mp hentry with hin | hin
  · cases hbefore _ hin
  · rcases List.mem_cons.mp hin with heq | hin
    · obtain ⟨rfl, -⟩ := Prod.mk.inj heq
      exact String.lt_irrefl _ hearlier
    · have hlater := (List.pairwise_cons.mp (List.pairwise_append.mp hpairwise).2.1).1 _ hin
      exact String.lt_asymm hearlier hlater

-- ---------------------------------------------------------------------------
-- All or nothing
-- ---------------------------------------------------------------------------

/-- An event that has been read is refused for the first refusal, or answered. -/
theorem outcome_handle_cases (hsorted : processor.routing.credentials.Sorted)
    (hevent : readEvent event = .ok task) :
    let outcome := (processor.handle engine state event).outcome
    (∃ currency message, processor.FirstRefusal engine state task currency message ∧
        outcome = .failed (.engine currency (.unauthorized message))) ∨
      (∀ currency message,
          processor.finalAnswer? engine state task currency ≠
            some (.error (.unauthorized message))) ∧
        ∃ actions, outcome.response = .updateRequest actions := by
  intro outcome
  have horder := pairwise_currencies hsorted task
  have houtcome : outcome =
      (processor.conclude task (processor.finalResults engine state task)).1 :=
    outcome_handle hevent
  cases hfind : (failed (processor.finalResults engine state task)).find? (·.2.isFatal) with
  | some entry =>
    obtain ⟨currency, failure⟩ := entry
    obtain ⟨message, rfl, hfirst⟩ := firstRefusal_of_find? horder hfind
    exact .inl ⟨currency, message, hfirst, houtcome.trans (conclude_of_find? hfind)⟩
  | none =>
    have hnone : ∀ entry ∈ failed (processor.finalResults engine state task),
        entry.2.isFatal = false := by
      simpa using hfind
    refine .inr ⟨?_, ?_⟩
    · intro currency message hrefused
      have hentry := (mem_failed_finalResults (horder.imp String.ne_of_lt)).mpr hrefused
      cases hnone _ hentry
    · rw [houtcome, conclude_of_not_fatal processor task hnone]
      exact ⟨_, rfl⟩

/-- All or nothing. An event is refused exactly if it cannot be read or if the call for one of its
currencies is refused for its credentials in the end. It is then answered with one report alone, of
what keeps it from being read or of the first such refusal, and nothing of what other currencies
have brought or reported remains. -/
theorem handle_all_or_nothing (processor : Processor)
    (hsorted : processor.routing.credentials.Sorted) (engine : Engine σ) (state : σ)
    (event : Json) :
    let outcome := (processor.handle engine state event).outcome
    ((∃ errors, outcome.response = .failedValidation errors) ↔
        (∃ mismatch, Unreadable event mismatch) ∨
          ∃ task, readEvent event = .ok task ∧ ∃ currency message,
            processor.finalAnswer? engine state task currency =
              some (.error (.unauthorized message))) ∧
      (∀ mismatch, Unreadable event mismatch →
        outcome =
          ⟨.failedValidation [⟨"InvalidInput", "无效的事件: " ++ mismatch.message⟩], [], []⟩) ∧
      (∀ task currency message, readEvent event = .ok task →
        processor.finalAnswer? engine state task currency =
            some (.error (.unauthorized message)) →
        ∃ first reason, processor.FirstRefusal engine state task first reason ∧
          outcome =
            ⟨.failedValidation [⟨"PromotionEngineError",
              "促销引擎调用失败 (" ++ first ++ "): " ++ ("鉴权失败: " ++ reason)⟩], [], []⟩) ∧
      ((¬∃ errors, outcome.response = .failedValidation errors) →
        ∃ actions, outcome.response = .updateRequest actions) := by
  intro outcome
  have hunreadable : ∀ mismatch, Unreadable event mismatch →
      outcome = .failed (.invalidEvent mismatch) :=
    fun mismatch h => outcome_of_unreadable h
  refine ⟨⟨?_, ?_⟩, hunreadable, ?_, ?_⟩
  · rintro ⟨errors, herrors⟩
    refine (readEvent_cases event).imp_right fun ⟨task, htask⟩ => ⟨task, htask, ?_⟩
    rcases outcome_handle_cases hsorted htask with
      ⟨currency, message, hfirst, -⟩ | ⟨-, actions, hactions⟩
    · exact ⟨currency, message, hfirst.refused⟩
    · cases herrors.symm.trans hactions
  · rintro (⟨mismatch, h⟩ | ⟨task, htask, currency, message, hrefused⟩)
    · rw [hunreadable mismatch h]
      exact ⟨_, rfl⟩
    · rcases outcome_handle_cases hsorted htask with ⟨first, reason, -, hfailed⟩ | ⟨hnone, -⟩
      · exact ⟨_, congrArg Outcome.response hfailed⟩
      · exact absurd hrefused (hnone currency message)
  · intro task currency message htask hrefused
    rcases outcome_handle_cases hsorted htask with hfirst | ⟨hnone, -⟩
    · exact hfirst
    · exact absurd hrefused (hnone currency message)
  · intro hanswered
    cases hresponse : outcome.response with
    | updateRequest actions => exact ⟨actions, rfl⟩
    | failedValidation errors => exact absurd ⟨errors, hresponse⟩ hanswered

/-- Credentials that are refused in two currencies, after a currency that has created a code and one
that has failed; and an event that does not say what it is about. -/
theorem handle_all_or_nothing_of_four_currencies :
    let processor : Processor :=
      ⟨⟨⟨.variantSku, '_'⟩, .halfEven, "en", none, none, [], [], [], ⟨"line", "cart", "customer"⟩⟩,
        ⟨[("AUD", ⟨"AUD", "key", "https://engine.test"⟩),
          ("EUR", ⟨"EUR", "key", "https://engine.test"⟩),
          ("GBP", ⟨"GBP", "old", "https://engine.test"⟩),
          ("USD", ⟨"USD", "old", "https://engine.test"⟩)], none⟩, .never⟩
    let answer : String → Except EngineFault (List Json)
      | "AUD" => .ok [.object [("effectType", .string "referralCreated"),
          ("props", .object [("value", .string "FRIEND")])]]
      | "EUR" => .error (.rejected "busy")
      | currency => .error (.unauthorized ("expired: " ++ currency))
    let engine : Engine Unit := ⟨fun _ call => (⟨5, answer call.credentials.currency⟩, ())⟩
    let event : Json := .object
      [("action", .string "Update"), ("resource", .object
        [("id", .string "customer-1"), ("obj", .object []), ("typeId", .string "customer")])]
    processor.routing.credentials.Sorted ∧
      (processor.handle engine () event).outcome =
        ⟨.failedValidation
          [⟨"PromotionEngineError", "促销引擎调用失败 (GBP): 鉴权失败: expired: GBP"⟩], [], []⟩ ∧
      (processor.handle engine () (.object [("action", .string "Update")])).outcome =
        ⟨.failedValidation [⟨"InvalidInput", "无效的事件: missing field `resource`"⟩], [], []⟩ := by
  intro processor answer engine event
  let task : Task := .customer "customer-1" (.object [])
  have hsorted : processor.routing.credentials.Sorted := by
    simp only [processor, Dict.Sorted, List.pairwise_cons]
    decide
  have hfinal : ∀ currency call, (currency, call) ∈ calls (processor.requests task) →
      processor.finalAnswer? engine () task currency =
        some (answer call.credentials.currency) :=
    fun currency call hcall =>
      finalAnswer?_of_steady ((pairwise_currencies hsorted task).imp String.ne_of_lt)
        (fun call => answer call.credentials.currency) (fun _ _ => rfl) hcall
  have hrefused : processor.finalAnswer? engine () task "GBP" =
      some (.error (.unauthorized "expired: GBP")) :=
    hfinal "GBP" _ (mem_calls.mpr ⟨by decide, rfl⟩)
  obtain ⟨-, -, hrefusal, -⟩ := handle_all_or_nothing processor hsorted engine () event
  obtain ⟨first, reason, hfirst, houtcome⟩ := hrefusal task "GBP" _ rfl hrefused
  obtain ⟨-, hunreadable, -⟩ :=
    handle_all_or_nothing processor hsorted engine () (.object [("action", .string "Update")])
  refine ⟨hsorted, ?_, hunreadable (.missing "resource") (.event rfl)⟩
  -- neither of the currencies before is refused, and none after is the first
  obtain ⟨call, hcall⟩ := mem_calls_of_finalAnswer? hfirst.refused
  have hmem : first ∈ ["AUD", "EUR", "GBP", "USD"] := (mem_calls.mp hcall).1
  have hAUD := hfinal "AUD" _ (mem_calls.mpr ⟨by decide, rfl⟩)
  have hEUR := hfinal "EUR" _ (mem_calls.mpr ⟨by decide, rfl⟩)
  simp only [List.mem_cons, List.not_mem_nil, or_false] at hmem
  rcases hmem with rfl | rfl | rfl | rfl
  · cases hfirst.refused.symm.trans hAUD
  · cases hfirst.refused.symm.trans hEUR
  · cases hfirst.refused.symm.trans hrefused
    exact houtcome
  · exact absurd hrefused (hfirst.first "GBP" _ (by decide))

end Processor

end Promotion
