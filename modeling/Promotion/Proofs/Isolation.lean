import Promotion.Config.Load
import Promotion.Processor
import Promotion.Proofs.Dict
import Promotion.Proofs.Timeline

/-!
# Isolation of failures

A currency without a route and a call that is lost cost what the currency would have brought, and
nothing else: the answer is the one of a run in which the engine had no effects for the currency.
-/

namespace Promotion

theorem Routing.eq_unrouted_of_resolve {routing : Routing} {currency : String} {failure : Failure}
    (h : routing.resolve currency = .error failure) :
    failure = .unrouted (Text.upper currency) := by
  simp only [resolve] at h
  split at h
  · cases h
  · split at h
    · cases h
    · cases h
      rfl

/-- A fallback that has credentials serves every currency. -/
theorem Routing.exists_resolve_of_fallback {routing : Routing} {fallback : String}
    {credentials : Credentials} (h : routing.fallback = some fallback)
    (hfound : routing.credentials.get? fallback = some credentials) (currency : String) :
    ∃ found, routing.resolve currency = .ok found := by
  simp only [resolve, h, Option.bind_some, hfound]
  split
  · exact ⟨_, rfl⟩
  · exact ⟨_, rfl⟩

/-- The routing with credentials for one currency, which serve all others. -/
def Routing.only (currency : String) : Routing :=
  ⟨[(currency, ⟨currency, "", ""⟩)], some currency⟩

theorem Routing.exists_resolve_only (currency other : String) :
    ∃ found, (only currency).resolve other = .ok found := by
  have hfound : (only currency).credentials.get? currency = some ⟨currency, "", ""⟩ := by
    rw [only, Dict.get?_cons, if_pos rfl]
  exact exists_resolve_of_fallback rfl hfound other

theorem Routing.currenciesWith_only (currency : String) :
    (only currency).currenciesWith currency = [currency] := by
  have hsame : Dict.insert [(currency, ())] currency () = [(currency, ())] := by
    rw [Dict.insert, if_neg (String.lt_irrefl _), if_pos rfl]
  exact congrArg Dict.keys hsame

namespace Processor

variable {σ : Type} {processor : Processor} {engine : Engine σ} {state : σ} {task : Task}
  {requests : List (String × Except Failure Call)}
  {answer : Fin (routed requests).length → Except EngineFault (List Json)}

-- ---------------------------------------------------------------------------
-- Final results
-- ---------------------------------------------------------------------------

/-- The result of every currency of a task when all calls are done. -/
def finalResults (processor : Processor) (engine : Engine σ) (state : σ) (task : Task) :
    List CurrencyResult :=
  (processor.callAll engine state (processor.requests task)).2.1

theorem outcome_handleTask :
    (processor.handleTask engine state task).outcome =
      (processor.conclude task (processor.finalResults engine state task)).1 := rfl

theorem outcome_handle {event : Json} (h : readEvent event = .ok task) :
    (processor.handle engine state event).outcome =
      (processor.conclude task (processor.finalResults engine state task)).1 := by
  rw [handle, h]
  exact outcome_handleTask

theorem currencies_results :
    (results requests answer).1.map (·.1) = requests.map (·.1) := by
  induction requests with
  | nil => rfl
  | cons request rest ih =>
    obtain ⟨currency, failure | call⟩ := request
    · exact congrArg (currency :: ·) ih
    · exact congrArg (currency :: ·) ih

theorem currencies_requests :
    (processor.requests task).map (·.1) = processor.currencies task := by
  rw [requests, List.map_map]
  exact List.map_id _

/-- There is one result for each currency, in the order of the currencies. -/
theorem currencies_finalResults :
    (processor.finalResults engine state task).map (·.1) = processor.currencies task := by
  rw [finalResults, callAll, currencies_results, currencies_requests]

/-- A currency has no route, or its call has failed. -/
theorem failure_of_mem_results {currency : String} {failure : Failure}
    (h : (currency, .error failure) ∈ (results requests answer).1) :
    (currency, .error failure) ∈ requests ∨ ∃ fault, failure = .engine currency fault := by
  induction requests with
  | nil => cases h
  | cons request rest ih =>
    obtain ⟨other, unrouted | call⟩ := request
    · rcases List.mem_cons.mp h with heq | hrest
      · cases heq
        exact .inl List.mem_cons_self
      · exact (ih hrest).imp_left (List.mem_cons_of_mem _)
    · rcases List.mem_cons.mp h with heq | hrest
      · obtain ⟨rfl, hresult⟩ := Prod.mk.inj heq
        cases hanswer : answer ⟨0, Nat.succ_pos _⟩ with
        | ok entries =>
          rw [hanswer] at hresult
          cases hresult
        | error fault =>
          rw [hanswer] at hresult
          cases hresult
          exact .inr ⟨fault, rfl⟩
      · exact (ih hrest).imp_left (List.mem_cons_of_mem _)

theorem eq_unrouted_of_request {currency : String} {failure : Failure}
    (h : processor.request task currency = .error failure) :
    failure = .unrouted (Text.upper currency) := by
  unfold request at h
  cases hresolve : processor.routing.resolve currency with
  | ok credentials =>
    rw [hresolve] at h
    cases h
  | error fault =>
    rw [hresolve] at h
    cases h
    exact Routing.eq_unrouted_of_resolve hresolve

theorem failure_of_mem_finalResults {currency : String} {failure : Failure}
    (h : (currency, .error failure) ∈ processor.finalResults engine state task) :
    failure = .unrouted (Text.upper currency) ∨ ∃ fault, failure = .engine currency fault := by
  refine (failure_of_mem_results h).imp_left fun hrequest => ?_
  obtain ⟨other, -, heq⟩ := List.mem_map.mp hrequest
  obtain ⟨rfl, hunrouted⟩ := Prod.mk.inj heq
  exact eq_unrouted_of_request hunrouted

/-- The call of every currency that has a route is done, and its last answer is the currency's
result. -/
theorem finalResults_eq_results
    {answer : Fin (routed (processor.requests task)).length → Except EngineFault (List Json)}
    (h : ∀ (index : Fin _) (result : Except EngineFault (List Json)),
      (Timeline.ofCalls engine processor.retry state (routed (processor.requests task))).result?
        index = some result → answer index = result) :
    processor.finalResults engine state task = (results (processor.requests task) answer).1 := by
  have hanswer : ∀ index, answer index =
      ((Timeline.ofCalls engine processor.retry state (routed (processor.requests task))).result?
        index).get (Timeline.isSome_result?_ofCalls _ _ _ index.isLt) :=
    fun index => h index _ (Option.some_get _).symm
  rw [funext hanswer, finalResults, callAll]

-- ---------------------------------------------------------------------------
-- Results without failures
-- ---------------------------------------------------------------------------

/-- A result in which no effects take the place of a failure. -/
def recover : Except Failure (List Effect) → Except Failure (List Effect)
  | .ok effects => .ok effects
  | .error _ => .ok []

/-- Results as they are when the engine has no effects for every currency that failed. -/
def recovered (results : List CurrencyResult) : List CurrencyResult :=
  results.map fun (currency, result) => (currency, recover result)

def failed (results : List CurrencyResult) : List (String × Failure) :=
  results.filterMap fun (currency, result) =>
    match result with
    | .ok _ => none
    | .error failure => some (currency, failure)

def succeeded (results : List CurrencyResult) : List (String × List Effect) :=
  results.filterMap fun (currency, result) => result.toOption.map fun effects => (currency, effects)

variable {currency : String} {finals : List CurrencyResult}

theorem mem_failed {failure : Failure} :
    (currency, failure) ∈ failed finals ↔ (currency, .error failure) ∈ finals := by
  rw [failed, List.mem_filterMap]
  constructor
  · rintro ⟨⟨other, fault | effects⟩, hmem, hsome⟩
    · cases hsome
      exact hmem
    · cases hsome
  · exact fun hmem => ⟨_, hmem, rfl⟩

theorem failed_recovered (finals : List CurrencyResult) : failed (recovered finals) = [] := by
  rw [failed, List.filterMap_eq_nil_iff]
  intro result hresult
  obtain ⟨⟨currency, failure | effects⟩, -, rfl⟩ := List.mem_map.mp hresult
  · rfl
  · rfl

@[simp] theorem failed_error (currency : String) (failure : Failure)
    (finals : List CurrencyResult) :
    failed ((currency, .error failure) :: finals) = (currency, failure) :: failed finals := rfl

@[simp] theorem failed_ok (currency : String) (effects : List Effect)
    (finals : List CurrencyResult) : failed ((currency, .ok effects) :: finals) = failed finals := rfl

@[simp] theorem succeeded_error (currency : String) (failure : Failure)
    (finals : List CurrencyResult) :
    succeeded ((currency, .error failure) :: finals) = succeeded finals := rfl

@[simp] theorem succeeded_ok (currency : String) (effects : List Effect)
    (finals : List CurrencyResult) :
    succeeded ((currency, .ok effects) :: finals) = (currency, effects) :: succeeded finals := rfl

/-- The first fatal failure takes the place of everything else. -/
theorem settle_eq (finals : List CurrencyResult) :
    settle finals =
      match (failed finals).find? (·.2.isFatal) with
      | some (_, failure) => .error failure
      | none => .ok (succeeded finals, (failed finals).map (·.2)) := by
  induction finals with
  | nil => rfl
  | cons result rest ih =>
    obtain ⟨currency, failure | effects⟩ := result
    · simp only [settle, failed_error, ih, List.find?_cons]
      cases failure.isFatal with
      | true => rfl
      | false => cases (failed rest).find? (·.2.isFatal) <;> rfl
    · simp only [settle, failed_ok, ih]
      cases (failed rest).find? (·.2.isFatal) <;> rfl

/-- Where no failure is fatal, failures and effects part. -/
theorem settle_of_not_fatal (h : ∀ entry ∈ failed finals, entry.2.isFatal = false) :
    settle finals = .ok (succeeded finals, (failed finals).map (·.2)) := by
  have hnone : (failed finals).find? (·.2.isFatal) = none := by
    simpa using h
  rw [settle_eq, hnone]

theorem recovered_cons (currency : String) (result : Except Failure (List Effect))
    (finals : List CurrencyResult) :
    recovered ((currency, result) :: finals) = (currency, recover result) :: recovered finals := rfl

/-- A failure leaves the effects of the other currencies in their places. -/
theorem flatMap_succeeded_recovered (wanted : String → Bool) (finals : List CurrencyResult) :
    ((succeeded (recovered finals)).filter (wanted ·.1)).flatMap (·.2) =
      ((succeeded finals).filter (wanted ·.1)).flatMap (·.2) := by
  induction finals with
  | nil => rfl
  | cons result rest ih =>
    obtain ⟨currency, failure | effects⟩ := result
    · rw [recovered_cons, recover, succeeded_ok, succeeded_error, List.filter_cons]
      split
      · exact ih
      · exact ih
    · rw [recovered_cons, recover, succeeded_ok, succeeded_ok, List.filter_cons, List.filter_cons]
      split
      · exact congrArg (effects ++ ·) ih
      · exact ih

theorem lookup_succeeded_of_notMem (h : currency ∉ finals.map (·.1)) :
    (succeeded finals).lookup currency = none := by
  rw [List.lookup_eq_none_iff]
  intro entry hentry
  obtain ⟨⟨other, result⟩, hmem, hsome⟩ := List.mem_filterMap.mp hentry
  obtain ⟨effects, -, rfl⟩ := Option.map_eq_some_iff.mp hsome
  have hne : currency ≠ other := fun heq => h (heq ▸ List.mem_map_of_mem hmem)
  simpa using hne

/-- Each currency has one result only, so that a failed one has no effects elsewhere. -/
theorem lookup_succeeded_recovered (hnodup : (finals.map (·.1)).Nodup) (currency : String) :
    ((succeeded (recovered finals)).lookup currency).getD [] =
      ((succeeded finals).lookup currency).getD [] := by
  induction finals with
  | nil => rfl
  | cons result rest ih =>
    obtain ⟨hfresh, hrest⟩ := List.nodup_cons.mp hnodup
    obtain ⟨other, failure | effects⟩ := result
    · rw [recovered_cons, recover, succeeded_ok, succeeded_error, List.lookup_cons]
      split
      · -- a second result of the same currency would be found on one side only
        rename_i heq
        rw [eq_of_beq heq, lookup_succeeded_of_notMem hfresh]
        rfl
      · exact ih hrest
    · rw [recovered_cons, recover, succeeded_ok, succeeded_ok, List.lookup_cons, List.lookup_cons]
      split
      · rfl
      · exact ih hrest

/-- What is made of the effects is what is made of them when no currency has failed. -/
theorem concludeSettled_recovered (processor : Processor) (task : Task)
    (hnodup : (finals.map (·.1)).Nodup) :
    processor.concludeSettled task (succeeded (recovered finals)) =
      processor.concludeSettled task (succeeded finals) := by
  cases task with
  | cart action cart =>
    simp only [concludeSettled, concludeCart]
    rw [lookup_succeeded_recovered hnodup]
    have hothers := flatMap_succeeded_recovered (· ≠ Text.upper cart.currency) finals
    rw [hothers]
  | customer id content =>
    have hall := flatMap_succeeded_recovered (fun _ => true) finals
    simp only [List.filter_true] at hall
    simp only [concludeSettled, hall]
  | order order => rfl

/-- Once all calls are done, routes and retries have no say any more. -/
theorem conclude_of_settings {other : Processor} (h : other.settings = processor.settings) :
    other.conclude task finals = processor.conclude task finals := by
  simp only [conclude, concludeSettled, concludeCart, h]

theorem conclude_of_find? {entry : String × Failure}
    (h : (failed finals).find? (·.2.isFatal) = some entry) :
    (processor.conclude task finals).1 = .failed entry.2 := by
  simp only [conclude, settle_eq, h]

theorem conclude_of_not_fatal (processor : Processor) (task : Task)
    (h : ∀ entry ∈ failed finals, entry.2.isFatal = false) :
    (processor.conclude task finals).1 =
      let handled := processor.concludeSettled task (succeeded finals)
      ⟨.updateRequest handled.actions, handled.customerActions,
        (failed finals).map (·.2.entry)⟩ := by
  rw [conclude, settle_of_not_fatal h]
  simp only [List.map_map]
  rfl

/-- Failures that are not fatal are reported, and change nothing else. -/
theorem conclude_recovered (processor : Processor) (task : Task)
    (hnodup : (finals.map (·.1)).Nodup) (h : ∀ entry ∈ failed finals, entry.2.isFatal = false) :
    (processor.conclude task (recovered finals)).1 =
      { (processor.conclude task finals).1 with errors := [] } := by
  have hnone : ∀ entry ∈ failed (recovered finals), entry.2.isFatal = false := by
    rw [failed_recovered]
    exact List.forall_mem_nil _
  rw [conclude_of_not_fatal processor task hnone, conclude_of_not_fatal processor task h,
    concludeSettled_recovered processor task hnodup, failed_recovered]
  rfl

-- ---------------------------------------------------------------------------
-- A run without failures
-- ---------------------------------------------------------------------------

/-- The calls for currencies that all have a route are as many as the currencies. -/
theorem length_routed (h : ∀ request ∈ requests, ∃ call, request.2 = .ok call) :
    (routed requests).length = requests.length := by
  rw [routed, List.filterMap_length_eq_length]
  rintro ⟨currency, result⟩ hrequest
  obtain ⟨call, hcall⟩ := h _ hrequest
  cases hcall
  rfl

/-- Results of calls that were all answered with a list of entries. -/
def answeredWith (currencies : List String) (lists : List (List Json)) : List CurrencyResult :=
  List.zipWith (fun currency entries => (currency, .ok (Effect.ofEntries entries).1)) currencies lists

theorem results_of_answers {lists : List (List Json)} (hlength : requests.length = lists.length)
    (hroute : ∀ request ∈ requests, ∃ call, request.2 = .ok call)
    (hanswer : ∀ index, ∃ entries, lists[index.val]? = some entries ∧ answer index = .ok entries) :
    (results requests answer).1 = answeredWith (requests.map (·.1)) lists := by
  induction requests generalizing lists with
  | nil => rfl
  | cons request rest ih =>
    obtain ⟨⟨call, hcall⟩, hrest⟩ := List.forall_mem_cons.mp hroute
    cases lists with
    | nil => cases hlength
    | cons entries lists =>
      obtain ⟨currency, result⟩ := request
      cases hcall
      obtain ⟨first, hplace, hfirst⟩ := hanswer ⟨0, Nat.succ_pos _⟩
      cases hplace
      have hlater := ih (Nat.succ.inj hlength) hrest fun index => hanswer index.succ
      simp only [results, hfirst, hlater]
      rfl

/-- Where every currency has a route, an engine that answers in turn brings all effects. -/
theorem finalResults_inTurn {lists : List (List Json)}
    (hroute : ∀ currency ∈ processor.currencies task, ∃ credentials,
      processor.routing.resolve currency = .ok credentials)
    (hlength : lists.length = (processor.currencies task).length) :
    processor.finalResults .inTurn lists task =
      answeredWith (processor.currencies task) lists := by
  have hrequest : ∀ request ∈ processor.requests task, ∃ call, request.2 = .ok call := by
    intro request hrequest
    obtain ⟨currency, hcurrency, rfl⟩ := List.mem_map.mp hrequest
    obtain ⟨credentials, hcredentials⟩ := hroute currency hcurrency
    simp only [Processor.request, hcredentials]
    exact ⟨_, rfl⟩
  have hrequests : (processor.requests task).length = lists.length := by
    rw [hlength, requests, List.length_map]
  have hrouted : lists.length = (routed (processor.requests task)).length := by
    rw [length_routed hrequest, hrequests]
  rw [finalResults, callAll, ← currencies_requests]
  apply results_of_answers hrequests hrequest
  intro index
  exact Timeline.result?_ofCalls_inTurn hrouted (Option.some_get _).symm

/-- Results without failures are those of calls that were answered with lists of entries, the empty
list where there was a failure. -/
theorem exists_answeredWith (requests : List (String × Except Failure Call))
    (answer : Fin (routed requests).length → Except EngineFault (List Json)) :
    ∃ lists, lists.length = requests.length ∧
      recovered (results requests answer).1 = answeredWith (requests.map (·.1)) lists := by
  induction requests with
  | nil => exact ⟨[], rfl, rfl⟩
  | cons request rest ih =>
    obtain ⟨currency, failure | call⟩ := request
    · obtain ⟨lists, hlength, hrest⟩ := ih answer
      refine ⟨[] :: lists, congrArg Nat.succ hlength, ?_⟩
      simp only [results, recovered_cons, hrest]
      rfl
    · obtain ⟨lists, hlength, hrest⟩ := ih fun index => answer index.succ
      cases hanswer : answer ⟨0, Nat.succ_pos _⟩ with
      | ok entries =>
        refine ⟨entries :: lists, congrArg Nat.succ hlength, ?_⟩
        simp only [results, hanswer, recovered_cons, hrest]
        rfl
      | error fault =>
        refine ⟨[] :: lists, congrArg Nat.succ hlength, ?_⟩
        simp only [results, hanswer, recovered_cons, hrest]
        rfl

/-- There is a routing with the same currencies in which each of them has a route. -/
theorem exists_routing (processor : Processor) (task : Task) :
    ∃ routing, { processor with routing }.currencies task = processor.currencies task ∧
      ∀ currency ∈ processor.currencies task, ∃ credentials,
        routing.resolve currency = .ok credentials := by
  cases hcredentials : processor.routing.credentials with
  | cons entry rest =>
    -- any currency that has credentials may serve the others
    obtain ⟨fallback, credentials⟩ := entry
    have hfound : Dict.get? ((fallback, credentials) :: rest) fallback = some credentials := by
      rw [Dict.get?_cons, if_pos rfl]
    refine ⟨⟨(fallback, credentials) :: rest, some fallback⟩, ?_, fun currency _ =>
      Routing.exists_resolve_of_fallback rfl hfound currency⟩
    cases task <;> simp only [currencies, Routing.currencies, Routing.currenciesWith, hcredentials]
  | nil =>
    cases task with
    | customer id content =>
      refine ⟨processor.routing, rfl, fun currency hcurrency => ?_⟩
      rw [currencies, Routing.currencies, hcredentials] at hcurrency
      cases hcurrency
    | cart action cart =>
      refine ⟨.only (Text.upper cart.currency), ?_, fun other _ => Routing.exists_resolve_only _ other⟩
      cases action with
      | update => rfl
      | create =>
        simp only [currencies, Routing.currenciesWith_only]
        simp only [Routing.currenciesWith, hcredentials]
        rfl
    | order order =>
      exact ⟨.only (Text.upper order.currency), rfl, fun other _ =>
        Routing.exists_resolve_only _ other⟩

/-- There is a run in which every failed currency has no effects instead. -/
theorem exists_run_recovered (processor : Processor) (engine : Engine σ) (state : σ) (task : Task) :
    ∃ routing lists, { processor with routing }.finalResults Engine.inTurn lists task =
      recovered (processor.finalResults engine state task) := by
  obtain ⟨routing, hcurrencies, hroute⟩ := exists_routing processor task
  have hlists : ∃ lists, lists.length = (processor.currencies task).length ∧
      recovered (processor.finalResults engine state task) =
        answeredWith (processor.currencies task) lists := by
    rw [← currencies_requests, List.length_map]
    exact exists_answeredWith _ _
  rw [← hcurrencies] at hroute hlists
  obtain ⟨lists, hlength, hrecovered⟩ := hlists
  refine ⟨routing, lists, ?_⟩
  rw [hrecovered]
  exact finalResults_inTurn hroute hlength

-- ---------------------------------------------------------------------------
-- Isolation
-- ---------------------------------------------------------------------------

/-- The credentials of a processor that was configured from files and variables are in order. -/
theorem sorted_credentials_of_load {service : String} {around : Surroundings} {config : AppConfig}
    (hload : AppConfig.load service around = .ok config)
    (hprocessor : ofConfig config.promotion = .ok processor) :
    processor.routing.credentials.Sorted := by
  have hengine : ∃ engine : EngineConfig, config.promotion.engine = engine.normalized := by
    unfold AppConfig.load at hload
    simp only [bind, Except.bind] at hload
    split at hload
    · cases hload
    · split at hload
      · cases hload
      · rename_i read _
        split at hload
        · cases hload
        · cases hload
          exact ⟨read.promotion.engine, rfl⟩
  obtain ⟨engine, hengine⟩ := hengine
  unfold ofConfig at hprocessor
  cases hsettings : Settings.load config.promotion with
  | error failure =>
    rw [hsettings] at hprocessor
    cases hprocessor
  | ok loaded =>
    rw [hsettings] at hprocessor
    cases hprocessor
    refine List.pairwise_map.mpr ?_
    rw [hengine]
    exact Dict.sorted_ofList _

/-- Currencies are called in increasing order, each once. -/
theorem pairwise_currencies (hsorted : processor.routing.credentials.Sorted) (task : Task) :
    (processor.currencies task).Pairwise (· < ·) := by
  cases task with
  | cart action cart =>
    cases action with
    | create =>
      have hunits : (processor.routing.credentials.mapValues fun _ => ()).Sorted := hsorted.mapValues
      exact hunits.insert.keys
    | update => exact List.pairwise_singleton _ _
  | customer id content => exact hsorted.keys
  | order order => exact List.pairwise_singleton _ _

theorem pairwise_failed (h : (finals.map (·.1)).Pairwise (· < ·)) :
    (failed finals).Pairwise (·.1 < ·.1) := by
  refine List.Pairwise.filterMap _ ?_ (List.pairwise_map.mp h)
  rintro ⟨first, failure | effects⟩ ⟨second, other | others⟩ hlt entry hentry later hlater
  · cases hentry
    cases hlater
    exact hlt
  · cases hlater
  · cases hentry
  · cases hentry

/-- Where no call was refused for its credentials, no failure is fatal. -/
theorem isFatal_of_mem_failed
    (hauthorized : ∀ currency message, (currency, .error (.engine currency (.unauthorized message))) ∉
      processor.finalResults engine state task) :
    ∀ entry ∈ failed (processor.finalResults engine state task), entry.2.isFatal = false := by
  rintro ⟨currency, failure⟩ hentry
  have hresult := mem_failed.mp hentry
  rcases failure_of_mem_finalResults hresult with rfl | ⟨fault, rfl⟩
  · rfl
  · cases fault with
    | unauthorized message => exact absurd hresult (hauthorized currency message)
    | _ => rfl

/-- The code and the wording under which a currency is reported that brings nothing: it has no route,
or its call has failed. -/
inductive LossReported (currency : String) : String → String → Prop where
  | unrouted : LossReported currency "CurrencyRoutingError"
      ("Invalid currency code. 币种 " ++ Text.upper currency ++ " 未配置促销引擎凭证")
  | called (fault : EngineFault) : LossReported currency "PromotionEngineError"
      ("促销引擎调用失败 (" ++ currency ++ "): " ++ fault.message)

theorem lossReported_of_mem_failed {failure : Failure}
    (h : (currency, failure) ∈ failed (processor.finalResults engine state task)) :
    LossReported currency failure.code failure.message := by
  rcases failure_of_mem_finalResults (mem_failed.mp h) with rfl | ⟨fault, rfl⟩
  · exact .unrouted
  · exact .called fault

/-- Failures are isolated by currency. Where no call was refused for its credentials, the answer and
the actions on the customer are those of every run in which the failed currencies have no effects
instead, and there is such a run; the failures are reported with their codes and their wordings in
the order of their currencies, one for each currency that failed. -/
theorem handle_isolates_failures (processor : Processor)
    (hsorted : processor.routing.credentials.Sorted) (engine : Engine σ) (state : σ) {event : Json}
    (hevent : readEvent event = .ok task)
    (hauthorized : ∀ currency message, (currency, .error (.engine currency (.unauthorized message))) ∉
      processor.finalResults engine state task) :
    let finals := processor.finalResults engine state task
    let outcome := (processor.handle engine state event).outcome
    (∀ (other : Processor) {τ : Type} (quiet : Engine τ) (start : τ),
        other.settings = processor.settings →
        other.finalResults quiet start task = recovered finals →
        (other.handle quiet start event).outcome = { outcome with errors := [] }) ∧
      (∃ routing lists, { processor with routing }.finalResults Engine.inTurn lists task =
        recovered finals) ∧
      outcome.errors =
        (failed finals).map (fun (_, failure) => ⟨failure.code, failure.message⟩) ∧
      (∀ entry ∈ failed finals, LossReported entry.1 entry.2.code entry.2.message) ∧
      (failed finals).Pairwise (·.1 < ·.1) := by
  intro finals outcome
  have horder : (finals.map (·.1)).Pairwise (· < ·) := by
    rw [currencies_finalResults]
    exact pairwise_currencies hsorted task
  have hnodup : (finals.map (·.1)).Nodup := horder.imp String.ne_of_lt
  have hfatal := isFatal_of_mem_failed hauthorized
  have houtcome : outcome = (processor.conclude task finals).1 := outcome_handle hevent
  refine ⟨?_, exists_run_recovered processor engine state task, ?_,
    fun _ => lossReported_of_mem_failed, pairwise_failed horder⟩
  · intro other τ quiet start hsettings hquiet
    rw [outcome_handle hevent, hquiet, conclude_of_settings hsettings,
      conclude_recovered processor task hnodup hfatal, houtcome]
  · rw [houtcome, conclude_of_not_fatal processor task hfatal]
    rfl

/-- A new cart whose currency has no route, while the call for the other currency is rejected. -/
theorem handle_isolates_failures_of_all_currencies :
    let processor : Processor :=
      ⟨⟨⟨.variantSku, '_'⟩, .halfEven, "en", none, none, [], [], [], ⟨"line", "cart", "customer"⟩⟩,
        ⟨[("EUR", ⟨"EUR", "key", "https://engine.test"⟩)], none⟩, .never⟩
    let engine : Engine Unit := ⟨fun _ _ => (⟨5, .error (.rejected "busy")⟩, ())⟩
    let event : Json := .object
      [("action", .string "Create"), ("resource", .object
        [("id", .string "cart-1"), ("obj", .object
          [("id", .string "cart-1"), ("totalPrice", .object
            [("centAmount", .ofNat 0), ("currencyCode", .string "gbp")])]),
          ("typeId", .string "cart")])]
    let task : Task := .cart .create ⟨"cart-1", none, none, ⟨"gbp", 0⟩, [], [], none⟩
    let finals := processor.finalResults engine () task
    let outcome := (processor.handle engine () event).outcome
    (processor.routing.credentials.Sorted ∧ readEvent event = .ok task ∧
        ∀ currency message,
          (currency, .error (.engine currency (.unauthorized message))) ∉ finals) ∧
      (∀ (other : Processor) {τ : Type} (quiet : Engine τ) (start : τ),
        other.settings = processor.settings →
        other.finalResults quiet start task = recovered finals →
        (other.handle quiet start event).outcome = { outcome with errors := [] }) ∧
      (∃ routing lists, { processor with routing }.finalResults Engine.inTurn lists task =
        recovered finals) ∧
      outcome.errors =
        [⟨"PromotionEngineError", "促销引擎调用失败 (EUR): 请求被拒绝: busy"⟩,
          ⟨"CurrencyRoutingError", "Invalid currency code. 币种 GBP 未配置促销引擎凭证"⟩] := by
  intro processor engine event task finals outcome
  have hfinals : finals =
      [("EUR", .error (.engine "EUR" (.rejected "busy"))), ("GBP", .error (.unrouted "GBP"))] := by
    have hanswers : finals =
        (results (processor.requests task) fun _ => .error (.rejected "busy")).1 := by
      apply finalResults_eq_results
      intro index result hresult
      obtain ⟨asked, call, hanswer⟩ := Timeline.exists_answer_of_result? hresult
      exact hanswer
    rw [hanswers]
    rfl
  have hsorted : processor.routing.credentials.Sorted := List.pairwise_singleton _ _
  have hevent : readEvent event = .ok task := rfl
  have hauthorized : ∀ currency message,
      (currency, .error (.engine currency (.unauthorized message))) ∉ finals := by
    intro currency message
    rw [hfinals]
    simp
  obtain ⟨hsame, hrun, herrors, -⟩ :=
    handle_isolates_failures processor hsorted engine () hevent hauthorized
  refine ⟨⟨hsorted, hevent, hauthorized⟩, hsame, hrun, ?_⟩
  have hreports : (failed finals).map
        (fun (_, failure) => (⟨failure.code, failure.message⟩ : ErrorEntry)) =
      [⟨"PromotionEngineError", "促销引擎调用失败 (EUR): 请求被拒绝: busy"⟩,
        ⟨"CurrencyRoutingError", "Invalid currency code. 币种 GBP 未配置促销引擎凭证"⟩] := by
    rw [hfinals]
    decide +kernel
  exact herrors.trans hreports

end Processor

end Promotion
