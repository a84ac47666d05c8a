import Promotion.Proofs.Isolation

/-!
# Attempts and their answers

A timeline makes one attempt after another, and the engine answers each. `Timeline.exchanges` keeps
both, where the timeline keeps the attempts in its log and the last outcomes as its results: the
last outcome of a call is the answer to the last attempt at it. For a task the attempts are told
apart by currency (`Processor.exchanges`), and the answer to a currency's last attempt decides the
currency's result (`Processor.finalResults_eq_map`).
-/

namespace Promotion

namespace Timeline

variable {σ : Type} {engine : Engine σ} {policy : RetryPolicy} {state : σ}

-- ---------------------------------------------------------------------------
-- Exchanges
-- ---------------------------------------------------------------------------

/-- The attempts that are made from a queue on, each with its answer. -/
def exchanges (engine : Engine σ) (policy : RetryPolicy) (state : σ) (queue : List Attempt) :
    List (Attempt × Answer) :=
  match queue with
  | [] => []
  | attempt :: queue =>
    let answered := engine.answer state attempt.call
    match _hagain : again? policy attempt answered.1 with
    | some next => (attempt, answered.1) :: exchanges engine policy answered.2 (enqueue next queue)
    | none => (attempt, answered.1) :: exchanges engine policy answered.2 queue
termination_by remaining policy queue
decreasing_by
  · exact remaining_again _ _hagain
  · rw [remaining]
    omega

theorem exchanges_nil : exchanges engine policy state [] = [] := by
  rw [exchanges]

theorem exchanges_cons_again {attempt again : Attempt} (queue : List Attempt)
    (h : again? policy attempt (engine.answer state attempt.call).1 = some again) :
    exchanges engine policy state (attempt :: queue) =
      (attempt, (engine.answer state attempt.call).1) ::
        exchanges engine policy (engine.answer state attempt.call).2 (enqueue again queue) := by
  rw [exchanges]
  split
  · rename_i next hnext
    cases h.symm.trans hnext
    rfl
  · rename_i hnone
    cases h.symm.trans hnone

theorem exchanges_cons_done {attempt : Attempt} (queue : List Attempt)
    (h : again? policy attempt (engine.answer state attempt.call).1 = none) :
    exchanges engine policy state (attempt :: queue) =
      (attempt, (engine.answer state attempt.call).1) ::
        exchanges engine policy (engine.answer state attempt.call).2 queue := by
  rw [exchanges]
  split
  · rename_i next hnext
    cases h.symm.trans hnext
  · rfl

/-- The attempts are those that the timeline logs. -/
theorem log_run (engine : Engine σ) (policy : RetryPolicy) (state : σ) (queue : List Attempt) :
    (run engine policy state queue).log =
      (exchanges engine policy state queue).map fun (attempt, _) => ⟨attempt.call, attempt.time⟩ := by
  induction state, queue using run_induction engine policy with
  | nil state =>
    rw [run, exchanges_nil]
    rfl
  | again state attempt queue next hagain ih =>
    rw [run_cons_again queue hagain, exchanges_cons_again queue hagain]
    exact congrArg (_ :: ·) ih
  | done state attempt queue hdone ih =>
    rw [run_cons_done queue hdone, exchanges_cons_done queue hdone]
    exact congrArg (_ :: ·) ih

/-- An answer is what the engine has answered to the attempt's call. -/
theorem exists_answer_of_mem_exchanges {queue : List Attempt} {exchange : Attempt × Answer}
    (h : exchange ∈ exchanges engine policy state queue) :
    ∃ asked, exchange.2 = (engine.answer asked exchange.1.call).1 := by
  induction state, queue using run_induction engine policy with
  | nil state =>
    rw [exchanges_nil] at h
    cases h
  | again state attempt queue next hagain ih =>
    rw [exchanges_cons_again queue hagain] at h
    rcases List.mem_cons.mp h with rfl | hlater
    · exact ⟨state, rfl⟩
    · exact ih hlater
  | done state attempt queue hdone ih =>
    rw [exchanges_cons_done queue hdone] at h
    rcases List.mem_cons.mp h with rfl | hlater
    · exact ⟨state, rfl⟩
    · exact ih hlater

-- ---------------------------------------------------------------------------
-- The last attempt at a call
-- ---------------------------------------------------------------------------

/-- The answer to the last attempt at the call in a place. -/
def lastAnswer? (exchanges : List (Attempt × Answer)) (index : Nat) :
    Option (Except EngineFault (List Json)) :=
  (exchanges.filter (·.1.index = index)).getLast?.map (·.2.result)

theorem lastAnswer?_cons (attempt : Attempt) (answer : Answer)
    (exchanges : List (Attempt × Answer)) (index : Nat) :
    lastAnswer? ((attempt, answer) :: exchanges) index =
      if attempt.index = index then (lastAnswer? exchanges index).or (some answer.result)
      else lastAnswer? exchanges index := by
  unfold lastAnswer?
  by_cases h : attempt.index = index
  · rw [List.filter_cons_of_pos (by simpa using h), if_pos h, List.getLast?_cons]
    cases (exchanges.filter (·.1.index = index)).getLast? <;> rfl
  · rw [List.filter_cons_of_neg (by simpa using h), if_neg h]

theorem isSome_lookup_results_run (engine : Engine σ) (policy : RetryPolicy) (state : σ)
    (queue : List Attempt) (index : Nat) :
    ((run engine policy state queue).results.lookup index).isSome ↔
      index ∈ queue.map (·.index) := by
  rw [← (results_run_perm engine policy state queue).mem_iff, List.lookup_isSome_iff, List.mem_map]
  refine exists_congr fun result => and_congr_right fun _ => ?_
  exact beq_iff_eq.trans eq_comm

theorem mem_index_enqueue {attempt again : Attempt} (hindex : again.index = attempt.index)
    (queue : List Attempt) (index : Nat) :
    index ∈ (enqueue again queue).map (·.index) ↔ index ∈ (attempt :: queue).map (·.index) := by
  rw [((enqueue_perm again queue).map _).mem_iff, List.map_cons, List.map_cons, hindex]

theorem nodup_index_enqueue {attempt again : Attempt} {queue : List Attempt}
    (hindex : again.index = attempt.index)
    (h : ((attempt :: queue).map (·.index)).Nodup) :
    ((enqueue again queue).map (·.index)).Nodup := by
  refine (((enqueue_perm again queue).map _).nodup_iff).mpr ?_
  rw [List.map_cons, hindex]
  exact h

/-- The last outcome of a call is the answer to the last attempt at it. -/
theorem lookup_results_run {queue : List Attempt} (h : (queue.map (·.index)).Nodup) (index : Nat) :
    (run engine policy state queue).results.lookup index =
      lastAnswer? (exchanges engine policy state queue) index := by
  induction state, queue using run_induction engine policy with
  | nil state =>
    rw [run, exchanges_nil]
    rfl
  | again state attempt queue next hagain ih =>
    have hsame := index_of_again? hagain
    have hlater := ih (nodup_index_enqueue hsame h)
    rw [run_cons_again queue hagain, exchanges_cons_again queue hagain, lastAnswer?_cons, ← hlater]
    split
    · -- the attempt that follows is answered later
      rename_i hindex
      have hplace : index ∈ (attempt :: queue).map (·.index) := by simp [hindex]
      have hfound := (isSome_lookup_results_run engine policy
        (engine.answer state attempt.call).2 (enqueue next queue) index).mpr
        ((mem_index_enqueue hsame queue index).mpr hplace)
      rw [Option.or_of_isSome hfound]
    · rfl
  | done state attempt queue hdone ih =>
    obtain ⟨hfresh, hrest⟩ := List.nodup_cons.mp h
    rw [run_cons_done queue hdone, exchanges_cons_done queue hdone, lastAnswer?_cons, ← ih hrest,
      List.lookup_cons]
    by_cases hindex : attempt.index = index
    · -- no attempt at the call is left in the queue
      have hnone : (run engine policy (engine.answer state attempt.call).2 queue).results.lookup
          index = none := by
        rw [← Option.not_isSome_iff_eq_none, isSome_lookup_results_run, ← hindex]
        exact hfresh
      rw [if_pos hindex, hnone, hindex]
      simp
    · rw [if_neg hindex, beq_false_of_ne (Ne.symm hindex)]

def firstAttempts (calls : List Call) : List Attempt :=
  calls.zipIdx.map fun (call, index) => ⟨index, call, 0, 0⟩

theorem index_firstAttempts (calls : List Call) :
    (firstAttempts calls).map (·.index) = List.range calls.length := by
  rw [firstAttempts, List.map_map, List.range_eq_range', ← List.zipIdx_map_snd 0 calls]
  rfl

theorem result?_ofCalls (engine : Engine σ) (policy : RetryPolicy) (state : σ) (calls : List Call)
    (index : Nat) :
    (ofCalls engine policy state calls).result? index =
      lastAnswer? (exchanges engine policy state (firstAttempts calls)) index := by
  have hnodup : ((firstAttempts calls).map (·.index)).Nodup := by
    rw [index_firstAttempts]
    exact List.nodup_range
  exact lookup_results_run hnodup index

end Timeline

/-- One attempt at the call for a currency. -/
structure Exchange where
  currency : String
  call : Call
  /-- How many attempts at the call have failed before. -/
  failures : Nat
  /-- What the engine has answered. -/
  result : Except EngineFault (List Json)

/-- An attempt with the currency of its call. -/
def Exchange.of? (calls : List (String × Call)) (made : Attempt × Answer) : Option Exchange :=
  calls[made.1.index]?.map fun (currency, _) =>
    ⟨currency, made.1.call, made.1.failures, made.2.result⟩

namespace Processor

variable {σ : Type} {processor : Processor} {engine : Engine σ} {state : σ} {task : Task}
  {requests : List (String × Except Failure Call)}
  {answer : Fin (routed requests).length → Except EngineFault (List Json)}

-- ---------------------------------------------------------------------------
-- Currencies of calls
-- ---------------------------------------------------------------------------

/-- The calls that can be made, in order, each with the currency that it is made for. -/
def calls (requests : List (String × Except Failure Call)) : List (String × Call) :=
  requests.filterMap fun (currency, request) => request.toOption.map (currency, ·)

theorem map_snd_calls (requests : List (String × Except Failure Call)) :
    (calls requests).map (·.2) = routed requests := by
  rw [calls, List.map_filterMap, routed]
  refine List.filterMap_congr ?_
  rintro ⟨currency, request⟩ -
  cases request <;> rfl

theorem map_fst_calls_sublist (requests : List (String × Except Failure Call)) :
    ((calls requests).map (·.1)).Sublist (requests.map (·.1)) := by
  induction requests with
  | nil => exact .slnil
  | cons request rest ih =>
    obtain ⟨currency, failure | call⟩ := request
    · exact ih.cons currency
    · exact ih.cons_cons currency

/-- The result of a currency whose call is answered in the end. -/
def resultOf (currency : String) (request : Except Failure Call)
    (answer : Call → Except EngineFault (List Json)) : Except Failure (List Effect) :=
  request.bind fun call => (effectsOf currency (answer call)).1

/-- Results depend on the answer to each call, and not on the place of the call. -/
theorem results_eq_map (final : String → Call → Except EngineFault (List Json))
    (h : ∀ (index : Fin _) currency call,
      (calls requests)[index.val]? = some (currency, call) → answer index = final currency call) :
    (results requests answer).1 = requests.map fun (currency, request) =>
      (currency, resultOf currency request (final currency)) := by
  induction requests with
  | nil => rfl
  | cons request rest ih =>
    obtain ⟨currency, failure | call⟩ := request
    · exact congrArg (_ :: ·) (ih h)
    · have hfirst := h ⟨0, Nat.succ_pos _⟩ currency call rfl
      rw [results, hfirst, List.map_cons]
      exact congrArg (_ :: ·) (ih fun index other later => h index.succ other later)

-- ---------------------------------------------------------------------------
-- The attempts of a task
-- ---------------------------------------------------------------------------

/-- The attempts that are made for a task, in order. -/
def exchanges (processor : Processor) (engine : Engine σ) (state : σ) (task : Task) :
    List Exchange :=
  let calls := calls (processor.requests task)
  (Timeline.exchanges engine processor.retry state
    (Timeline.firstAttempts (calls.map (·.2)))).filterMap (Exchange.of? calls)

/-- The answer to the last attempt at the call for a currency, if there is one. -/
def finalAnswer? (processor : Processor) (engine : Engine σ) (state : σ) (task : Task)
    (currency : String) : Option (Except EngineFault (List Json)) :=
  ((processor.exchanges engine state task).filter (·.currency = currency)).getLast?.map (·.result)

theorem mem_calls {currency : String} {call : Call} :
    (currency, call) ∈ calls (processor.requests task) ↔
      currency ∈ processor.currencies task ∧ processor.request task currency = .ok call := by
  rw [calls, requests, List.filterMap_map, List.mem_filterMap]
  constructor
  · rintro ⟨other, hother, hsome⟩
    obtain ⟨found, hfound, heq⟩ := Option.map_eq_some_iff.mp hsome
    cases heq
    refine ⟨hother, ?_⟩
    cases hrequest : processor.request task currency with
    | error failure =>
      simp only [hrequest] at hfound
      cases hfound
    | ok call =>
      simp only [hrequest] at hfound
      cases hfound
      rfl
  · rintro ⟨hcurrency, hrequest⟩
    refine ⟨currency, hcurrency, ?_⟩
    simp only [Function.comp_apply, hrequest]
    rfl

theorem mem_calls_of_finalAnswer? {currency : String} {result : Except EngineFault (List Json)}
    (h : processor.finalAnswer? engine state task currency = some result) :
    ∃ call, (currency, call) ∈ calls (processor.requests task) := by
  obtain ⟨exchange, hlast, -⟩ := Option.map_eq_some_iff.mp h
  obtain ⟨hexchange, hcurrency⟩ := List.mem_filter.mp (List.mem_of_getLast? hlast)
  obtain ⟨made, -, hmade⟩ := List.mem_filterMap.mp hexchange
  obtain ⟨⟨other, call⟩, hcall, rfl⟩ := Option.map_eq_some_iff.mp hmade
  refine ⟨call, ?_⟩
  rw [← of_decide_eq_true hcurrency]
  exact List.mem_of_getElem? hcall

/-- Where each currency has one call only, the attempts at it are those in one place. -/
theorem filter_currency_filterMap {calls : List (String × Call)}
    (hnodup : (calls.map (·.1)).Nodup) {index : Nat} {currency : String} {call : Call}
    (hcall : calls[index]? = some (currency, call)) (made : List (Attempt × Answer)) :
    ((made.filterMap (Exchange.of? calls)).filter (·.currency = currency)) =
      (made.filter (·.1.index = index)).map fun (attempt, answer) =>
        ⟨currency, attempt.call, attempt.failures, answer.result⟩ := by
  induction made with
  | nil => rfl
  | cons first made ih =>
    by_cases hindex : first.1.index = index
    · have hfirst : Exchange.of? calls first =
          some ⟨currency, first.1.call, first.1.failures, first.2.result⟩ := by
        rw [Exchange.of?, hindex, hcall]
        rfl
      rw [List.filterMap_cons_some hfirst, List.filter_cons_of_pos (by simp),
        List.filter_cons_of_pos (by simpa using hindex), ih]
      rfl
    · rw [List.filter_cons_of_neg (by simpa using hindex), ← ih, List.filterMap_cons]
      cases hfirst : Exchange.of? calls first with
      | none => rfl
      | some exchange =>
        obtain ⟨⟨other, found⟩, hfound, rfl⟩ := Option.map_eq_some_iff.mp hfirst
        have hother : other ≠ currency := by
          rintro rfl
          have hplace : (calls.map (·.1))[first.1.index]? = (calls.map (·.1))[index]? := by
            rw [List.getElem?_map, List.getElem?_map, hfound, hcall]
            rfl
          obtain ⟨hlt, -⟩ := List.getElem?_eq_some_iff.mp hfound
          exact hindex ((List.getElem?_inj (by rwa [List.length_map]) hnodup).mp hplace)
        exact List.filter_cons_of_neg (by simpa using hother)

theorem nodup_calls (h : (processor.currencies task).Nodup) :
    ((calls (processor.requests task)).map (·.1)).Nodup := by
  refine (map_fst_calls_sublist _).nodup ?_
  rw [currencies_requests]
  exact h

theorem finalAnswer?_eq_lastAnswer? (hnodup : (processor.currencies task).Nodup) {index : Nat}
    {currency : String} {call : Call}
    (hcall : (calls (processor.requests task))[index]? = some (currency, call)) :
    processor.finalAnswer? engine state task currency =
      (Timeline.ofCalls engine processor.retry state (routed (processor.requests task))).result?
        index := by
  rw [Timeline.result?_ofCalls, ← map_snd_calls, finalAnswer?, exchanges,
    filter_currency_filterMap (nodup_calls hnodup) hcall, List.getLast?_map, Option.map_map,
    Timeline.lastAnswer?]
  rfl

/-- An answer is what the engine has answered to the call. -/
theorem exists_answer_of_mem_exchanges {exchange : Exchange}
    (h : exchange ∈ processor.exchanges engine state task) :
    ∃ asked, exchange.result = (engine.answer asked exchange.call).1.result := by
  obtain ⟨made, hmade, hexchange⟩ := List.mem_filterMap.mp h
  obtain ⟨⟨currency, call⟩, -, rfl⟩ := Option.map_eq_some_iff.mp hexchange
  obtain ⟨asked, hasked⟩ := Timeline.exists_answer_of_mem_exchanges hmade
  exact ⟨asked, congrArg Answer.result hasked⟩

-- ---------------------------------------------------------------------------
-- The result of a currency
-- ---------------------------------------------------------------------------

/-- The result of a currency when all attempts are made. -/
def finalResult (processor : Processor) (engine : Engine σ) (state : σ) (task : Task)
    (currency : String) : Except Failure (List Effect) :=
  resultOf currency (processor.request task currency) fun _ =>
    (processor.finalAnswer? engine state task currency).getD (.ok [])

/-- The answer to the last attempt at a currency's call decides the currency's result. -/
theorem finalResults_eq_map (hnodup : (processor.currencies task).Nodup) :
    processor.finalResults engine state task =
      (processor.currencies task).map fun currency =>
        (currency, processor.finalResult engine state task currency) := by
  unfold finalResults callAll
  refine (results_eq_map (fun currency _ =>
    (processor.finalAnswer? engine state task currency).getD (.ok [])) ?_).trans ?_
  · intro index currency call hcall
    rw [finalAnswer?_eq_lastAnswer? hnodup hcall, ← Option.get_eq_getD]
  · rw [requests, List.map_map]
    rfl

theorem failure_of_resultOf {currency : String} {failure : Failure}
    {answer : Call → Except EngineFault (List Json)}
    (h : resultOf currency (processor.request task currency) answer = .error failure) :
    failure = .unrouted (Text.upper currency) ∨ ∃ fault, failure = .engine currency fault := by
  cases hrequest : processor.request task currency with
  | error unrouted =>
    rw [hrequest] at h
    cases h
    exact .inl (eq_unrouted_of_request hrequest)
  | ok call =>
    simp only [hrequest, resultOf, Except.bind] at h
    cases hanswer : answer call with
    | ok entries =>
      rw [hanswer] at h
      cases h
    | error fault =>
      rw [hanswer] at h
      cases h
      exact .inr ⟨fault, rfl⟩

/-- A currency's result is a fault of the engine if its last attempt ends in the fault. -/
theorem finalResult_eq_engine_iff {currency : String} {fault : EngineFault} :
    processor.finalResult engine state task currency = .error (.engine currency fault) ↔
      processor.finalAnswer? engine state task currency = some (.error fault) := by
  unfold finalResult
  constructor
  · intro h
    cases hrequest : processor.request task currency with
    | error failure =>
      rw [hrequest] at h
      cases h
      cases eq_unrouted_of_request hrequest
    | ok call =>
      rw [hrequest] at h
      cases hanswer : processor.finalAnswer? engine state task currency with
      | none =>
        rw [hanswer] at h
        cases h
      | some result =>
        rw [hanswer] at h
        cases result with
        | ok entries => cases h
        | error other =>
          cases h
          rfl
  · intro h
    obtain ⟨call, hcall⟩ := mem_calls_of_finalAnswer? h
    rw [(mem_calls.mp hcall).2, h]
    rfl

end Processor

end Promotion
