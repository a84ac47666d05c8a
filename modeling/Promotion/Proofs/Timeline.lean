import Mathlib.Data.List.Perm.Basic
import Promotion.Engine.Timeline

/-!
# Calls side by side: steps and runs

One step of a timeline makes the first attempt of the queue: either another attempt follows and goes
back into the queue (`Timeline.again?`), or the call is done. Whatever the engine answers and however
the attempts of different calls come to stand between one another, every call is done once.
-/

namespace Promotion

/-- The engine that answers calls with prepared lists of effects, one after another and at once. -/
def Engine.inTurn : Engine (List (List Json)) where
  answer lists _ := (⟨0, .ok (lists.headD [])⟩, lists.tail)

namespace Timeline

variable {σ : Type} {engine : Engine σ} {policy : RetryPolicy}

-- ---------------------------------------------------------------------------
-- Steps
-- ---------------------------------------------------------------------------

/-- The attempt that follows one that ended in an answer, if the call is not done. -/
def again? (policy : RetryPolicy) (attempt : Attempt) (answer : Answer) : Option Attempt :=
  match answer.result with
  | .ok _ => none
  | .error fault =>
    if fault.isRetryable ∧ policy.allows attempt.failures then
      some
        { attempt with
          failures := attempt.failures + 1
          time := attempt.time + answer.delay + policy.delay attempt.failures }
    else none

theorem index_of_again? {attempt again : Attempt} {answer : Answer}
    (h : again? policy attempt answer = some again) : again.index = attempt.index := by
  unfold again? at h
  split at h
  · cases h
  · split at h
    · cases h
      rfl
    · cases h

theorem run_cons_again {state : σ} {attempt again : Attempt} (queue : List Attempt)
    (h : again? policy attempt (engine.answer state attempt.call).1 = some again) :
    run engine policy state (attempt :: queue) =
      let later := run engine policy (engine.answer state attempt.call).2 (enqueue again queue)
      { later with log := ⟨attempt.call, attempt.time⟩ :: later.log } := by
  rw [run]
  unfold again? at h
  split at h
  · cases h
  · rename_i fault hfault
    split at h
    · rename_i hpassing
      cases h
      simp only [hfault, if_pos hpassing]
    · cases h

theorem run_cons_done {state : σ} {attempt : Attempt} (queue : List Attempt)
    (h : again? policy attempt (engine.answer state attempt.call).1 = none) :
    run engine policy state (attempt :: queue) =
      let answer := (engine.answer state attempt.call).1
      let later := run engine policy (engine.answer state attempt.call).2 queue
      { later with
        log := ⟨attempt.call, attempt.time⟩ :: later.log
        results := (attempt.index, answer.result) :: later.results
        finished := max (attempt.time + answer.delay) later.finished } := by
  rw [run]
  unfold again? at h
  split at h
  · rename_i hvalue
    simp [hvalue]
  · rename_i fault hfault
    split at h
    · cases h
    · rename_i hlast
      simp only [hfault, if_neg hlast]

theorem remaining_again {attempt again : Attempt} {answer : Answer} (queue : List Attempt)
    (h : again? policy attempt answer = some again) :
    remaining policy (enqueue again queue) < remaining policy (attempt :: queue) := by
  unfold again? at h
  split at h
  · cases h
  · split at h
    · rename_i hpassing
      cases h
      have hlt : attempt.failures < policy.maxRetries := by
        simpa [RetryPolicy.allows] using hpassing.2
      rw [remaining_enqueue]
      simp only [remaining]
      omega
    · cases h

/-- What holds of an empty queue, and of a queue whenever it holds after the step that its first
attempt makes, holds of every queue. -/
theorem run_induction (engine : Engine σ) (policy : RetryPolicy)
    {motive : σ → List Attempt → Prop} (nil : ∀ state, motive state [])
    (again : ∀ state attempt queue next,
      again? policy attempt (engine.answer state attempt.call).1 = some next →
      motive (engine.answer state attempt.call).2 (enqueue next queue) →
      motive state (attempt :: queue))
    (done : ∀ state attempt queue,
      again? policy attempt (engine.answer state attempt.call).1 = none →
      motive (engine.answer state attempt.call).2 queue →
      motive state (attempt :: queue))
    (state : σ) (queue : List Attempt) : motive state queue := by
  -- every step uses up one of the attempts that the policy still allows
  induction hn : remaining policy queue using Nat.strongRecOn generalizing state queue with
  | ind n ih =>
    cases queue with
    | nil => exact nil state
    | cons attempt queue =>
      cases hagain : again? policy attempt (engine.answer state attempt.call).1 with
      | some next =>
        exact again state attempt queue next hagain
          (ih _ (hn ▸ remaining_again queue hagain) _ _ rfl)
      | none =>
        have hfewer : remaining policy queue < remaining policy (attempt :: queue) := by
          rw [remaining]
          omega
        exact done state attempt queue hagain (ih _ (hn ▸ hfewer) _ _ rfl)

-- ---------------------------------------------------------------------------
-- Runs
-- ---------------------------------------------------------------------------

theorem enqueue_perm (attempt : Attempt) (queue : List Attempt) :
    (enqueue attempt queue).Perm (attempt :: queue) := by
  induction queue with
  | nil => exact .refl _
  | cons next queue ih =>
    unfold enqueue
    split
    · exact .refl _
    · exact (ih.cons next).trans (.swap attempt next queue)

/-- Every call of a queue is done once. -/
theorem results_run_perm (engine : Engine σ) (policy : RetryPolicy) (state : σ)
    (queue : List Attempt) :
    ((run engine policy state queue).results.map (·.1)).Perm (queue.map (·.index)) := by
  induction state, queue using run_induction engine policy with
  | nil state =>
    rw [run]
    exact .refl _
  | again state attempt queue next hagain ih =>
    rw [run_cons_again queue hagain]
    refine ih.trans (((enqueue_perm next queue).map _).trans ?_)
    rw [List.map_cons, index_of_again? hagain]
    exact .refl _
  | done state attempt queue hdone ih =>
    rw [run_cons_done queue hdone]
    exact ih.cons _

/-- The last outcome of a call is what the engine has answered to an attempt. -/
theorem exists_answer_of_mem_results {state : σ} {queue : List Attempt} {index : Nat}
    {result : Except EngineFault (List Json)}
    (h : (index, result) ∈ (run engine policy state queue).results) :
    ∃ asked call, (engine.answer asked call).1.result = result := by
  induction state, queue using run_induction engine policy with
  | nil state =>
    rw [run] at h
    cases h
  | again state attempt queue next hagain ih =>
    rw [run_cons_again queue hagain] at h
    exact ih h
  | done state attempt queue hdone ih =>
    rw [run_cons_done queue hdone] at h
    rcases List.mem_cons.mp h with heq | hlater
    · cases heq
      exact ⟨state, attempt.call, rfl⟩
    · exact ih hlater

theorem mem_results_of_result? {timeline : Timeline σ} {index : Nat}
    {result : Except EngineFault (List Json)} (h : timeline.result? index = some result) :
    (index, result) ∈ timeline.results := by
  obtain ⟨before, after, hsplit, -⟩ := List.lookup_eq_some_iff.mp h
  rw [hsplit]
  exact List.mem_append_right _ List.mem_cons_self

theorem exists_answer_of_result? {state : σ} {calls : List Call} {index : Nat}
    {result : Except EngineFault (List Json)}
    (h : (ofCalls engine policy state calls).result? index = some result) :
    ∃ asked call, (engine.answer asked call).1.result = result :=
  exists_answer_of_mem_results (mem_results_of_result? h)

-- ---------------------------------------------------------------------------
-- Answers in turn
-- ---------------------------------------------------------------------------

theorem results_run_inTurn (policy : RetryPolicy) {lists : List (List Json)} {calls : List Call}
    (h : lists.length = calls.length) (first : Nat) :
    (run .inTurn policy lists
        ((calls.zipIdx first).map fun (call, index) => ⟨index, call, 0, 0⟩)).results =
      (lists.zipIdx first).map fun (entries, index) => (index, .ok entries) := by
  induction calls generalizing lists first with
  | nil =>
    rw [List.length_eq_zero_iff.mp h]
    simp only [List.zipIdx_nil, List.map_nil]
    rw [run]
  | cons call calls ih =>
    cases lists with
    | nil => cases h
    | cons entries lists =>
      rw [List.zipIdx_cons, List.map_cons, run_cons_done _ rfl]
      exact congrArg ((first, .ok entries) :: ·) (ih (Nat.succ.inj h) (first + 1))

/-- Of calls that are answered in turn each gets the list in its place. -/
theorem result?_ofCalls_inTurn {lists : List (List Json)} {calls : List Call}
    (h : lists.length = calls.length) {index : Nat} {result : Except EngineFault (List Json)}
    (hresult : (ofCalls .inTurn policy lists calls).result? index = some result) :
    ∃ entries, lists[index]? = some entries ∧ result = .ok entries := by
  rw [result?, ofCalls, results_run_inTurn policy h, List.lookup_eq_some_iff] at hresult
  obtain ⟨before, after, hsplit, -⟩ := hresult
  have hmem : (index, result) ∈ before ++ (index, result) :: after :=
    List.mem_append_right _ List.mem_cons_self
  rw [← hsplit] at hmem
  obtain ⟨⟨entries, place⟩, hentry, heq⟩ := List.mem_map.mp hmem
  cases heq
  exact ⟨entries, List.mem_zipIdx_iff_getElem?.mp hentry, rfl⟩

end Timeline

end Promotion
