import Promotion.Engine.Call
import Promotion.Retry

/-!
# Calls side by side

Calls for several currencies are made at the same time, each with its retries. What happens is a
matter of the clock alone: of all attempts that are due, the earliest is made next, and of those
that are due at the same time the one that comes first in the list of calls.
-/

namespace Promotion

/-- An attempt that is due. -/
structure Attempt where
  /-- The place of the call in the list of calls. -/
  index : Nat
  call : Call
  failures : Nat
  time : Nat

/-- An attempt that was made. -/
structure CallRecord where
  call : Call
  time : Nat

structure Timeline (σ : Type) where
  /-- The attempts in the order in which they were made. -/
  log : List CallRecord
  /-- The last outcome of each call, by its place. -/
  results : List (Nat × Except EngineFault (List Json))
  /-- When the last call was done. -/
  finished : Nat
  engine : σ

namespace Timeline

/-- Whether an attempt is made before another. -/
def precedes (a b : Attempt) : Bool :=
  a.time < b.time || (a.time == b.time && a.index < b.index)

/-- Attempts in the order in which they are due, with one more. -/
def enqueue (attempt : Attempt) : List Attempt → List Attempt
  | [] => [attempt]
  | next :: queue =>
    if precedes attempt next then attempt :: next :: queue else next :: enqueue attempt queue

/-- The attempts that a policy still allows, those in the queue included. -/
def remaining (policy : RetryPolicy) : List Attempt → Nat
  | [] => 0
  | attempt :: queue => policy.maxRetries - attempt.failures + 1 + remaining policy queue

theorem remaining_enqueue (policy : RetryPolicy) (attempt : Attempt) (queue : List Attempt) :
    remaining policy (enqueue attempt queue) =
      policy.maxRetries - attempt.failures + 1 + remaining policy queue := by
  induction queue with
  | nil => simp [enqueue, remaining]
  | cons next queue ih =>
    simp only [enqueue]
    split
    · simp [remaining]
    · simp only [remaining, ih]
      omega

/-- Make the attempts of a queue and those that follow from them. -/
def run {σ : Type} (engine : Engine σ) (policy : RetryPolicy) (state : σ) (queue : List Attempt) :
    Timeline σ :=
  match queue with
  | [] => ⟨[], [], 0, state⟩
  | attempt :: queue =>
    let (answer, state) := engine.answer state attempt.call
    let time := attempt.time + answer.delay
    let record : CallRecord := ⟨attempt.call, attempt.time⟩
    let passing : Bool :=
      match answer.result with
      | .ok _ => false
      | .error fault => fault.isRetryable
    if passing ∧ policy.allows attempt.failures then
      let again : Attempt :=
        { attempt with
          failures := attempt.failures + 1
          time := time + policy.delay attempt.failures }
      let later := run engine policy state (enqueue again queue)
      { later with log := record :: later.log }
    else
      let later := run engine policy state queue
      { later with
        log := record :: later.log
        results := (attempt.index, answer.result) :: later.results
        finished := max time later.finished }
termination_by remaining policy queue
decreasing_by
  · rename_i h
    have hlt : attempt.failures < policy.maxRetries := by
      simpa [RetryPolicy.allows] using h.2
    rw [remaining_enqueue]
    simp only [remaining]
    omega
  · simp only [remaining]
    omega

/-- The calls of a list, all of them started at once. -/
def ofCalls {σ : Type} (engine : Engine σ) (policy : RetryPolicy) (state : σ) (calls : List Call) :
    Timeline σ :=
  run engine policy state (calls.zipIdx.map fun (call, index) => ⟨index, call, 0, 0⟩)

/-- The last outcome of a call. -/
def result? {σ : Type} (timeline : Timeline σ) (index : Nat) :
    Option (Except EngineFault (List Json)) :=
  timeline.results.lookup index

theorem mem_enqueue {attempt other : Attempt} {queue : List Attempt} :
    other ∈ enqueue attempt queue ↔ other = attempt ∨ other ∈ queue := by
  induction queue with
  | nil => simp [enqueue]
  | cons next queue ih =>
    unfold enqueue
    split
    · exact List.mem_cons
    · simp only [List.mem_cons, ih]
      exact or_left_comm

/-- Every call that an attempt is due for has an outcome in the end. -/
theorem isSome_result?_run {σ : Type} (engine : Engine σ) (policy : RetryPolicy) (state : σ)
    {queue : List Attempt} {attempt : Attempt} (h : attempt ∈ queue) :
    ((run engine policy state queue).result? attempt.index).isSome := by
  fun_induction run engine policy state queue generalizing attempt with
  | case1 => cases h
  | case2 =>
    rename_i again _ ih
    -- the next attempt at the same call stands for the first one
    rcases List.mem_cons.mp h with rfl | hqueue
    · exact @ih again (mem_enqueue.mpr (.inl rfl))
    · exact ih (mem_enqueue.mpr (.inr hqueue))
  | case3 =>
    rename_i ih
    rw [result?, List.lookup_cons]
    split
    · rfl
    · rename_i hindex
      rcases List.mem_cons.mp h with rfl | hqueue
      · exact absurd (beq_self_eq_true _) (Bool.not_eq_true _ ▸ hindex)
      · exact ih hqueue

theorem isSome_result?_ofCalls {σ : Type} (engine : Engine σ) (policy : RetryPolicy) (state : σ)
    {calls : List Call} {index : Nat} (h : index < calls.length) :
    ((ofCalls engine policy state calls).result? index).isSome := by
  have hplace : (calls[index], index) ∈ calls.zipIdx :=
    List.mem_zipIdx_iff_getElem?.mpr (List.getElem?_eq_getElem h)
  exact isSome_result?_run engine policy state (List.mem_map_of_mem hplace)

end Timeline

end Promotion
