import Promotion.Proofs.Timeline

/-!
# The loop that tries again

A call is made until it succeeds, until it fails for good, or until no retry is left; before every
retry there is a wait. The call that ends this can be told from the outcomes in advance
(`RetryPolicy.lastCall`), and with it everything that happens: the calls up to that one, a wait
between each and the next, and the outcome of the last.

The loop counts failures and looks at the policy before each wait, whereas `RetryPolicy.run` counts
the retries that are left. Here the loop takes its steps one by one and writes down what it does
(`RetryLoop.Runs`), and the two agree. So does a timeline of a single call
(`Timeline.ofCalls_singleton`).
-/

namespace Promotion

namespace RetryPolicy

variable {ε α : Type} {policy : RetryPolicy} {passing : ε → Bool} {outcome : Nat → Except ε α}

-- ---------------------------------------------------------------------------
-- The last call
-- ---------------------------------------------------------------------------

/-- A success, or a failure that is not in passing: no call follows it, however many are left. -/
def isFinal (passing : ε → Bool) : Except ε α → Bool
  | .ok _ => true
  | .error fault => !passing fault

/-- The first of the calls that the policy allows whose outcome is final; the last of them all if
there is none. -/
def lastCall (policy : RetryPolicy) (passing : ε → Bool) (outcome : Nat → Except ε α) : Nat :=
  ((List.range (policy.maxRetries + 1)).find? fun call => isFinal passing (outcome call)).getD
    policy.maxRetries

theorem lastCall_spec (policy : RetryPolicy) (passing : ε → Bool) (outcome : Nat → Except ε α) :
    policy.lastCall passing outcome ≤ policy.maxRetries ∧
      (∀ call < policy.lastCall passing outcome, isFinal passing (outcome call) = false) ∧
      (isFinal passing (outcome (policy.lastCall passing outcome)) = true ∨
        policy.lastCall passing outcome = policy.maxRetries) := by
  unfold lastCall
  cases hfind : (List.range (policy.maxRetries + 1)).find? fun call =>
      isFinal passing (outcome call) with
  | none =>
    rw [List.find?_range_eq_none] at hfind
    exact ⟨Nat.le_refl _,
      fun call hlt => by simpa using hfind call (Nat.lt_succ_of_lt hlt), .inr rfl⟩
  | some last =>
    obtain ⟨hfinal, hmem, hbefore⟩ := List.find?_range_eq_some.mp hfind
    exact ⟨Nat.lt_succ_iff.mp (List.mem_range.mp hmem),
      fun call hlt => by simpa using hbefore call hlt, .inl hfinal⟩

theorem lastCall_le (policy : RetryPolicy) (passing : ε → Bool) (outcome : Nat → Except ε α) :
    policy.lastCall passing outcome ≤ policy.maxRetries :=
  (lastCall_spec policy passing outcome).1

/-- Before the last call every outcome is a failure in passing, and a retry is left. -/
theorem error_of_lt_lastCall {call : Nat} (h : call < policy.lastCall passing outcome) :
    ∃ fault, outcome call = .error fault ∧ passing fault = true ∧ policy.allows call = true := by
  have hallows : policy.allows call = true := by
    rw [allows, decide_eq_true_eq]
    exact Nat.lt_of_lt_of_le h (lastCall_le policy passing outcome)
  have hnot := (lastCall_spec policy passing outcome).2.1 call h
  cases houtcome : outcome call with
  | ok value =>
    rw [houtcome] at hnot
    cases hnot
  | error fault =>
    rw [houtcome, isFinal, Bool.not_eq_false'] at hnot
    exact ⟨fault, rfl, hnot, hallows⟩

/-- After a failure in the last call, either it is not in passing or no retry is left. -/
theorem not_again_at_lastCall {fault : ε}
    (h : outcome (policy.lastCall passing outcome) = .error fault) :
    passing fault = false ∨ policy.allows (policy.lastCall passing outcome) = false := by
  rcases (lastCall_spec policy passing outcome).2.2 with hfinal | hlast
  · rw [h, isFinal, Bool.not_eq_true'] at hfinal
    exact .inl hfinal
  · rw [allows, decide_eq_false_iff_not]
    exact .inr (by omega)

-- ---------------------------------------------------------------------------
-- Runs
-- ---------------------------------------------------------------------------

/-- From any call up to the last one on, what is left are the waits before the calls in between. -/
theorem attempt_of_le_lastCall {call : Nat} (h : call ≤ policy.lastCall passing outcome) :
    policy.attempt passing outcome call (policy.maxRetries - call) =
      ⟨outcome (policy.lastCall passing outcome),
        (List.range' call (policy.lastCall passing outcome - call)).map policy.delay⟩ := by
  have hmax := lastCall_le policy passing outcome
  induction hleft : policy.lastCall passing outcome - call generalizing call with
  | zero =>
    obtain rfl : call = policy.lastCall passing outcome := by omega
    cases hretries : policy.maxRetries - policy.lastCall passing outcome with
    | zero => rfl
    | succ retries =>
      rw [attempt]
      cases houtcome : outcome (policy.lastCall passing outcome) with
      | ok value => rfl
      | error fault =>
        -- a retry is left, so the fault is not in passing
        have hallows : policy.allows (policy.lastCall passing outcome) = true := by
          rw [allows, decide_eq_true_eq]
          omega
        have hpassing : passing fault = false :=
          (not_again_at_lastCall houtcome).resolve_right (by simp [hallows])
        simp only [hpassing, Bool.false_eq_true, if_false]
        rfl
  | succ left ih =>
    have hlt : call < policy.lastCall passing outcome := by omega
    obtain ⟨fault, houtcome, hpassing, -⟩ := error_of_lt_lastCall hlt
    have hretries : policy.maxRetries - call = policy.maxRetries - (call + 1) + 1 := by omega
    rw [hretries, attempt, houtcome]
    simp only [hpassing, if_true, ih hlt (by omega)]
    rw [List.range'_succ, List.map_cons]

theorem run_eq (policy : RetryPolicy) (passing : ε → Bool) (outcome : Nat → Except ε α) :
    policy.run passing outcome =
      ⟨outcome (policy.lastCall passing outcome),
        (List.range (policy.lastCall passing outcome)).map policy.delay⟩ := by
  have h := attempt_of_le_lastCall (Nat.zero_le (policy.lastCall passing outcome))
  rwa [Nat.sub_zero, Nat.sub_zero, ← List.range_eq_range'] at h

/-- When a call starts, if every one before it has taken some time and been waited for. -/
def startOf (policy : RetryPolicy) (taken : Nat → Nat) : Nat → Nat
  | 0 => 0
  | call + 1 => policy.startOf taken call + taken call + policy.delay call

theorem startsAfter_startOf (policy : RetryPolicy) (call count : Nat) :
    startsAfter (policy.startOf (fun _ => 0) call) ((List.range' call count).map policy.delay) =
      (List.range' (call + 1) count).map (policy.startOf fun _ => 0) := by
  induction count generalizing call with
  | zero => rfl
  | succ count ih =>
    rw [List.range'_succ, List.range'_succ, List.map_cons, List.map_cons, startsAfter]
    exact congrArg (_ :: ·) (ih (call + 1))

end RetryPolicy

-- ---------------------------------------------------------------------------
-- The loop step by step
-- ---------------------------------------------------------------------------

namespace RetryLoop

variable {ε α : Type} {policy : RetryPolicy} {passing : ε → Bool} {outcome : Nat → Except ε α}

/-- Where the loop stands. -/
inductive Stage (ε α : Type) where
  /-- A call is due, after so many failures. -/
  | calling (failures : Nat)
  /-- The call has failed again, and the wait before the next one is due. -/
  | waiting (failures : Nat)
  | done (result : Except ε α)

/-- What is seen of the loop from outside. -/
inductive Happening (ε α : Type) where
  | called (result : Except ε α)
  | waited (duration : Nat)

/-- One step of the loop, whatever the call brings. -/
inductive Step (policy : RetryPolicy) (passing : ε → Bool) :
    Stage ε α → Happening ε α → Stage ε α → Prop where
  | succeed (failures : Nat) (value : α) :
      Step policy passing (.calling failures) (.called (.ok value)) (.done (.ok value))
  | refuse {failures : Nat} {fault : ε} (hpassing : passing fault = false) :
      Step policy passing (.calling failures) (.called (.error fault)) (.done (.error fault))
  | exhaust {failures : Nat} {fault : ε} (hpassing : passing fault = true)
      (hallows : policy.allows failures = false) :
      Step policy passing (.calling failures) (.called (.error fault)) (.done (.error fault))
  | again {failures : Nat} {fault : ε} (hpassing : passing fault = true)
      (hallows : policy.allows failures = true) :
      Step policy passing (.calling failures) (.called (.error fault)) (.waiting failures)
  | wake (failures : Nat) :
      Step policy passing (.waiting failures) (.waited (policy.delay failures))
        (.calling (failures + 1))

/-- The number of calls in a log. -/
def calls : List (Happening ε α) → Nat
  | [] => 0
  | .called _ :: log => calls log + 1
  | .waited _ :: log => calls log

/-- The loop has come from its start to a stage, while the calls had the outcomes of a sequence in
turn. -/
inductive Runs (policy : RetryPolicy) (passing : ε → Bool) (outcome : Nat → Except ε α) :
    List (Happening ε α) → Stage ε α → Prop where
  | start : Runs policy passing outcome [] (.calling 0)
  | call {log : List (Happening ε α)} {stage next : Stage ε α}
      (prior : Runs policy passing outcome log stage)
      (step : Step policy passing stage (.called (outcome (calls log))) next) :
      Runs policy passing outcome (log ++ [.called (outcome (calls log))]) next
  | wait {log : List (Happening ε α)} {stage next : Stage ε α} {duration : Nat}
      (prior : Runs policy passing outcome log stage)
      (step : Step policy passing stage (.waited duration) next) :
      Runs policy passing outcome (log ++ [.waited duration]) next

/-- So many calls, each with the wait after it. -/
def retries (policy : RetryPolicy) (outcome : Nat → Except ε α) (count : Nat) :
    List (Happening ε α) :=
  (List.range count).flatMap fun call => [.called (outcome call), .waited (policy.delay call)]

theorem retries_succ (count : Nat) :
    retries policy outcome (count + 1) =
      retries policy outcome count ++
        [.called (outcome count), .waited (policy.delay count)] := by
  unfold retries
  rw [List.range_succ, List.flatMap_append, List.flatMap_singleton]

theorem calls_append (log later : List (Happening ε α)) :
    calls (log ++ later) = calls log + calls later := by
  induction log with
  | nil => exact (Nat.zero_add _).symm
  | cons happening log ih =>
    cases happening with
    | called result =>
      rw [List.cons_append, calls, calls, ih]
      omega
    | waited duration => exact ih

theorem calls_retries (count : Nat) : calls (retries policy outcome count) = count := by
  induction count with
  | zero => rfl
  | succ count ih => rw [retries_succ, calls_append, ih]; rfl

/-- The whole log: one call after another up to the last, and the waits in between. -/
def fullLog (policy : RetryPolicy) (passing : ε → Bool) (outcome : Nat → Except ε α) :
    List (Happening ε α) :=
  retries policy outcome (policy.lastCall passing outcome) ++
    [.called (outcome (policy.lastCall passing outcome))]

/-- Where the loop stands after a log. -/
def Stage.After (policy : RetryPolicy) (passing : ε → Bool) (outcome : Nat → Except ε α)
    (log : List (Happening ε α)) : Stage ε α → Prop
  | calling failures =>
    failures ≤ policy.lastCall passing outcome ∧ log = retries policy outcome failures
  | waiting failures =>
    failures < policy.lastCall passing outcome ∧
      log = retries policy outcome failures ++ [.called (outcome failures)]
  | done result =>
    result = outcome (policy.lastCall passing outcome) ∧ log = fullLog policy passing outcome

/-- A call before the last one is followed by a wait; the last one ends the loop. -/
theorem after_call {failures : Nat} {next : Stage ε α}
    (h : failures ≤ policy.lastCall passing outcome)
    (hstep : Step policy passing (.calling failures) (.called (outcome failures)) next) :
    next.After policy passing outcome
      (retries policy outcome failures ++ [.called (outcome failures)]) := by
  rcases Nat.lt_or_eq_of_le h with hlt | rfl
  · obtain ⟨fault, houtcome, hpassing, hallows⟩ := RetryPolicy.error_of_lt_lastCall hlt
    rw [houtcome] at hstep
    cases hstep with
    | refuse hnot => simp [hnot] at hpassing
    | exhaust _ hnot => simp [hnot] at hallows
    | again => exact ⟨hlt, rfl⟩
  · cases houtcome : outcome (policy.lastCall passing outcome) with
    | ok value =>
      rw [houtcome] at hstep
      cases hstep
      exact ⟨houtcome.symm, by rw [fullLog, houtcome]⟩
    | error fault =>
      rw [houtcome] at hstep
      cases hstep with
      | refuse => exact ⟨houtcome.symm, by rw [fullLog, houtcome]⟩
      | exhaust => exact ⟨houtcome.symm, by rw [fullLog, houtcome]⟩
      | again hpassing hallows =>
        rcases RetryPolicy.not_again_at_lastCall houtcome with hnot | hnot
        · simp [hpassing] at hnot
        · simp [hallows] at hnot

theorem Runs.after {log : List (Happening ε α)} {stage : Stage ε α}
    (h : Runs policy passing outcome log stage) : stage.After policy passing outcome log := by
  induction h with
  | start => exact ⟨Nat.zero_le _, rfl⟩
  | @call log stage next _ step ih =>
    cases stage with
    | calling failures =>
      obtain ⟨hle, rfl⟩ := ih
      rw [calls_retries] at step ⊢
      exact after_call hle step
    | waiting failures => cases step
    | done result => cases step
  | @wait log stage next duration _ step ih =>
    cases stage with
    | calling failures => cases step
    | waiting failures =>
      obtain ⟨hlt, rfl⟩ := ih
      cases step
      exact ⟨hlt, by rw [retries_succ, List.append_assoc]; rfl⟩
    | done result => cases step

/-- After so many retries the next outcome is the one of that number. -/
theorem Runs.call_next {count : Nat} {stage next : Stage ε α}
    (h : Runs policy passing outcome (retries policy outcome count) stage)
    (hstep : Step policy passing stage (.called (outcome count)) next) :
    Runs policy passing outcome (retries policy outcome count ++ [.called (outcome count)])
      next := by
  have hcalls : calls (retries policy outcome count) = count := calls_retries count
  have hcall := h.call (by rw [hcalls]; exact hstep)
  rwa [hcalls] at hcall

theorem runs_retries {count : Nat} (h : count ≤ policy.lastCall passing outcome) :
    Runs policy passing outcome (retries policy outcome count) (.calling count) := by
  induction count with
  | zero => exact .start
  | succ count ih =>
    obtain ⟨fault, houtcome, hpassing, hallows⟩ := RetryPolicy.error_of_lt_lastCall h
    have hstep :
        Step policy passing (.calling count) (.called (outcome count)) (.waiting count) := by
      rw [houtcome]
      exact .again hpassing hallows
    have hwait := ((ih (Nat.le_of_succ_le h)).call_next hstep).wait (.wake count)
    rwa [List.append_assoc, List.singleton_append, ← retries_succ] at hwait

/-- The last call ends the loop. -/
theorem step_lastCall (policy : RetryPolicy) (passing : ε → Bool) (outcome : Nat → Except ε α) :
    Step policy passing (.calling (policy.lastCall passing outcome))
      (.called (outcome (policy.lastCall passing outcome)))
      (.done (outcome (policy.lastCall passing outcome))) := by
  cases houtcome : outcome (policy.lastCall passing outcome) with
  | ok value => exact .succeed _ value
  | error fault =>
    cases hpassing : passing fault with
    | false => exact .refuse hpassing
    | true =>
      have hallows := (RetryPolicy.not_again_at_lastCall houtcome).resolve_left (by simp [hpassing])
      exact .exhaust hpassing hallows

theorem runs_fullLog (policy : RetryPolicy) (passing : ε → Bool) (outcome : Nat → Except ε α) :
    Runs policy passing outcome (fullLog policy passing outcome)
      (.done (outcome (policy.lastCall passing outcome))) :=
  (runs_retries (Nat.le_refl _)).call_next (step_lastCall policy passing outcome)

theorem retries_isPrefix {count last : Nat} (h : count ≤ last) :
    retries policy outcome count <+: retries policy outcome last := by
  induction h with
  | refl => exact List.prefix_refl _
  | step _ ih => rw [retries_succ]; exact ih.trans (List.prefix_append _ _)

/-- Whatever the loop has done is the beginning of the whole log. -/
theorem Runs.isPrefix {log : List (Happening ε α)} {stage : Stage ε α}
    (h : Runs policy passing outcome log stage) : log <+: fullLog policy passing outcome := by
  have hafter := h.after
  cases stage with
  | calling failures =>
    obtain ⟨hle, rfl⟩ := hafter
    exact (retries_isPrefix hle).trans (List.prefix_append _ _)
  | waiting failures =>
    obtain ⟨hlt, rfl⟩ := hafter
    have hcall : retries policy outcome failures ++ [.called (outcome failures)] <+:
        retries policy outcome (failures + 1) := by
      rw [retries_succ]
      exact (List.prefix_append_right_inj _).mpr ⟨_, rfl⟩
    exact (hcall.trans (retries_isPrefix hlt)).trans (List.prefix_append _ _)
  | done result =>
    exact hafter.2 ▸ List.prefix_refl _

/-- A loop that cannot go on is done. -/
theorem Runs.done_of_stuck {log : List (Happening ε α)} {stage : Stage ε α}
    (h : Runs policy passing outcome log stage)
    (hstuck : ∀ happening next, ¬Runs policy passing outcome (log ++ [happening]) next) :
    log = fullLog policy passing outcome ∧
      stage = .done (outcome (policy.lastCall passing outcome)) := by
  have hafter := h.after
  cases stage with
  | calling failures =>
    obtain ⟨hle, rfl⟩ := hafter
    obtain ⟨next, hstep⟩ :
        ∃ next, Step policy passing (.calling failures) (.called (outcome failures)) next := by
      rcases Nat.lt_or_eq_of_le hle with hlt | rfl
      · obtain ⟨fault, houtcome, hpassing, hallows⟩ := RetryPolicy.error_of_lt_lastCall hlt
        exact ⟨.waiting failures, by rw [houtcome]; exact .again hpassing hallows⟩
      · exact ⟨_, step_lastCall policy passing outcome⟩
    exact absurd (h.call_next hstep) (hstuck _ next)
  | waiting failures => exact absurd (h.wait (.wake failures)) (hstuck _ _)
  | done result => exact ⟨hafter.2, congrArg Stage.done hafter.1⟩

/-- The retry loop, for every policy, every notion of a failure in passing and every sequence of
outcomes. It comes to an end with one log, that of the calls up to `lastCall` with the wait
`delay call` after each of them but the last, and with the outcome of that last call. Whatever else
it may have done is the beginning of that log, so it does not go on forever, and it stops nowhere
before. The failures it counts never exceed the retries of the policy. `run` finds the same: its
result, its waits, the number of its calls and when they start. -/
theorem runs_until_lastCall (policy : RetryPolicy) (passing : ε → Bool)
    (outcome : Nat → Except ε α) :
    let last := policy.lastCall passing outcome
    let log :=
      (List.range last).flatMap (fun call =>
        [.called (outcome call), .waited (policy.delay call)]) ++ [.called (outcome last)]
    Runs policy passing outcome log (.done (outcome last)) ∧
      (∀ done stage, Runs policy passing outcome done stage →
        done <+: log ∧
          ((∀ happening next, ¬Runs policy passing outcome (done ++ [happening]) next) →
            done = log ∧ stage = .done (outcome last))) ∧
      (∀ done failures, Runs policy passing outcome done (.calling failures) →
        failures ≤ policy.maxRetries) ∧
      policy.run passing outcome = ⟨outcome last, (List.range last).map policy.delay⟩ ∧
      (policy.run passing outcome).calls = last + 1 ∧
      (policy.run passing outcome).starts =
        (List.range (last + 1)).map (policy.startOf fun _ => 0) := by
  intro last log
  have hrun := RetryPolicy.run_eq policy passing outcome
  have hmax := RetryPolicy.lastCall_le policy passing outcome
  refine ⟨runs_fullLog policy passing outcome, fun _ _ h => ⟨h.isPrefix, h.done_of_stuck⟩,
    fun _ _ h => Nat.le_trans h.after.1 hmax, hrun, ?_, ?_⟩
  · rw [hrun]
    simp [RetryPolicy.Trace.calls, last]
  · rw [hrun, RetryPolicy.Trace.starts, List.range_eq_range', List.range_eq_range',
      List.range'_succ]
    exact congrArg (0 :: ·) (RetryPolicy.startsAfter_startOf policy 0 last)

end RetryLoop

-- ---------------------------------------------------------------------------
-- A single call on the timeline
-- ---------------------------------------------------------------------------

/-- The engine whose answers follow one another in a sequence. -/
def Engine.numbered (answers : Nat → Answer) : Engine Nat where
  answer made _ := (answers made, made + 1)

namespace Timeline

variable {policy : RetryPolicy} {answers : Nat → Answer}

/-- When an attempt at a single call starts. -/
abbrev startOf (policy : RetryPolicy) (answers : Nat → Answer) : Nat → Nat :=
  policy.startOf fun made => (answers made).delay

/-- The timeline of a single call, from one of its attempts on. -/
theorem run_singleton (call : Call) (index : Nat) {attempt last : Nat}
    (hlast : policy.lastCall EngineFault.isRetryable (fun made => (answers made).result) = last)
    (h : attempt ≤ last) :
    run (.numbered answers) policy attempt
        [⟨index, call, attempt, startOf policy answers attempt⟩] =
      ⟨(List.range' attempt (last + 1 - attempt)).map fun made =>
          ⟨call, startOf policy answers made⟩,
        [(index, (answers last).result)], startOf policy answers last + (answers last).delay,
        last + 1⟩ := by
  induction hleft : last - attempt generalizing attempt with
  | zero =>
    obtain rfl : attempt = last := by omega
    have hagain : again? policy ⟨index, call, attempt, startOf policy answers attempt⟩
        (answers attempt) = none := by
      unfold again?
      cases hresult : (answers attempt).result with
      | ok entries => rfl
      | error fault =>
        have hnot : fault.isRetryable = false ∨ policy.allows attempt = false := by
          have hlastResult := hresult
          rw [← hlast] at hlastResult ⊢
          exact RetryPolicy.not_again_at_lastCall hlastResult
        refine if_neg fun hboth => ?_
        rcases hnot with hpassing | hallows
        · simp [hpassing] at hboth
        · simp [hallows] at hboth
    rw [run_cons_done _ hagain, run]
    simp [Engine.numbered]
  | succ left ih =>
    have hlt : attempt < last := by omega
    obtain ⟨fault, hresult, hpassing, hallows⟩ :=
      RetryPolicy.error_of_lt_lastCall (hlast.symm ▸ hlt)
    have hagain : again? policy ⟨index, call, attempt, startOf policy answers attempt⟩
        (answers attempt) =
          some ⟨index, call, attempt + 1, startOf policy answers (attempt + 1)⟩ := by
      unfold again?
      rw [hresult]
      exact if_pos ⟨hpassing, hallows⟩
    have hlater := ih hlt (by omega)
    rw [run_cons_again _ hagain]
    simp only [enqueue, Engine.numbered] at hlater ⊢
    rw [hlater, Nat.succ_sub h, List.range'_succ, List.map_cons, Nat.add_sub_add_right]

/-- A single call on a timeline is tried again as `RetryPolicy.run` says, with the time that the
answers take added to the waits. -/
theorem ofCalls_singleton (policy : RetryPolicy) (answers : Nat → Answer) (call : Call) :
    let last := policy.lastCall EngineFault.isRetryable fun made => (answers made).result
    let timeline := ofCalls (.numbered answers) policy 0 [call]
    timeline.result? 0 = some (policy.run EngineFault.isRetryable
        fun made => (answers made).result).result ∧
      timeline.log = ((List.range (last + 1)).map fun made =>
        ⟨call, startOf policy answers made⟩) ∧
      timeline.engine = last + 1 := by
  intro last timeline
  have htimeline : timeline = _ := run_singleton call 0 rfl (Nat.zero_le last)
  rw [htimeline, RetryPolicy.run_eq, Nat.sub_zero, ← List.range_eq_range']
  exact ⟨rfl, rfl, rfl⟩

end Timeline

end Promotion
