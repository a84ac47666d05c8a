import Mathlib.Algebra.BigOperators.Group.Finset.Basic
import Mathlib.Algebra.Order.BigOperators.Group.Finset
import Mathlib.Logic.Relation
import Promotion.Proofs.Attempts

/-!
# Loops in any order

Around every call runs a loop that asks the engine, waits and asks again until the call is done. The
loops of several calls run side by side, and nothing says which of them takes the next step. When
the answer to an attempt depends on its call and its number alone, every order of the steps comes to
an end, and to the same one: each loop is done as if it had run alone (`Phases.done_of_interleaving`).
A timeline, which follows the clock, is one of the orders (`Timeline.interleaving_run`).
-/

namespace Promotion

/-- The answers to the attempts at the call for each currency, by the failures before them. -/
abbrev Answers := String → Call → Nat → Except EngineFault (List Json)

/-- What the loop around a call is about to do, after so many failures. -/
inductive Phase where
  /-- The next attempt is made. -/
  | due (failures : Nat)
  /-- An attempt has been made and is not answered yet. -/
  | asked (failures : Nat)
  /-- The wait before the next attempt is not over yet. -/
  | waiting (failures : Nat)
  | done (result : Except EngineFault (List Json))

-- ---------------------------------------------------------------------------
-- One call alone
-- ---------------------------------------------------------------------------

namespace RetryPolicy

variable {ε α : Type} {policy : RetryPolicy} {passing : ε → Bool} {outcome : Nat → Except ε α}
  {failures : Nat}

theorem result_attempt_ok {value : α} (left : Nat) (h : outcome failures = .ok value) :
    (policy.attempt passing outcome failures left).result = .ok value := by
  cases left with
  | zero => exact h
  | succ left => rw [attempt, h]

theorem result_attempt_last {fault : ε} (h : outcome failures = .error fault)
    (hlast : ¬(passing fault ∧ policy.allows failures)) :
    (policy.attempt passing outcome failures (policy.maxRetries - failures)).result =
      .error fault := by
  cases hleft : policy.maxRetries - failures with
  | zero => exact h
  | succ left =>
    have hallows : policy.allows failures := by
      rw [allows, decide_eq_true_eq]
      omega
    have hpassing : passing fault = false := by
      rw [Bool.eq_false_iff]
      exact fun hpassing => hlast ⟨hpassing, hallows⟩
    rw [attempt, h]
    simp only [hpassing, Bool.false_eq_true, if_false]

theorem result_attempt_again {fault : ε} (h : outcome failures = .error fault)
    (hagain : passing fault ∧ policy.allows failures) :
    (policy.attempt passing outcome failures (policy.maxRetries - failures)).result =
      (policy.attempt passing outcome (failures + 1)
        (policy.maxRetries - (failures + 1))).result := by
  obtain ⟨hpassing, hallows⟩ := hagain
  rw [allows, decide_eq_true_eq] at hallows
  have hleft : policy.maxRetries - failures = policy.maxRetries - (failures + 1) + 1 := by omega
  rw [hleft, attempt, h]
  simp only [hpassing, if_true]

/-- Where all attempts end alike, no number of them makes a difference. -/
theorem result_attempt_const (result : Except ε α) (failures left : Nat) :
    (policy.attempt passing (fun _ => result) failures left).result = result := by
  induction left generalizing failures with
  | zero => rfl
  | succ left ih =>
    cases result with
    | ok value => rfl
    | error fault =>
      unfold attempt
      simp only
      split
      · exact ih (failures + 1)
      · rfl

end RetryPolicy

namespace Phase

variable {policy : RetryPolicy} {outcome : Nat → Except EngineFault (List Json)}
  {phase next : Phase}

/-- One step of the loop around a call whose attempts end in `outcome`. -/
inductive Step (policy : RetryPolicy) (outcome : Nat → Except EngineFault (List Json)) :
    Phase → Phase → Prop where
  | ask (failures : Nat) : Step policy outcome (.due failures) (.asked failures)
  | succeed {failures : Nat} {entries : List Json} (h : outcome failures = .ok entries) :
      Step policy outcome (.asked failures) (.done (.ok entries))
  | giveUp {failures : Nat} {fault : EngineFault} (h : outcome failures = .error fault)
      (hlast : ¬(fault.isRetryable ∧ policy.allows failures)) :
      Step policy outcome (.asked failures) (.done (.error fault))
  | wait {failures : Nat} {fault : EngineFault} (h : outcome failures = .error fault)
      (hagain : fault.isRetryable ∧ policy.allows failures) :
      Step policy outcome (.asked failures) (.waiting (failures + 1))
  | wake (failures : Nat) : Step policy outcome (.waiting failures) (.due failures)

/-- What the loop ends in if it runs alone from now on. -/
def result (policy : RetryPolicy) (outcome : Nat → Except EngineFault (List Json)) :
    Phase → Except EngineFault (List Json)
  | due failures | asked failures | waiting failures =>
    (policy.attempt EngineFault.isRetryable outcome failures (policy.maxRetries - failures)).result
  | done result => result

/-- No step changes what the loop ends in. -/
theorem result_eq_of_step (h : Step policy outcome phase next) :
    next.result policy outcome = phase.result policy outcome := by
  cases h with
  | ask failures => rfl
  | succeed h => exact (RetryPolicy.result_attempt_ok _ h).symm
  | giveUp h hlast => exact (RetryPolicy.result_attempt_last h hlast).symm
  | wait h hagain => exact (RetryPolicy.result_attempt_again h hagain).symm
  | wake failures => rfl

/-- A bound on the steps until the loop is done. -/
def stepsLeft (policy : RetryPolicy) : Phase → Nat
  | waiting failures => 3 * (policy.maxRetries - failures) + 3
  | due failures => 3 * (policy.maxRetries - failures) + 2
  | asked failures => 3 * (policy.maxRetries - failures) + 1
  | done _ => 0

theorem stepsLeft_lt_of_step (h : Step policy outcome phase next) :
    next.stepsLeft policy < phase.stepsLeft policy := by
  cases h with
  | ask failures => exact Nat.lt_succ_self _
  | succeed h => exact Nat.succ_pos _
  | giveUp h hlast => exact Nat.succ_pos _
  | @wait failures fault h hagain =>
    have hallows := hagain.2
    rw [RetryPolicy.allows, decide_eq_true_eq] at hallows
    simp only [stepsLeft]
    omega
  | wake failures => exact Nat.lt_succ_self _

/-- A loop that is not done can take a step. -/
theorem exists_step (policy : RetryPolicy) (outcome : Nat → Except EngineFault (List Json))
    (phase : Phase) :
    (∃ result, phase = .done result) ∨ ∃ next, Step policy outcome phase next := by
  cases phase with
  | due failures => exact .inr ⟨_, .ask failures⟩
  | waiting failures => exact .inr ⟨_, .wake failures⟩
  | done result => exact .inl ⟨result, rfl⟩
  | asked failures =>
    right
    cases h : outcome failures with
    | ok entries => exact ⟨_, .succeed h⟩
    | error fault =>
      by_cases hagain : fault.isRetryable ∧ policy.allows failures
      · exact ⟨_, .wait h hagain⟩
      · exact ⟨_, .giveUp h hagain⟩

end Phase

-- ---------------------------------------------------------------------------
-- Calls side by side
-- ---------------------------------------------------------------------------

/-- The phases of the loops around calls, by the places of the calls. -/
abbrev Phases := Nat → Phase

namespace Phases

variable {policy : RetryPolicy} {answers : Answers} {calls : List (String × Call)}
  {phases next : Phases}

/-- All loops are about to make their first attempts. -/
def start : Phases := fun _ => .due 0

/-- One of the loops takes a step. -/
inductive Step (policy : RetryPolicy) (answers : Answers) (calls : List (String × Call)) :
    Phases → Phases → Prop where
  | loop {phases : Phases} {next : Phase} {index : Nat} {currency : String} {call : Call}
      (hcall : calls[index]? = some (currency, call))
      (hstep : Phase.Step policy (answers currency call) (phases index) next) :
      Step policy answers calls phases (Function.update phases index next)

/-- The loops take any number of steps, in any order. -/
abbrev Interleaving (policy : RetryPolicy) (answers : Answers) (calls : List (String × Call)) :
    Phases → Phases → Prop :=
  Relation.ReflTransGen (Step policy answers calls)

/-- Steps of one loop, while the others take none. -/
theorem interleaving_update {index : Nat} {currency : String} {call : Call} {last : Phase}
    (hcall : calls[index]? = some (currency, call))
    (hsteps : Relation.ReflTransGen (Phase.Step policy (answers currency call)) (phases index) last) :
    Interleaving policy answers calls phases (Function.update phases index last) := by
  induction hsteps with
  | refl =>
    rw [Function.update_eq_self]
  | @tail middle last _ hstep ih =>
    have hmiddle : Phase.Step policy (answers currency call)
        (Function.update phases index middle index) last := by
      rw [Function.update_self]
      exact hstep
    have hlast := ih.tail (.loop hcall hmiddle)
    rw [Function.update_idem] at hlast
    exact hlast

theorem result_eq_of_step (h : Step policy answers calls phases next) {index : Nat}
    {currency : String} {call : Call} (hcall : calls[index]? = some (currency, call)) :
    (next index).result policy (answers currency call) =
      (phases index).result policy (answers currency call) := by
  cases h with
  | @loop after place other later hplace hstep =>
    by_cases hindex : index = place
    · subst hindex
      obtain ⟨rfl, rfl⟩ := Prod.mk.inj (Option.some.inj (hcall.symm.trans hplace))
      rw [Function.update_self]
      exact Phase.result_eq_of_step hstep
    · rw [Function.update_of_ne hindex]

/-- In whatever order the loops take their steps, each comes to what it comes to alone. -/
theorem result_eq_of_interleaving (h : Interleaving policy answers calls phases next) {index : Nat}
    {currency : String} {call : Call} (hcall : calls[index]? = some (currency, call)) :
    (next index).result policy (answers currency call) =
      (phases index).result policy (answers currency call) := by
  induction h with
  | refl => rfl
  | tail _ hstep ih => exact (result_eq_of_step hstep hcall).trans ih

/-- A loop that is done after any interleaving has the result that it has alone. -/
theorem done_of_interleaving (h : Interleaving policy answers calls start phases) {index : Nat}
    {currency : String} {call : Call} (hcall : calls[index]? = some (currency, call))
    {result : Except EngineFault (List Json)} (hdone : phases index = .done result) :
    result = (policy.run EngineFault.isRetryable (answers currency call)).result := by
  have hsame := result_eq_of_interleaving h hcall
  rw [hdone] at hsame
  exact hsame

/-- Where no loop can take a step, all are done. -/
theorem done_of_stuck (hstuck : ∀ next, ¬Step policy answers calls phases next) {index : Nat}
    (h : index < calls.length) : ∃ result, phases index = .done result := by
  have hcall : calls[index]? = some (calls[index].1, calls[index].2) := List.getElem?_eq_getElem h
  rcases Phase.exists_step policy (answers calls[index].1 calls[index].2) (phases index) with
    hdone | ⟨after, hstep⟩
  · exact hdone
  · exact absurd (Step.loop hcall hstep) (hstuck _)

/-- A bound on the steps until all loops are done. -/
def stepsLeft (policy : RetryPolicy) (calls : List (String × Call)) (phases : Phases) : Nat :=
  ∑ index ∈ Finset.range calls.length, (phases index).stepsLeft policy

theorem stepsLeft_lt_of_step (h : Step policy answers calls phases next) :
    stepsLeft policy calls next < stepsLeft policy calls phases := by
  cases h with
  | @loop after place currency call hplace hstep =>
    obtain ⟨hlt, -⟩ := List.getElem?_eq_some_iff.mp hplace
    have hfewer := Phase.stepsLeft_lt_of_step hstep
    refine Finset.sum_lt_sum (fun index _ => ?_) ⟨place, Finset.mem_range.mpr hlt, ?_⟩
    · by_cases hindex : index = place
      · subst hindex
        rw [Function.update_self]
        exact hfewer.le
      · rw [Function.update_of_ne hindex]
    · rw [Function.update_self]
      exact hfewer

/-- No interleaving goes on forever. -/
theorem not_forall_step (policy : RetryPolicy) (answers : Answers) (calls : List (String × Call))
    (schedule : Nat → Phases) :
    ¬∀ n, Step policy answers calls (schedule n) (schedule (n + 1)) := by
  intro hsteps
  obtain ⟨n, hn⟩ := WellFounded.not_rel_apply_succ (r := (· < ·)) fun n =>
    stepsLeft policy calls (schedule n)
  exact hn (stepsLeft_lt_of_step (hsteps n))

end Phases

-- ---------------------------------------------------------------------------
-- By the clock
-- ---------------------------------------------------------------------------

namespace Timeline

variable {σ : Type} {engine : Engine σ} {policy : RetryPolicy} {answers : Answers}
  {calls : List (String × Call)}

theorem again?_eq_some {attempt again : Attempt} {answer : Answer}
    (h : again? policy attempt answer = some again) :
    (∃ fault, answer.result = .error fault ∧
        (fault.isRetryable ∧ policy.allows attempt.failures)) ∧
      again.index = attempt.index ∧ again.call = attempt.call ∧
        again.failures = attempt.failures + 1 := by
  unfold again? at h
  split at h
  · cases h
  · rename_i fault hfault
    split at h
    · rename_i hagain
      cases h
      exact ⟨⟨fault, hfault, hagain⟩, rfl, rfl, rfl⟩
    · cases h

theorem again?_eq_none {attempt : Attempt} {answer : Answer}
    (h : again? policy attempt answer = none) :
    (∃ entries, answer.result = .ok entries) ∨
      ∃ fault, answer.result = .error fault ∧
        ¬(fault.isRetryable ∧ policy.allows attempt.failures) := by
  unfold again? at h
  split at h
  · rename_i entries hentries
    exact .inl ⟨entries, hentries⟩
  · rename_i fault hfault
    split at h
    · cases h
    · rename_i hlast
      exact .inr ⟨fault, hfault, hlast⟩

/-- The engine's answers to the attempts of a run are `answers`. -/
def AnsweredBy (answers : Answers) (calls : List (String × Call))
    (exchanges : List (Attempt × Answer)) : Prop :=
  ∀ exchange ∈ exchanges.filterMap (Exchange.of? calls),
    exchange.result = answers exchange.currency exchange.call exchange.failures

theorem answeredBy_cons {attempt : Attempt} {answer : Answer} {later : List (Attempt × Answer)}
    {currency : String} (hcall : calls[attempt.index]? = some (currency, attempt.call))
    (h : AnsweredBy answers calls ((attempt, answer) :: later)) :
    answers currency attempt.call attempt.failures = answer.result ∧
      AnsweredBy answers calls later := by
  have hfirst : Exchange.of? calls (attempt, answer) =
      some ⟨currency, attempt.call, attempt.failures, answer.result⟩ := by
    rw [Exchange.of?, hcall]
    rfl
  rw [AnsweredBy, List.filterMap_cons_some hfirst, List.forall_mem_cons] at h
  exact ⟨h.1.symm, h.2⟩

/-- The loops of a queue's attempts are about to make them. -/
def Due (calls : List (String × Call)) (phases : Phases) (queue : List Attempt) : Prop :=
  ∀ attempt ∈ queue, phases attempt.index = .due attempt.failures ∧
    ∃ currency, calls[attempt.index]? = some (currency, attempt.call)

variable {state : σ} {queue : List Attempt} {phases : Phases} {attempt next : Attempt}

/-- A loop that none of the attempts belongs to may go on. -/
theorem Due.update {index : Nat} (h : Due calls phases queue)
    (hfresh : index ∉ queue.map (·.index)) (phase : Phase) :
    Due calls (Function.update phases index phase) queue := by
  intro attempt hattempt
  have hplace : attempt.index ≠ index := by
    rintro rfl
    exact hfresh (List.mem_map_of_mem hattempt)
  rw [Function.update_of_ne hplace]
  exact h attempt hattempt

theorem Due.enqueue (h : Due calls phases (attempt :: queue))
    (hdistinct : ((attempt :: queue).map (·.index)).Nodup) {answer : Answer}
    (hagain : again? policy attempt answer = some next) :
    Due calls (Function.update phases attempt.index (.due (attempt.failures + 1)))
      (enqueue next queue) := by
  obtain ⟨⟨-, currency, hcall⟩, hrest⟩ := List.forall_mem_cons.mp h
  obtain ⟨-, hindex, hsame, hfailures⟩ := again?_eq_some hagain
  intro other hother
  rcases List.mem_cons.mp ((enqueue_perm next queue).mem_iff.mp hother) with rfl | hold
  · rw [hindex, hsame, hfailures, Function.update_self]
    exact ⟨rfl, currency, hcall⟩
  · exact Due.update hrest (List.nodup_cons.mp hdistinct).1 _ other hold

/-- The loop of an attempt that another one follows asks, waits and is due again. -/
theorem loop_again {outcome : Nat → Except EngineFault (List Json)} {answer : Answer}
    (hanswer : outcome attempt.failures = answer.result)
    (hagain : again? policy attempt answer = some next) :
    Relation.ReflTransGen (Phase.Step policy outcome) (.due attempt.failures)
      (.due (attempt.failures + 1)) := by
  obtain ⟨⟨fault, hfault, hpassing⟩, -⟩ := again?_eq_some hagain
  have hasked : Relation.ReflTransGen (Phase.Step policy outcome) (.due attempt.failures)
      (.asked attempt.failures) := .single (.ask _)
  exact (hasked.tail (.wait (hanswer.trans hfault) hpassing)).tail (.wake _)

/-- The loop of a last attempt asks and is done. -/
theorem loop_done {outcome : Nat → Except EngineFault (List Json)} {answer : Answer}
    (hanswer : outcome attempt.failures = answer.result)
    (hdone : again? policy attempt answer = none) :
    Relation.ReflTransGen (Phase.Step policy outcome) (.due attempt.failures)
      (.done answer.result) := by
  have hasked : Relation.ReflTransGen (Phase.Step policy outcome) (.due attempt.failures)
      (.asked attempt.failures) := .single (.ask _)
  refine hasked.tail ?_
  rcases again?_eq_none hdone with ⟨entries, hentries⟩ | ⟨fault, hfault, hlast⟩
  · rw [hentries] at hanswer ⊢
    exact .succeed hanswer
  · rw [hfault] at hanswer ⊢
    exact .giveUp hanswer hlast

/-- A timeline is one of the interleavings, with its results in the end. -/
theorem interleaving_run (hdistinct : (queue.map (·.index)).Nodup) (hdue : Due calls phases queue)
    (hanswers : AnsweredBy answers calls (exchanges engine policy state queue)) :
    ∃ last, Phases.Interleaving policy answers calls phases last ∧
      (∀ index result, (index, result) ∈ (run engine policy state queue).results →
        last index = .done result) ∧
      ∀ index, index ∉ queue.map (·.index) → last index = phases index := by
  induction state, queue using run_induction engine policy generalizing phases with
  | nil state =>
    refine ⟨phases, .refl, ?_, fun _ _ => rfl⟩
    intro index result hresult
    rw [run] at hresult
    cases hresult
  | again state attempt queue next hagain ih =>
    obtain ⟨⟨hphase, currency, hcall⟩, -⟩ := List.forall_mem_cons.mp hdue
    rw [exchanges_cons_again queue hagain] at hanswers
    obtain ⟨hanswer, hlater⟩ := answeredBy_cons hcall hanswers
    have hsteps := Phases.interleaving_update hcall (hphase ▸ loop_again hanswer hagain)
    have hindex := index_of_again? hagain
    obtain ⟨last, hlast, hresults, hothers⟩ :=
      ih (nodup_index_enqueue hindex hdistinct) (hdue.enqueue hdistinct hagain) hlater
    refine ⟨last, hsteps.trans hlast, ?_, ?_⟩
    · rw [run_cons_again queue hagain]
      exact hresults
    · intro index hnot
      have hplace : index ≠ attempt.index := by
        rintro rfl
        exact hnot List.mem_cons_self
      rw [hothers index (mt (mem_index_enqueue hindex queue index).mp hnot),
        Function.update_of_ne hplace]
  | done state attempt queue hdone ih =>
    obtain ⟨⟨hphase, currency, hcall⟩, hrest⟩ := List.forall_mem_cons.mp hdue
    obtain ⟨hfresh, hdistinct⟩ := List.nodup_cons.mp hdistinct
    rw [exchanges_cons_done queue hdone] at hanswers
    obtain ⟨hanswer, hlater⟩ := answeredBy_cons hcall hanswers
    have hsteps := Phases.interleaving_update hcall (hphase ▸ loop_done hanswer hdone)
    obtain ⟨last, hlast, hresults, hothers⟩ :=
      ih hdistinct (Due.update hrest hfresh _) hlater
    refine ⟨last, hsteps.trans hlast, ?_, ?_⟩
    · intro index result hresult
      rw [run_cons_done queue hdone] at hresult
      rcases List.mem_cons.mp hresult with heq | hearlier
      · cases heq
        rw [hothers _ hfresh, Function.update_self]
      · exact hresults index result hearlier
    · intro index hnot
      obtain ⟨hplace, hnot⟩ := not_or.mp (mt List.mem_cons.mpr hnot)
      rw [hothers index hnot, Function.update_of_ne hplace]

theorem interleaving_ofCalls
    (hanswers : AnsweredBy answers calls
      (exchanges engine policy state (firstAttempts (calls.map (·.2))))) :
    ∃ last, Phases.Interleaving policy answers calls .start last ∧
      ∀ index result, (ofCalls engine policy state (calls.map (·.2))).result? index = some result →
        last index = .done result := by
  have hdistinct : ((firstAttempts (calls.map (·.2))).map (·.index)).Nodup := by
    rw [index_firstAttempts]
    exact List.nodup_range
  have hdue : Due calls .start (firstAttempts (calls.map (·.2))) := by
    intro attempt hattempt
    obtain ⟨⟨call, index⟩, hplace, rfl⟩ := List.mem_map.mp hattempt
    have hcall := List.mem_zipIdx_iff_getElem?.mp hplace
    rw [List.getElem?_map] at hcall
    obtain ⟨⟨currency, found⟩, hfound, rfl⟩ := Option.map_eq_some_iff.mp hcall
    exact ⟨rfl, currency, hfound⟩
  obtain ⟨last, hlast, hdone, -⟩ := interleaving_run hdistinct hdue hanswers
  exact ⟨last, hlast, fun index result hresult => hdone index result (mem_results_of_result? hresult)⟩

end Timeline

namespace Processor

variable {σ : Type} {processor : Processor} {engine : Engine σ} {state : σ} {task : Task}
  {answers : Answers}

/-- Where the engine's answers are known, the last one for a currency is that of its loop alone. -/
theorem finalAnswer?_of_answers (hnodup : (processor.currencies task).Nodup)
    (hanswers : ∀ exchange ∈ processor.exchanges engine state task,
      exchange.result = answers exchange.currency exchange.call exchange.failures)
    {currency : String} {call : Call} (hcall : (currency, call) ∈ calls (processor.requests task)) :
    processor.finalAnswer? engine state task currency =
      some (processor.retry.run EngineFault.isRetryable (answers currency call)).result := by
  obtain ⟨index, hindex⟩ := List.mem_iff_getElem?.mp hcall
  obtain ⟨hlt, -⟩ := List.getElem?_eq_some_iff.mp hindex
  obtain ⟨last, hlast, hdone⟩ := Timeline.interleaving_ofCalls hanswers
  rw [map_snd_calls] at hdone
  rw [← List.length_map (·.2), map_snd_calls] at hlt
  obtain ⟨result, hresult⟩ := Option.isSome_iff_exists.mp
    (Timeline.isSome_result?_ofCalls engine processor.retry state hlt)
  rw [finalAnswer?_eq_lastAnswer? hnodup hindex, hresult]
  exact congrArg some (Phases.done_of_interleaving hlast hindex (hdone index result hresult))

/-- An engine that answers a call the same way every time. -/
theorem finalAnswer?_of_steady (hnodup : (processor.currencies task).Nodup)
    (answer : Call → Except EngineFault (List Json))
    (hsteady : ∀ asked call, (engine.answer asked call).1.result = answer call)
    {currency : String} {call : Call} (hcall : (currency, call) ∈ calls (processor.requests task)) :
    processor.finalAnswer? engine state task currency = some (answer call) := by
  let answers : Answers := fun _ call _ => answer call
  have hanswers : ∀ exchange ∈ processor.exchanges engine state task,
      exchange.result = answers exchange.currency exchange.call exchange.failures := by
    intro exchange hexchange
    obtain ⟨asked, hasked⟩ := exists_answer_of_mem_exchanges hexchange
    exact hasked.trans (hsteady asked exchange.call)
  exact (finalAnswer?_of_answers hnodup hanswers hcall).trans
    (congrArg some (RetryPolicy.result_attempt_const _ _ _))

end Processor

end Promotion
