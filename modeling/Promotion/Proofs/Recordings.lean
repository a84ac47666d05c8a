import Promotion.Proofs.Interleaving
import Promotion.Proofs.RetryLoop
import Promotion.Replay

/-!
# Recordings

A recording keeps one answer of the engine for each currency whose credentials were used. A live
engine may be disturbed before it gives that answer, by faults that pass and are no more than there
are retries. The retries take the disturbances in, and neither lose the answer nor take it twice, so
that an event handled with the recording has the outcome of the live run
(`Processor.handle_live_eq_replayed`).
-/

namespace Promotion

/-- A disturbance of the connection, which the next attempt may not meet. -/
def EngineFault.IsPassing (fault : EngineFault) : Prop :=
  fault = .timeout ∨ ∃ message, fault = .transport message

theorem EngineFault.isRetryable_iff {fault : EngineFault} :
    fault.isRetryable ↔ fault.IsPassing := by
  cases fault <;> simp [isRetryable, IsPassing]

/-- What an attempt after so many failures brings, where faults come before the entries. -/
def answerAfter (faults : List EngineFault) (entries : List Json) (failures : Nat) :
    Except EngineFault (List Json) :=
  match faults[failures]? with
  | some fault => .error fault
  | none => .ok entries

-- ---------------------------------------------------------------------------
-- One call
-- ---------------------------------------------------------------------------

namespace RetryPolicy

variable {policy : RetryPolicy} {faults : List EngineFault}

/-- The call after the last fault is the last call, if there are retries enough to come to it. -/
theorem lastCall_answerAfter (henough : faults.length ≤ policy.maxRetries)
    (hpassing : ∀ fault ∈ faults, fault.IsPassing) (entries : List Json) :
    policy.lastCall EngineFault.isRetryable (answerAfter faults entries) = faults.length := by
  obtain ⟨-, hbefore, hlast⟩ :=
    lastCall_spec policy EngineFault.isRetryable (answerAfter faults entries)
  apply Nat.le_antisymm
  · -- a call before the last one cannot have brought the entries
    by_contra hlater
    have hnot := hbefore faults.length (Nat.lt_of_not_le hlater)
    simp [answerAfter, isFinal] at hnot
  · by_contra hearlier
    have hlt := Nat.lt_of_not_le hearlier
    rcases hlast with hfinal | hmax
    · have hfault := EngineFault.isRetryable_iff.mpr (hpassing _ (List.getElem_mem hlt))
      simp [answerAfter, List.getElem?_eq_getElem hlt, isFinal, hfault] at hfinal
    · omega

/-- Faults that pass in time do not change what a call brings. -/
theorem result_run_answerAfter (henough : faults.length ≤ policy.maxRetries)
    (hpassing : ∀ fault ∈ faults, fault.IsPassing) (entries : List Json) :
    (policy.run EngineFault.isRetryable (answerAfter faults entries)).result = .ok entries := by
  rw [run_eq, lastCall_answerAfter henough hpassing]
  simp [answerAfter]

end RetryPolicy

-- ---------------------------------------------------------------------------
-- All calls of an event
-- ---------------------------------------------------------------------------

namespace Processor

variable {σ τ : Type} {processor : Processor} {engine : Engine σ} {state : σ} {other : Engine τ}
  {start : τ} {task : Task} {recording : Recording} {faults otherFaults : String → List EngineFault}

/-- In the run of a task an engine brings what is recorded: the attempts at the call for a currency
end in the currency's faults, which pass and are no more than the retries, and then in the effects
that the recording has, among its sessions or its profiles, for the currency of the credentials that
the call is made with. Where it has none there are no effects. -/
structure Brings (processor : Processor) (engine : Engine σ) (state : σ) (task : Task)
    (recording : Recording) (faults : String → List EngineFault) : Prop where
  enough : ∀ currency, (faults currency).length ≤ processor.retry.maxRetries
  passing : ∀ currency, ∀ fault ∈ faults currency, fault.IsPassing
  session : ∀ exchange ∈ processor.exchanges engine state task, ∀ session,
    exchange.call.payload = .session session →
    exchange.result = answerAfter (faults exchange.currency)
      ((recording.session.get? exchange.call.credentials.currency).getD []) exchange.failures
  profile : ∀ exchange ∈ processor.exchanges engine state task, ∀ profile,
    exchange.call.payload = .profile profile →
    exchange.result = answerAfter (faults exchange.currency)
      ((recording.profile.get? exchange.call.credentials.currency).getD []) exchange.failures

theorem Brings.answers (h : processor.Brings engine state task recording faults)
    {exchange : Exchange} (hexchange : exchange ∈ processor.exchanges engine state task) :
    exchange.result = answerAfter (faults exchange.currency) (recording.effects exchange.call)
      exchange.failures := by
  unfold Recording.effects
  cases hpayload : exchange.call.payload with
  | session session => exact h.session exchange hexchange session hpayload
  | profile profile => exact h.profile exchange hexchange profile hpayload

/-- The recording itself brings what is recorded, without any fault. -/
theorem brings_recorded (processor : Processor) (task : Task) (recording : Recording) :
    processor.Brings (.recorded recording) () task recording fun _ => [] where
  enough _ := Nat.zero_le _
  passing _ := List.forall_mem_nil _
  session exchange hexchange session hpayload := by
    obtain ⟨asked, hasked⟩ := exists_answer_of_mem_exchanges hexchange
    simp only [Engine.recorded, Recording.effects, hpayload] at hasked
    exact hasked
  profile exchange hexchange profile hpayload := by
    obtain ⟨asked, hasked⟩ := exists_answer_of_mem_exchanges hexchange
    simp only [Engine.recorded, Recording.effects, hpayload] at hasked
    exact hasked

theorem result?_of_brings (hnodup : (processor.currencies task).Nodup)
    (h : processor.Brings engine state task recording faults) {index : Nat} {currency : String}
    {call : Call} (hcall : (calls (processor.requests task))[index]? = some (currency, call)) :
    (Timeline.ofCalls engine processor.retry state (routed (processor.requests task))).result?
      index = some (.ok (recording.effects call)) := by
  let answers : Answers := fun currency call =>
    answerAfter (faults currency) (recording.effects call)
  have hanswers : ∀ exchange ∈ processor.exchanges engine state task,
      exchange.result = answers exchange.currency exchange.call exchange.failures :=
    fun _ => h.answers
  have hfinal := finalAnswer?_of_answers hnodup hanswers (List.mem_of_getElem? hcall)
  rw [← finalAnswer?_eq_lastAnswer? hnodup hcall, hfinal]
  exact congrArg some
    (RetryPolicy.result_run_answerAfter (h.enough currency) (h.passing currency) _)

/-- The calls of a task bring the same, whichever engine brings the recording. -/
theorem results_of_brings (hnodup : (processor.currencies task).Nodup)
    (h : processor.Brings engine state task recording faults) :
    (processor.callAll engine state (processor.requests task)).2 =
      results (processor.requests task) fun index =>
        .ok (recording.effects (routed (processor.requests task))[index]) := by
  refine congrArg (results (processor.requests task)) (funext fun index => ?_)
  have hplace : (calls (processor.requests task))[index.val]?.map (·.2) =
      some (routed (processor.requests task))[index] := by
    rw [← List.getElem?_map, map_snd_calls]
    exact List.getElem?_eq_getElem index.isLt
  obtain ⟨⟨currency, call⟩, hcall, hsame⟩ := Option.map_eq_some_iff.mp hplace
  rw [← hsame]
  exact Option.get_of_eq_some _ (result?_of_brings hnodup h hcall)

/-- Engines that bring the same recording give a task the same outcome, and count the same. -/
theorem handleTask_of_brings (hnodup : (processor.currencies task).Nodup)
    (h : processor.Brings engine state task recording faults)
    (hother : processor.Brings other start task recording otherFaults) :
    (processor.handleTask engine state task).outcome =
        (processor.handleTask other start task).outcome ∧
      (processor.handleTask engine state task).tally =
        (processor.handleTask other start task).tally := by
  have hresults := (results_of_brings hnodup h).trans (results_of_brings hnodup hother).symm
  simp only [handleTask, hresults, and_self]

/-- Replaying a recording has the outcome of the live run, and counts what was counted there. The
live engine may be any one that, in each call of the event, is disturbed no more often than there
are retries and then answers with what is recorded for the currency of the credentials it is called
with, be they those of the fallback. So a file with the event and the recording makes the command
print the live outcome. -/
theorem handle_live_eq_replayed (processor : Processor)
    (hsorted : processor.routing.credentials.Sorted) (recording : Recording)
    (faults : String → List EngineFault) (engine : Engine σ) (state : σ) (event : Json)
    (hlive : ∀ task, readEvent event = .ok task →
      processor.Brings engine state task recording faults) :
    let live := processor.handle engine state event
    let replayed := processor.handle (.recorded recording) () event
    (live.outcome = replayed.outcome ∧ live.tally = replayed.tally) ∧
      ∀ {path around config text}, AppConfig.load Replay.name around = .ok config →
        ofConfig config.promotion = .ok processor → around.file? path = some text →
        Fixture.read? text = some ⟨event, recording⟩ →
        Replay.outcome path around = .ok live.outcome := by
  intro live replayed
  have hsame : live.outcome = replayed.outcome ∧ live.tally = replayed.tally := by
    simp only [live, replayed, handle]
    cases hevent : readEvent event with
    | error failure => exact ⟨rfl, rfl⟩
    | ok task =>
      have hnodup : (processor.currencies task).Nodup :=
        (pairwise_currencies hsorted task).imp String.ne_of_lt
      exact handleTask_of_brings hnodup (hlive task hevent)
        (brings_recorded processor task recording)
  refine ⟨hsame, ?_⟩
  intro path around config text hload hprocessor hfile hread
  simp only [Replay.outcome, hload, hfile, hread, hprocessor, Except.mapError, bind, Except.bind]
  exact congrArg Except.ok hsame.1.symm

/-- A new cart has a currency that is served by the fallback's credentials, so that two calls go
there, and the first attempt of all times out. What is recorded for the cart's own currency is not
asked for. -/
theorem handle_live_eq_replayed_by_fallback :
    let processor : Processor :=
      ⟨⟨⟨.variantSku, '_'⟩, .halfEven, "en", none, none, [], [], [], ⟨"line", "cart", "customer"⟩⟩,
        ⟨[("EUR", ⟨"EUR", "key", "https://engine.test"⟩)], some "EUR"⟩, ⟨1, 100, 100⟩⟩
    let created (code : String) : Json := .object
      [("effectType", .string "referralCreated"), ("props", .object [("value", .string code)])]
    let recording : Recording := ⟨[("EUR", [created "FIRST"]), ("GBP", [created "SECOND"])], []⟩
    let faults (currency : String) : List EngineFault :=
      if currency = "EUR" then [.timeout] else []
    -- the state counts the attempts at both calls
    let engine : Engine Nat := ⟨fun attempts _ =>
      (⟨300, if attempts = 0 then .error .timeout else .ok [created "FIRST"]⟩, attempts + 1)⟩
    let event : Json := .object
      [("action", .string "Create"), ("resource", .object
        [("id", .string "cart-1"), ("obj", .object
          [("id", .string "cart-1"), ("totalPrice", .object
            [("centAmount", .ofNat 0), ("currencyCode", .string "gbp")])]),
          ("typeId", .string "cart")])]
    let task : Task := .cart .create ⟨"cart-1", none, none, ⟨"gbp", 0⟩, [], [], none⟩
    let live := processor.handle engine 0 event
    let replayed := processor.handle (.recorded recording) () event
    (processor.routing.credentials.Sorted ∧ readEvent event = .ok task ∧
        processor.Brings engine 0 task recording faults) ∧
      (live.outcome = replayed.outcome ∧ live.tally = replayed.tally) ∧
      replayed.outcome.customerActions =
        [.setCustomType ⟨"customer", [("promotion_referral_codes", .array [.string "FIRST"])]⟩] := by
  intro processor created recording faults engine event task live replayed
  have hsorted : processor.routing.credentials.Sorted := List.pairwise_singleton _ _
  have hevent : readEvent event = .ok task := rfl
  have hcurrencies : processor.currencies task = ["EUR", "GBP"] := by decide
  let call : Call := ⟨⟨"EUR", "key", "https://engine.test"⟩, "cart-1",
    .session (processor.settings.cartSession ⟨"cart-1", none, none, ⟨"gbp", 0⟩, [], [], none⟩)⟩
  have hcalls : calls (processor.requests task) = [("EUR", call), ("GBP", call)] := by
    rw [requests, hcurrencies]
    rfl
  have hstart : Timeline.firstAttempts [call, call] = [⟨0, call, 0, 0⟩, ⟨1, call, 0, 0⟩] := rfl
  have hdelay : processor.retry.delay 0 = 100 := by decide +kernel
  have hagain : Timeline.again? processor.retry ⟨0, call, 0, 0⟩ (engine.answer 0 call).1 =
      some ⟨0, call, 1, 400⟩ :=
    congrArg (fun wait => some (Attempt.mk 0 call 1 (0 + 300 + wait))) hdelay
  have hqueue : Timeline.enqueue ⟨0, call, 1, 400⟩ [⟨1, call, 0, 0⟩] =
      [⟨1, call, 0, 0⟩, ⟨0, call, 1, 400⟩] := rfl
  have hmade : Timeline.exchanges engine processor.retry 0 [⟨0, call, 0, 0⟩, ⟨1, call, 0, 0⟩] =
      [(⟨0, call, 0, 0⟩, ⟨300, .error .timeout⟩),
        (⟨1, call, 0, 0⟩, ⟨300, .ok [created "FIRST"]⟩),
        (⟨0, call, 1, 400⟩, ⟨300, .ok [created "FIRST"]⟩)] := by
    rw [Timeline.exchanges_cons_again _ hagain, hqueue, Timeline.exchanges_cons_done _ rfl,
      Timeline.exchanges_cons_done _ rfl, Timeline.exchanges_nil]
    rfl
  have hexchanges : processor.exchanges engine 0 task =
      [⟨"EUR", call, 0, .error .timeout⟩, ⟨"GBP", call, 0, .ok [created "FIRST"]⟩,
        ⟨"EUR", call, 1, .ok [created "FIRST"]⟩] := by
    simp only [exchanges, hcalls, List.map_cons, List.map_nil, hstart, hmade]
    rfl
  have hbrings : processor.Brings engine 0 task recording faults := by
    refine ⟨?_, ?_, ?_, ?_⟩
    · intro currency
      simp only [faults]
      split <;> decide
    · intro currency fault hfault
      simp only [faults] at hfault
      split at hfault
      · exact .inl (List.mem_singleton.mp hfault)
      · cases hfault
    · rw [hexchanges]
      exact List.forall_mem_cons.mpr ⟨fun _ _ => rfl,
        List.forall_mem_cons.mpr ⟨fun _ _ => rfl, List.forall_mem_singleton.mpr fun _ _ => rfl⟩⟩
    · rw [hexchanges]
      simp [call]
  have hlive : ∀ task, readEvent event = .ok task →
      processor.Brings engine 0 task recording faults := by
    intro other hother
    cases hevent.symm.trans hother
    exact hbrings
  obtain ⟨hsame, -⟩ :=
    handle_live_eq_replayed processor hsorted recording faults engine 0 event hlive
  refine ⟨⟨hsorted, hevent, hbrings⟩, hsame, ?_⟩
  have hnodup : (processor.currencies task).Nodup := by
    rw [hcurrencies]
    decide
  rw [outcome_handle hevent, finalResults,
    results_of_brings hnodup (brings_recorded processor task recording)]
  rfl

end Processor

end Promotion
