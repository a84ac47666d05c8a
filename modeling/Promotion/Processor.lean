import Promotion.Engine.Timeline
import Promotion.Outcome
import Promotion.Update

/-!
# Processing events

An event asks for one call of the engine per currency. The effects that come back are put together
in the order of the currencies, so that the outcome does not depend on when each call was answered:
`Processor.requests` says which calls are made, `Processor.conclude` what comes of their results,
and `Processor.handle` makes the calls side by side in between.
-/

namespace Promotion

structure Processor where
  settings : Settings
  routing : Routing
  retry : RetryPolicy

/-- What an event is about, when it has been read. -/
inductive Task where
  | cart (action : EventAction) (cart : Cart)
  | customer (id : String) (content : Json)
  | order (order : Order)

/-- What comes of the engine's effects: actions on the resource, and on a cart's customer. -/
structure Handled where
  actions : List Action
  customerActions : List Action
  tally : Tally

/-- What came of the calls for one currency. -/
abbrev CurrencyResult := String × Except Failure (List Effect)

namespace Processor

def ofConfig (config : PromotionConfig) : Except Failure Processor :=
  (Settings.load config).map fun loaded =>
    ⟨loaded.settings, .ofConfig config.engine, .ofConfig config.engine⟩

/-! ## Reading events -/

def readTask (event : Event) : Except Mismatch Task :=
  match event.resource.kind with
  | .cart => (Reader.cart event.resource.content).map (.cart event.action)
  | .customer => .ok (.customer event.resource.id event.resource.content)
  | .order => (Reader.order event.resource.content).map .order

/-- What an event in its JSON form is about. -/
def readEvent (json : Json) : Except Failure Task :=
  (do readTask (← Reader.event json)).mapError .invalidEvent

/-! ## Calls -/

variable (processor : Processor)

/-- The currencies for which the engine is called, in order. A new cart has a session in every
currency, so that referral codes are created in all of them. -/
def currencies (task : Task) : List String :=
  match task with
  | .cart .create cart => processor.routing.currenciesWith (Text.upper cart.currency)
  | .cart .update cart => [Text.upper cart.currency]
  | .customer _ _ => processor.routing.currencies
  | .order order => [Text.upper order.currency]

/-- What the engine is told, and about what. -/
def message (task : Task) : String × Payload :=
  match task with
  | .cart _ cart => (cart.id, .session (processor.settings.cartSession cart))
  | .customer id content => (id, .profile (processor.settings.customerProfile content))
  | .order order =>
    (order.cartId.getD order.id, .session (processor.settings.orderSession order))

/-- The call for a currency, if it has credentials. -/
def request (task : Task) (currency : String) : Except Failure Call :=
  (processor.routing.resolve currency).map fun credentials =>
    let (id, payload) := processor.message task
    ⟨credentials, id, payload⟩

/-- The calls for all currencies of a task. -/
def requests (task : Task) : List (String × Except Failure Call) :=
  (processor.currencies task).map fun currency => (currency, processor.request task currency)

/-! ## Results -/

/-- The effects of a call that is done, and what is counted. -/
def effectsOf (currency : String) :
    Except EngineFault (List Json) → Except Failure (List Effect) × Tally
  | .ok entries =>
    let (effects, tally) := Effect.ofEntries entries
    (.ok effects, Tally.one (.engineCalls currency "ok") ++ tally)
  | .error fault =>
    (.error (.engine currency fault), Tally.one (.engineCalls currency "error"))

/-- Results without failures, and the failures. The first fatal one takes the place of everything.
-/
def settle : List CurrencyResult → Except Failure (List (String × List Effect) × List Failure)
  | [] => .ok ([], [])
  | (currency, .ok effects) :: rest => do
    let (settled, failures) ← settle rest
    .ok ((currency, effects) :: settled, failures)
  | (_, .error failure) :: rest =>
    if failure.isFatal then .error failure
    else do
      let (settled, failures) ← settle rest
      .ok (settled, failure :: failures)

/-- The actions for a cart: those of its own currency's effects, and for its customer the referral
codes created in any currency. -/
def concludeCart (cart : Cart) (settled : List (String × List Effect)) : Handled :=
  let settings := processor.settings
  let currency := Text.upper cart.currency
  let own := (settled.lookup currency).getD []
  let others := (settled.filter (·.1 ≠ currency)).flatMap (·.2)
  let update := settings.cartUpdate cart (settings.cartSession cart) own
  let (customer, tally) := Settings.collectReferrals update.customer others
  ⟨update.actions, customer.action?.toList, update.tally ++ tally⟩

/-- The actions for a task whose calls have all been settled. -/
def concludeSettled (task : Task) (settled : List (String × List Effect)) : Handled :=
  match task with
  | .cart _ cart => processor.concludeCart cart settled
  | .customer _ _ =>
    let (actions, tally) := processor.settings.profileActions (settled.flatMap (·.2))
    ⟨actions, [], tally⟩
  | .order _ => ⟨[], [], []⟩

/-- The outcome of a task whose calls are all done. -/
def conclude (task : Task) (results : List CurrencyResult) : Outcome × Tally :=
  match settle results with
  | .error failure => (.failed failure, [])
  | .ok (settled, failures) =>
    let handled := processor.concludeSettled task settled
    (⟨.updateRequest handled.actions, handled.customerActions, failures.map (·.entry)⟩,
      handled.tally)

/-! ## Events -/

structure Handling (σ : Type) where
  outcome : Outcome
  /-- The attempts at calling the engine. -/
  log : List CallRecord
  tally : Tally
  /-- The milliseconds until everything was done. -/
  duration : Nat
  engine : σ

/-- The calls that can be made, in order. -/
def routed (requests : List (String × Except Failure Call)) : List Call :=
  requests.filterMap fun (_, request) => request.toOption

/-- The result for each currency, where `answer` says how the call in each place went. -/
def results : (requests : List (String × Except Failure Call)) →
    (answer : Fin (routed requests).length → Except EngineFault (List Json)) →
    List CurrencyResult × Tally
  | [], _ => ([], [])
  | (currency, .error failure) :: rest, answer =>
    let (rest, tally) := results rest answer
    ((currency, .error failure) :: rest, tally)
  | (currency, .ok _) :: rest, answer =>
    let (result, counted) := effectsOf currency (answer ⟨0, Nat.succ_pos _⟩)
    let (rest, tally) := results rest fun index => answer index.succ
    ((currency, result) :: rest, counted ++ tally)

/-- Make the calls that can be made, all of them started at once: how they went, the result for each
currency, and what is counted. -/
def callAll {σ : Type} (engine : Engine σ) (state : σ)
    (requests : List (String × Except Failure Call)) : Timeline σ × List CurrencyResult × Tally :=
  let timeline := Timeline.ofCalls engine processor.retry state (routed requests)
  (timeline, results requests fun index =>
    (timeline.result? index).get (Timeline.isSome_result?_ofCalls _ _ _ index.isLt))

def handleTask {σ : Type} (engine : Engine σ) (state : σ) (task : Task) : Handling σ :=
  let (timeline, results, callTally) := processor.callAll engine state (processor.requests task)
  let (outcome, tally) := processor.conclude task results
  ⟨outcome, timeline.log, callTally ++ tally, timeline.finished, timeline.engine⟩

/-- Handle an event in its JSON form. -/
def handle {σ : Type} (engine : Engine σ) (state : σ) (event : Json) : Handling σ :=
  match readEvent event with
  | .error failure => ⟨.failed failure, [], [], 0, state⟩
  | .ok task => processor.handleTask engine state task

/-- Handle events one after another, each from the engine's state after the one before. -/
def handleAll {σ : Type} (engine : Engine σ) (state : σ) : List Json → List (Handling σ)
  | [] => []
  | event :: events =>
    let handling := processor.handle engine state event
    handling :: handleAll engine handling.engine events

end Processor

end Promotion
