import Promotion.Engine.Routing
import Promotion.Session

/-!
# Calls of the engine

A call tells the engine about a session or a profile and gets a list of effects. An engine is any
way to answer calls; `Engine.recorded` and `Engine.scripted` answer from what was prepared.
-/

namespace Promotion

/-- What a call tells the engine. -/
inductive Payload where
  | session (session : Session)
  | profile (profile : Profile)

def Payload.callName : Payload → String
  | session _ => "session"
  | profile _ => "profile"

def Payload.toJson : Payload → Json
  | session s => s.toJson
  | profile p => p.toJson

structure Call where
  credentials : Credentials
  /-- The session or the profile that is told about. -/
  id : String
  payload : Payload

/-- How a call ends, and how many milliseconds later. -/
structure Answer where
  delay : Nat
  result : Except EngineFault (List Json)

/-- A way to answer calls, from a state of its own. -/
structure Engine (σ : Type) where
  answer : σ → Call → Answer × σ

/-! ## Recorded answers -/

/-- The effects recorded for the sessions and profiles of currencies. -/
structure Recording where
  session : Dict (List Json)
  profile : Dict (List Json)

/-- The effects recorded for a call; none where nothing is recorded for its currency. -/
def Recording.effects (recording : Recording) (call : Call) : List Json :=
  let recorded :=
    match call.payload with
    | .session _ => recording.session
    | .profile _ => recording.profile
  (recorded.get? call.credentials.currency).getD []

/-- The engine that always answers with what is recorded. -/
def Engine.recorded (recording : Recording) : Engine Unit where
  answer _ call := (⟨0, .ok (recording.effects call)⟩, ())

namespace Reader

def engineResponse : Reader (List Json) :=
  .record "EngineResponse" (.withDefault "effects" (list any) [])

def recording : Reader Recording :=
  .record "RecordedEngine"
    (Recording.mk <$> .withDefault "session" (dict engineResponse) []
      <*> .withDefault "profile" (dict engineResponse) [])

end Reader

/-! ## Scripted answers -/

/-- The answers that are still to be given, by currency. -/
structure Script where
  session : Dict (List Answer)
  profile : Dict (List Answer)

/-- The answer where none is left: no effects, at once. -/
def Answer.empty : Answer :=
  ⟨0, .ok []⟩

/-- Take the next answer of a currency. -/
def Script.next (answers : Dict (List Answer)) (currency : String) : Answer × Dict (List Answer) :=
  match answers.get? currency with
  | some (answer :: rest) => (answer, answers.insert currency rest)
  | _ => (.empty, answers)

/-- The engine that gives each answer of a script once, in order. -/
def Engine.scripted : Engine Script where
  answer script call :=
    let currency := call.credentials.currency
    match call.payload with
    | .session _ =>
      let (answer, session) := Script.next script.session currency
      (answer, { script with session })
    | .profile _ =>
      let (answer, profile) := Script.next script.profile currency
      (answer, { script with profile })

end Promotion
