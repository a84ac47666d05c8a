import Promotion.Engine.Call
import Promotion.Json.Outline

/-!
# Recorded events

A file holds a recorded event and the engine's answers to it. Its text is taken apart field by
field: what no field asks for is passed over, and of what a field asks for every part has to fit.
-/

namespace Promotion

/-- An event and the engine's answers to it. -/
structure Fixture where
  event : Json
  responses : Recording

namespace Fixture

/-- A value that lies inside of `level` arrays and objects. -/
def value? (level : Nat) (text : List Char) : Option Json :=
  (Json.parseWithin (Json.depthLimit - level) text).map Json.sorted

/-- A part of a record, which is empty where it is not given. -/
def part? {α : Type} (read : List Char → Option (List α)) (fields : List (String × List Char))
    (name : String) : Option (List α) :=
  match fields.lookup name with
  | some text => read text
  | none => some []

/-- The effects in an answer of the engine. -/
def answer? (text : List Char) : Option (List Json) := do
  let fields ← Json.fieldTexts? ["effects"] text
  part? (Json.itemsOf? (value? 5)) fields "effects"

def responses? (text : List Char) : Option Recording := do
  let fields ← Json.fieldTexts? ["session", "profile"] text
  let session ← part? (Json.membersOf? answer?) fields "session"
  let profile ← part? (Json.membersOf? answer?) fields "profile"
  some ⟨session, profile⟩

/-- The recorded event of a text. -/
def read? (text : String) : Option Fixture := do
  let fields ← Json.fieldTexts? ["event", "responses"] text.toList
  let event ← (fields.lookup "event").bind (value? 1)
  let responses ← ((fields.lookup "responses").map responses?).getD (some ⟨[], []⟩)
  some ⟨event, responses⟩

end Fixture

end Promotion
