import Promotion.Action
import Promotion.Failure

/-!
# Outcomes

What the shop is answered to an event: the actions on the resource it is about, or the reason why
the event is refused. Actions on the cart's customer and failures that cost only a part of the event
stand beside the answer.
-/

namespace Promotion

structure ErrorEntry where
  code : String
  message : String
deriving DecidableEq, Repr

def Failure.entry (failure : Failure) : ErrorEntry :=
  ⟨failure.code, failure.message⟩

@[simp] theorem Failure.entry_code (failure : Failure) : failure.entry.code = failure.code := rfl

@[simp] theorem Failure.entry_message (failure : Failure) :
    failure.entry.message = failure.message := rfl

def ErrorEntry.toJson (entry : ErrorEntry) : Json :=
  .object [("code", .string entry.code), ("message", .string entry.message)]

inductive Response where
  | updateRequest (actions : List Action)
  | failedValidation (errors : List ErrorEntry)

def Response.toJson : Response → Json
  | updateRequest actions =>
    .object [("responseType", .string "UpdateRequest"),
      ("actions", .array (actions.map (·.toJson)))]
  | failedValidation errors =>
    .object [("responseType", .string "FailedValidation"),
      ("errors", .array (errors.map (·.toJson)))]

structure Outcome where
  response : Response
  /-- Actions on the customer of a cart. -/
  customerActions : List Action
  /-- Failures that cost no more than what one currency would have brought. -/
  errors : List ErrorEntry

namespace Outcome

/-- An event that is refused. -/
def failed (failure : Failure) : Outcome :=
  ⟨.failedValidation [failure.entry], [], []⟩

/-- The actions of the answer. -/
def actions (outcome : Outcome) : List Action :=
  match outcome.response with
  | .updateRequest actions => actions
  | .failedValidation _ => []

def toJson (outcome : Outcome) : Json :=
  .object [("response", outcome.response.toJson),
    ("customerActions", .array (outcome.customerActions.map (·.toJson))),
    ("errors", .array (outcome.errors.map (·.toJson)))]

end Outcome

end Promotion
