import Promotion.Action
import Promotion.Effect
import Promotion.Json.Printer

/-!
# Aggregates

Messages, referral codes, changes of points and the flag for paying with points do not make actions
of their own. They are gathered, one aggregate for each cart or customer, and become a single action
that sets all custom fields, at the place of the first contribution.
-/

namespace Promotion

/-! ## Names of the fields -/

/-- The fields that an aggregate writes. -/
def payWithPointsField : String := "promotion_pay_with_points"
@[inherit_doc payWithPointsField] def referralCodeField : String := "promotion_referral_code"
@[inherit_doc payWithPointsField] def referralCodesField : String := "promotion_referral_codes"
@[inherit_doc payWithPointsField] def notificationsField : String := "promotion_notifications"
@[inherit_doc payWithPointsField] def loyaltyPointsField : String := "promotion_loyalty_points"

/-! ## Gathering -/

/-- What has been gathered for one cart or customer. -/
structure Aggregate where
  typeKey : String
  payWithPoints : Option Bool
  referralCode : Option String
  notifications : List Notification
  loyaltyPoints : List (PointsOperation × LoyaltyPoints)
  referralCodes : List String
  /-- The place of the first contribution. -/
  position : Option Nat
deriving DecidableEq, Repr

namespace Aggregate

/-- Nothing yet, for fields of a type. -/
def empty (typeKey : String) : Aggregate where
  typeKey
  payWithPoints := none
  referralCode := none
  notifications := []
  loyaltyPoints := []
  referralCodes := []
  position := none

/-- The place of a contribution; only the first one counts. -/
def atPosition (a : Aggregate) (position : Nat) : Aggregate :=
  { a with position := some (a.position.getD position) }

def setPayWithPoints (a : Aggregate) (flag : Bool) : Aggregate :=
  { a with payWithPoints := some flag }

/-- The referral code in use; the last one counts. -/
def setReferralCode (a : Aggregate) (code : String) : Aggregate :=
  { a with referralCode := some code }

/-- No referral code is in use any more, which the empty code says. -/
def removeReferralCode (a : Aggregate) : Aggregate :=
  a.setReferralCode ""

def addNotification (a : Aggregate) (notification : Notification) : Aggregate :=
  { a with notifications := a.notifications ++ [notification] }

def addLoyaltyPoints (a : Aggregate) (operation : PointsOperation) (points : LoyaltyPoints) :
    Aggregate :=
  { a with loyaltyPoints := a.loyaltyPoints ++ [(operation, points)] }

/-- A referral code that was created, unless it is there already. -/
def addReferral (a : Aggregate) (code : String) : Aggregate :=
  if code ∈ a.referralCodes then a else { a with referralCodes := a.referralCodes ++ [code] }

/-! ## The action -/

/-- Whether nothing has been gathered. A place alone is nothing. -/
def isEmpty (a : Aggregate) : Bool :=
  a.payWithPoints.isNone && a.referralCode.isNone && a.notifications.isEmpty
    && a.loyaltyPoints.isEmpty && a.referralCodes.isEmpty

/-- The JSON form of a change of points. -/
def pointsEntry (entry : PointsOperation × LoyaltyPoints) : Json :=
  .object (("type", .string entry.1.name) :: entry.2.members)

/-- A list as a text of JSON. -/
def encoded (items : List Json) : Json :=
  .string (Json.array items).compact

/-- A field that is left out where its list is empty. -/
def listField (items : List α) (value : List α → Json) : Option Json :=
  if items.isEmpty then none else some (value items)

/-- A field that is stored only where it has a value. -/
def store (fields : Dict Json) (field : String × Option Json) : Dict Json :=
  match field.2 with
  | some value => fields.insert field.1 value
  | none => fields

def fields (a : Aggregate) : Dict Json :=
  [(payWithPointsField, a.payWithPoints.map .bool),
    (referralCodeField, a.referralCode.map .string),
    (notificationsField, listField a.notifications fun items => encoded (items.map (·.toJson))),
    (loyaltyPointsField, listField a.loyaltyPoints fun items => encoded (items.map pointsEntry)),
    (referralCodesField, listField a.referralCodes fun items => .array (items.map .string))
  ].foldl store []

/-- The action and its place; none where nothing has been gathered. -/
def build (a : Aggregate) : Option (Nat × TypedFields) :=
  if a.isEmpty then none else some (a.position.getD 0, ⟨a.typeKey, a.fields⟩)

def action? (a : Aggregate) : Option Action :=
  a.build.map fun (_, fields) => .setCustomType fields

end Aggregate

end Promotion
