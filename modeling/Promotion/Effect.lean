import Promotion.Decimal.Text
import Promotion.Failure
import Promotion.Json.Reader
import Promotion.Tally

/-!
# Effects

What the engine answers to an update is a list of effects, each of a kind and with data of its kind.
The list may have gaps, kinds that are not known and data that do not fit: these cost the entry and
nothing else.
-/

namespace Promotion

/-! ## Data of effects -/

/-- A discount on the whole cart, in the currency's main unit. -/
structure Discount where
  name : String
  value : Decimal
deriving DecidableEq, Repr

/-- A discount on one item of the session. -/
structure ItemDiscount where
  name : String
  value : Decimal
  position : Nat
deriving DecidableEq, Repr

structure FreeItem where
  sku : String
  name : String
deriving DecidableEq, Repr

structure Notification where
  kind : String
  title : String
  body : String
deriving DecidableEq, Repr

/-- Whether points are given or taken. -/
inductive PointsOperation where
  | add
  | deduct
deriving DecidableEq, Repr

structure LoyaltyPoints where
  name : String
  programId : Int
  value : Number
  subLedgerId : Option String
  recipientIntegrationId : Option String
  startDate : Option String
  expiryDate : Option String
deriving DecidableEq, Repr

/-- What the engine wants done. -/
inductive Effect where
  | setDiscount (discount : Discount)
  | setDiscountPerItem (discount : ItemDiscount)
  | addFreeItem (item : FreeItem)
  | loyaltyPoints (operation : PointsOperation) (points : LoyaltyPoints)
  | referralCreated (code : String)
  | acceptReferral (code : String)
  | rejectReferral (code : String) (reason : Option String)
  | acceptCoupon (code : String)
  | rejectCoupon (code : String) (reason : Option String)
  | showNotification (notification : Notification)
deriving DecidableEq, Repr

/-- The kind by which the engine names an effect. -/
def Effect.kind : Effect → String
  | setDiscount _ => "setDiscount"
  | setDiscountPerItem _ => "setDiscountPerItem"
  | addFreeItem _ => "addFreeItem"
  | loyaltyPoints .add _ => "addLoyaltyPoints"
  | loyaltyPoints .deduct _ => "deductLoyaltyPoints"
  | referralCreated _ => "referralCreated"
  | acceptReferral _ => "acceptReferral"
  | rejectReferral _ _ => "rejectReferral"
  | acceptCoupon _ => "acceptCoupon"
  | rejectCoupon _ _ => "rejectCoupon"
  | showNotification _ => "showNotification"

/-! ## Writing -/

def PointsOperation.name : PointsOperation → String
  | add => "add"
  | deduct => "deduct"

def Notification.toJson (n : Notification) : Json :=
  .object [("notificationType", .string n.kind), ("title", .string n.title),
    ("body", .string n.body)]

/-- The members of a change of points. What is not given is left out. -/
def LoyaltyPoints.members (p : LoyaltyPoints) : List (String × Json) :=
  [("name", .string p.name), ("programId", .ofInt p.programId), ("value", .number p.value)]
    ++ Json.optionalMember "subLedgerId" (p.subLedgerId.map .string)
    ++ Json.optionalMember "recipientIntegrationId" (p.recipientIntegrationId.map .string)
    ++ Json.optionalMember "startDate" (p.startDate.map .string)
    ++ Json.optionalMember "expiryDate" (p.expiryDate.map .string)

/-! ## Reading -/

namespace Reader

/-- What a decimal is called where something else is found. -/
def decimalName : String := "a Decimal type representing a fixed-point number"

/-- A decimal, from a number or from a text. -/
def decimal : Reader Decimal
  | .number (.integer i) => .ok (Decimal.ofInt i)
  | .number (.double x) =>
    match Decimal.ofDouble? x with
    | some a => .ok a
    | none => .error (.value (.number (.double x)) decimalName)
  | .string s =>
    match Decimal.read? s with
    | some a => .ok a
    | none => .error (.value (.string s) decimalName)
  | json => .error (.kind json decimalName)

def discount : Reader Discount :=
  .record "SetDiscount" (Discount.mk <$> .required "name" text <*> .required "value" decimal)

def itemDiscount : Reader ItemDiscount :=
  .record "SetDiscountPerItem"
    (ItemDiscount.mk <$> .required "name" text <*> .required "value" decimal
      <*> .required "position" position)

def freeItem : Reader FreeItem :=
  .record "AddFreeItem" (FreeItem.mk <$> .required "sku" text <*> .required "name" text)

/-- A message. Its texts may be missing. -/
def notification : Reader Notification :=
  .record "Notification"
    (Notification.mk <$> .withDefault "notificationType" text "" <*> .withDefault "title" text ""
      <*> .withDefault "body" text "")

def loyaltyPoints : Reader LoyaltyPoints :=
  .record "LoyaltyPoints"
    (LoyaltyPoints.mk <$> .required "name" text <*> .required "programId" integer64
      <*> .required "value" number <*> .optional "subLedgerId" text
      <*> .optional "recipientIntegrationId" text <*> .optional "startDate" text
      <*> .optional "expiryDate" text)

/-- A code, with the reason of its rejection if there is one. -/
def code : Reader (String × Option String) :=
  .record "CodeProps" (Prod.mk <$> .required "value" text <*> .optional "rejectionReason" text)

/-- An entry of the engine's answer: the kind of effect and its data. The rule it comes from must be
a text where it is given. -/
def effectEntry : Reader (String × Json) :=
  .record "RawEffect"
    ((fun kind data _ => (kind, data)) <$> .required "effectType" text
      <*> .withDefault "props" any .null <*> .optional "ruleName" text)

end Reader

namespace Effect

/-- The effect of a kind, or none where the kind is not known. -/
def reader? (kind : String) : Option (Reader Effect) :=
  match kind with
  | "setDiscount" => some (Reader.discount.map setDiscount)
  | "setDiscountPerItem" => some (Reader.itemDiscount.map setDiscountPerItem)
  | "addFreeItem" => some (Reader.freeItem.map addFreeItem)
  | "addLoyaltyPoints" => some (Reader.loyaltyPoints.map (loyaltyPoints .add))
  | "deductLoyaltyPoints" => some (Reader.loyaltyPoints.map (loyaltyPoints .deduct))
  | "referralCreated" => some (Reader.code.map fun (code, _) => referralCreated code)
  | "acceptReferral" => some (Reader.code.map fun (code, _) => acceptReferral code)
  | "rejectReferral" => some (Reader.code.map fun (code, reason) => rejectReferral code reason)
  | "acceptCoupon" => some (Reader.code.map fun (code, _) => acceptCoupon code)
  | "rejectCoupon" => some (Reader.code.map fun (code, reason) => rejectCoupon code reason)
  | "showNotification" => some (Reader.notification.map showNotification)
  | _ => none

/-- The effect of an entry; none for a gap. -/
def ofJson (json : Json) : Except Failure (Option Effect) :=
  if json.isNull then .ok none
  else
    match Reader.effectEntry json with
    | .error mismatch => .error (.malformedEffect "unknown" (.shape mismatch))
    | .ok (kind, data) =>
      match reader? kind with
      | none => .error (.unsupportedEffect kind)
      | some reader =>
        match reader data with
        | .ok effect => .ok (some effect)
        | .error mismatch => .error (.malformedEffect kind (.shape mismatch))

/-- The effects of a list of entries, without gaps and without entries that cannot be read, which
are counted. -/
def ofEntries : List Json → List Effect × Tally
  | [] => ([], [])
  | entry :: rest =>
    let (effects, tally) := ofEntries rest
    match ofJson entry with
    | .ok (some effect) => (effect :: effects, tally)
    | .ok none => (effects, tally)
    | .error failure => (effects, Tally.one (.skipped failure.code) ++ tally)

end Effect

end Promotion
