import Promotion.Aggregate
import Promotion.Decimal.Double
import Promotion.Mapping.Evaluator
import Promotion.Settings
import Promotion.Shop.Resource

/-!
# Sessions and profiles

What the engine is told about a cart, an order or a customer. Gifts that a promotion has added are
kept from it, and so are items that have no SKU under the policy.
-/

namespace Promotion

/-- The field in which a cart keeps the coupon in use. -/
def couponCodeField : String := "promotion_coupon_code"

structure SessionItem where
  name : String
  sku : String
  quantity : Nat
  /-- The price of one piece in the main unit. -/
  price : Decimal
  attributes : Dict Json

inductive SessionState where
  | opened
  | closed
deriving DecidableEq, Repr

/-- What the engine is told about a cart or an order. -/
structure Session where
  profileId : String
  state : SessionState
  couponCodes : List String
  referralCode : Option String
  items : List SessionItem
  attributes : Dict Json

/-- What the engine is told about a customer. -/
structure Profile where
  attributes : Dict Json

/-! ## Writing -/

/-- The JSON form of an item, without attributes where there are none. -/
def SessionItem.toJson (item : SessionItem) : Json :=
  .object
    ([("name", .string item.name), ("sku", .string item.sku), ("quantity", .ofNat item.quantity),
      ("price", .number (.double item.price.toDouble))]
      ++ Json.optionalMember "attributes"
        (if item.attributes.isEmpty then none else some (.object item.attributes)))

def SessionState.name : SessionState → String
  | opened => "open"
  | closed => "closed"

def Session.toJson (s : Session) : Json :=
  .object
    ([("profileId", .string s.profileId), ("state", .string s.state.name),
      ("couponCodes", .array (s.couponCodes.map .string))]
      ++ Json.optionalMember "referralCode" (s.referralCode.map .string)
      ++ [("cartItems", .array (s.items.map (·.toJson))), ("attributes", .object s.attributes)])

def Profile.toJson (p : Profile) : Json :=
  .object [("attributes", .object p.attributes)]

/-! ## Projection -/

namespace Settings

/-- An item of a session; none for a gift and for an item without SKU. -/
def sessionItem? (settings : Settings) (item : LineItem) : Option SessionItem :=
  if item.isFree then none
  else
    (settings.resolver.encode item.reference).map fun sku =>
      { name := item.localizedName settings.language
        sku
        quantity := item.quantity
        price := item.price.toMoney.amount
        attributes :=
          Mapping.evaluate settings.language settings.itemRules item.variant.attributeTree }

/-- The items of a session, in the order of the line items. -/
def sessionItems (settings : Settings) (items : List LineItem) : List SessionItem :=
  items.filterMap settings.sessionItem?

/-- The profile a session belongs to: the customer, or the visitor without an account. -/
def profileId (customerId anonymousId : Option String) : String :=
  (customerId <|> anonymousId).getD ""

def paysWithPoints (cart : Cart) : Bool :=
  flagField cart.custom payWithPointsField

/-- The attributes of a cart's session: those of the rules, and the flag for paying with points
where an attribute is configured for it. -/
def cartAttributes (settings : Settings) (cart : Cart) : Dict Json :=
  let attributes := Mapping.evaluate settings.language settings.cartRules cart.customTree
  match settings.payWithPointsAttribute with
  | some name => attributes.insert name (.bool (paysWithPoints cart))
  | none => attributes

/-- The open session of a cart. -/
def cartSession (settings : Settings) (cart : Cart) : Session where
  profileId := profileId cart.customerId cart.anonymousId
  state := .opened
  couponCodes := (codeField? cart.custom couponCodeField).toList
  referralCode := codeField? cart.custom referralCodeField
  items := settings.sessionItems cart.lineItems
  attributes := settings.cartAttributes cart

/-- The closed session of an order. -/
def orderSession (settings : Settings) (order : Order) : Session where
  profileId := profileId order.customerId order.anonymousId
  state := .closed
  couponCodes := []
  referralCode := none
  items := settings.sessionItems order.lineItems
  attributes := []

def customerProfile (settings : Settings) (customer : Json) : Profile where
  attributes := Mapping.evaluate settings.language settings.customerRules customer

end Settings

end Promotion
