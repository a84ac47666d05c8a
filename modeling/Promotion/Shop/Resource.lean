import Promotion.Shop.LineItem

/-!
# Carts, orders and events

The resources of the shop, as far as promotions are concerned with them, and the events by which it
reports them.
-/

namespace Promotion

/-- A line that is no product, such as a discount. -/
structure CustomLineItem where
  id : String
  slug : String
deriving DecidableEq, Repr

structure Cart where
  id : String
  customerId : Option String
  anonymousId : Option String
  totalPrice : ShopMoney
  lineItems : List LineItem
  customLineItems : List CustomLineItem
  custom : Option CustomFields

def Cart.currency (cart : Cart) : String :=
  cart.totalPrice.currency

/-- The custom fields as one value. -/
def Cart.customTree (cart : Cart) : Json :=
  .object (cart.custom.getD [])

structure Order where
  id : String
  totalPrice : ShopMoney
  /-- The cart that the order was made from. -/
  cartId : Option String
  customerId : Option String
  anonymousId : Option String
  lineItems : List LineItem

def Order.currency (order : Order) : String :=
  order.totalPrice.currency

/-! ## Events -/

inductive EventAction where
  | create
  | update
deriving DecidableEq, Repr

inductive ResourceKind where
  | cart
  | customer
  | order
deriving DecidableEq, Repr

/-- A resource that has not been read yet. -/
structure Resource where
  kind : ResourceKind
  id : String
  content : Json

structure Event where
  action : EventAction
  resource : Resource

/-! ## Reading -/

namespace Reader

def customLineItem : Reader CustomLineItem :=
  .record "CustomLineItem"
    (CustomLineItem.mk <$> .required "id" text <*> .required "slug" text)

def cart : Reader Cart :=
  .record "Cart"
    (Cart.mk <$> .required "id" text <*> .optional "customerId" text
      <*> .optional "anonymousId" text <*> .required "totalPrice" shopMoney
      <*> .withDefault "lineItems" (list lineItem) []
      <*> .withDefault "customLineItems" (list customLineItem) []
      <*> .optional "custom" customFields)

/-- The id of a resource that is referred to. -/
def resourceId : Reader String :=
  .record "Reference" (.required "id" text)

def order : Reader Order :=
  .record "Order"
    (Order.mk <$> .required "id" text <*> .required "totalPrice" shopMoney
      <*> .optional "cart" resourceId <*> .optional "customerId" text
      <*> .optional "anonymousId" text <*> .withDefault "lineItems" (list lineItem) [])

def eventAction : Reader EventAction :=
  oneOf [("Create", .create), ("Update", .update)]

def resourceKind : Reader ResourceKind :=
  oneOf [("cart", .cart), ("customer", .customer), ("order", .order)]

/-- A resource with its content left unread. -/
def resource : Reader Resource :=
  .record "ResourceEnvelope"
    (Resource.mk <$> .required "typeId" resourceKind <*> .required "id" text
      <*> .withDefault "obj" any .null)

def event : Reader Event :=
  .record "ExtensionInput"
    (Event.mk <$> .required "action" eventAction <*> .required "resource" resource)

end Reader

end Promotion
