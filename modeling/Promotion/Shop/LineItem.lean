import Promotion.Json.Reader
import Promotion.Money
import Promotion.Sku

/-!
# Line items

The line items of a cart or an order, as far as promotions are concerned with them.
-/

namespace Promotion

/-! ## Prices -/

/-- An amount in smallest units. -/
structure ShopMoney where
  currency : String
  cents : Int
deriving DecidableEq, Repr

/-- The amount as money of the smallest unit. -/
def ShopMoney.toMoney (m : ShopMoney) : Money :=
  .of .cent m.currency (.ofInt m.cents)

/-! ## Custom fields -/

abbrev CustomFields := Dict Json

/-- A custom field that is a truth value; false where it is anything else. -/
def flagField (custom : Option CustomFields) (name : String) : Bool :=
  ((custom.bind fun fields => fields.get? name).bind Json.bool?).getD false

/-- A custom field that is a text other than the empty one. -/
def codeField? (custom : Option CustomFields) (name : String) : Option String :=
  ((custom.bind fun fields => fields.get? name).bind Json.string?).filter (· ≠ "")

/-- The field that marks a gift. -/
def freeItemField : String := "promotion_free_item"

/-! ## Variants -/

structure Attribute where
  name : String
  value : Json

structure Variant where
  id : Option Nat
  sku : Option String
  attributes : List Attribute

/-- A variant without id, SKU and attributes. -/
def Variant.unknown : Variant :=
  ⟨none, none, []⟩

/-- The attributes by name. Of several with one name the last counts. -/
def Variant.attributeTree (v : Variant) : Json :=
  .object (Dict.ofList (v.attributes.map fun a => (a.name, a.value)))

/-! ## Line items -/

structure LineItem where
  id : String
  productId : String
  /-- Names by language. -/
  name : Dict String
  variant : Variant
  quantity : Nat
  price : ShopMoney
  custom : Option CustomFields

namespace LineItem

/-- Whether the item is a gift that a promotion has added. -/
def isFree (item : LineItem) : Bool :=
  flagField item.custom freeItemField

/-- The name in a language, else in the first language there is, else nothing. -/
def localizedName (item : LineItem) (language : String) : String :=
  match item.name.get? language with
  | some name => name
  | none => (item.name.head?.map (·.2)).getD ""

/-- The fields that identify the item towards the engine. -/
def reference (item : LineItem) : ItemReference :=
  ⟨item.productId, item.variant.id, item.variant.sku⟩

end LineItem

/-! ## Reading -/

namespace Reader

def shopMoney : Reader ShopMoney :=
  .record "TypedMoney"
    (ShopMoney.mk <$> .required "currencyCode" text <*> .required "centAmount" integer64)

def customFields : Reader CustomFields :=
  .record "CustomFields" (.withDefault "fields" (dict any) [])

def variantAttribute : Reader Attribute :=
  .record "Attribute" (Attribute.mk <$> .required "name" text <*> .withDefault "value" any .null)

def variant : Reader Variant :=
  .record "ProductVariant"
    (Variant.mk <$> .optional "id" natural64 <*> .optional "sku" text
      <*> .withDefault "attributes" (list variantAttribute) [])

def price : Reader ShopMoney :=
  .record "Price" (.required "value" shopMoney)

def lineItem : Reader LineItem :=
  .record "LineItem"
    (LineItem.mk <$> .required "id" text <*> .required "productId" text
      <*> .withDefault "name" (dict text) [] <*> .withDefault "variant" variant .unknown
      <*> .required "quantity" natural64 <*> .required "price" price
      <*> .optional "custom" customFields)

end Reader

end Promotion
