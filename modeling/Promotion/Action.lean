import Promotion.Json.Basic
import Promotion.Money
import Promotion.Sku

/-!
# Update actions

What the shop is asked to do with a cart or a customer, and the JSON form in which it is asked. An
action starts with its name; what it does not have is left out.
-/

namespace Promotion

/-- Custom fields together with the key of the type that declares them. -/
structure TypedFields where
  typeKey : String
  fields : Dict Json

structure ResourceIdentifier where
  id : String
  typeId : String
deriving DecidableEq, Repr

/-- A change to a cart or a customer. -/
inductive Action where
  | addCustomLineItem (name : Dict String) (quantity : Nat) (money : CentMoney) (slug : String)
      (taxCategory : Option ResourceIdentifier) (custom : Option TypedFields)
  | removeCustomLineItem (id : String)
  | addLineItem (identity : Identity) (quantity : Nat) (custom : Option TypedFields)
  | removeLineItem (id : String)
  /-- A field without a value is taken away. -/
  | setCustomField (name : String) (value : Option Json)
  /-- All custom fields at once; those that are not given are taken away. -/
  | setCustomType (fields : TypedFields)

/-- The JSON form of a type's key. -/
def typeReference (key : String) : Json :=
  .object [("key", .string key)]

def TypedFields.toJson (f : TypedFields) : Json :=
  .object [("type", typeReference f.typeKey), ("fields", .object f.fields)]

def ResourceIdentifier.toJson (r : ResourceIdentifier) : Json :=
  .object [("id", .string r.id), ("typeId", .string r.typeId)]

namespace Action

def name : Action → String
  | addCustomLineItem .. => "addCustomLineItem"
  | removeCustomLineItem _ => "removeCustomLineItem"
  | addLineItem .. => "addLineItem"
  | removeLineItem _ => "removeLineItem"
  | setCustomField _ _ => "setCustomField"
  | setCustomType _ => "setCustomType"

/-- The members of an action after its name. -/
def members : Action → List (String × Json)
  | addCustomLineItem name quantity money slug taxCategory custom =>
    [("name", .ofTexts name), ("quantity", .ofNat quantity), ("money", money.toJson),
      ("slug", .string slug)]
      ++ Json.optionalMember "taxCategory" (taxCategory.map (·.toJson))
      ++ Json.optionalMember "custom" (custom.map (·.toJson))
  | removeCustomLineItem id => [("customLineItemId", .string id)]
  | addLineItem identity quantity custom =>
    identity.members ++ [("quantity", .ofNat quantity)]
      ++ Json.optionalMember "custom" (custom.map (·.toJson))
  | removeLineItem id => [("lineItemId", .string id)]
  | setCustomField name value => ("name", .string name) :: Json.optionalMember "value" value
  | setCustomType fields =>
    [("type", typeReference fields.typeKey), ("fields", .object fields.fields)]

def toJson (action : Action) : Json :=
  .object (("action", .string action.name) :: action.members)

end Action

end Promotion
