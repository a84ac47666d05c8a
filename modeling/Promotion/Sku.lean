import Promotion.Failure
import Promotion.Json.Basic
import Promotion.Text.Blank
import Promotion.Text.Split
import Promotion.Text.UpperCase

/-!
# Line items and SKUs

The engine knows a line item by one text, the SKU. A policy says which fields of the line item it is
made of, and how it is taken back to a line item's identity.
-/

namespace Promotion

/-- What identifies a line item towards the engine. -/
inductive IdentityPolicy where
  /-- The variant's SKU. -/
  | variantSku
  /-- The product alone. -/
  | productId
  /-- The product, a separator and the variant. -/
  | productAndVariant
deriving DecidableEq, Repr

namespace IdentityPolicy

def name : IdentityPolicy → String
  | variantSku => "CTP_VARIANT_SKU"
  | productId => "CTP_PRODUCT_ID"
  | productAndVariant => "CTP_PRODUCT_ID_WITH_VARIANT_ID"

/-- A text without the word CTP that it may start with. -/
def bareName (name : String) : String :=
  match name.toList with
  | 'C' :: 'T' :: 'P' :: '_' :: rest => String.ofList rest
  | _ => name

/-- The policy of a name, in which case, surrounding blanks and the leading word do not count. -/
def ofName (name : String) : Except SettingsFault IdentityPolicy :=
  match bareName (Text.upper (Text.trim name)) with
  | "VARIANT_SKU" => .ok variantSku
  | "PRODUCT_ID" => .ok productId
  | "PRODUCT_ID_WITH_VARIANT_ID" => .ok productAndVariant
  | _ => .error (.identityPolicy name)

end IdentityPolicy

/-- What a SKU says about a line item. -/
inductive Identity where
  | sku (sku : String)
  | product (productId : String)
  | variant (productId : String) (variantId : Nat)
deriving DecidableEq, Repr

/-- The members by which an identity is written. -/
def Identity.members : Identity → List (String × Json)
  | sku s => [("sku", .string s)]
  | product id => [("productId", .string id)]
  | variant id variantId => [("productId", .string id), ("variantId", .ofNat variantId)]

/-- The fields of a line item that can identify it. -/
structure ItemReference where
  productId : String
  variantId : Option Nat
  sku : Option String
deriving DecidableEq, Repr

/-- A policy with the separator it uses. -/
structure SkuResolver where
  policy : IdentityPolicy
  separator : Char
deriving DecidableEq, Repr

namespace SkuResolver

/-- The SKU of a line item; none where the policy wants the variant's SKU and it has none. -/
def encode (r : SkuResolver) (item : ItemReference) : Option String :=
  match r.policy with
  | .variantSku => item.sku
  | .productId => some item.productId
  | .productAndVariant =>
    match item.variantId with
    | some id =>
      some (String.ofList (item.productId.toList ++ r.separator :: Text.numeral id))
    | none => some item.productId

/-- The identity a SKU stands for. With product and variant, what follows the last separator must be
a number. -/
def decode? (r : SkuResolver) (sku : String) : Except Failure Identity :=
  match r.policy with
  | .variantSku => .ok (.sku sku)
  | .productId => .ok (.product sku)
  | .productAndVariant =>
    match Text.cutLast r.separator sku.toList with
    | none => .ok (.product sku)
    | some (product, variant) =>
      match Text.readNatural Text.maxNatural64 variant with
      | .ok id => .ok (.variant (String.ofList product) id)
      | .error fault => .error (.invalidSku sku fault)

/-- The identity a SKU stands for; where no number follows the last separator, the product before
it. -/
def decode (r : SkuResolver) (sku : String) : Identity :=
  match r.decode? sku with
  | .ok identity => identity
  | .error _ =>
    match Text.cutLast r.separator sku.toList with
    | some (product, _) => .product (String.ofList product)
    | none => .product sku

end SkuResolver

end Promotion
