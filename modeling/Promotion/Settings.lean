import Promotion.Config.Basic
import Promotion.Mapping.Parser
import Promotion.Money
import Promotion.Sku
import Promotion.Tally

/-!
# Settings

A configuration whose values have been given their meaning. Mapping rules never make it fail: those
that are malformed are dropped, counted and reported.
-/

namespace Promotion

/-- What promotions are carried over with. -/
structure Settings where
  resolver : SkuResolver
  rounding : RoundingMode
  /-- The language for names and for attributes in several languages. -/
  language : String
  discountTaxCategory : Option String
  payWithPointsAttribute : Option String
  cartRules : List Mapping.Rule
  itemRules : List Mapping.Rule
  customerRules : List Mapping.Rule
  metadata : MetadataTypes

/-- Settings, what was dropped on the way to them, and how much of it. -/
structure LoadedSettings where
  settings : Settings
  diagnostics : List Mapping.Diagnostic
  tally : Tally

namespace Settings

/-- A separator is one character. -/
def readSeparator (text : String) : Except SettingsFault Char :=
  match text.toList with
  | [c] => .ok c
  | _ => .error (.separator text)

/-- A text that must not be blank, without the blanks around it. -/
def readNonBlank (key value : String) : Except SettingsFault String :=
  let value := Text.trim value
  if value = "" then .error (.blank key) else .ok value

/-- A text without the blanks around it; a blank one is none. -/
def nonBlank? (value : Option String) : Option String :=
  (value.map Text.trim).filter (· ≠ "")

/-- The keys of types, none of which may be blank. -/
def readMetadata (types : MetadataTypes) : Except SettingsFault MetadataTypes := do
  let lineItem ← readNonBlank "metadata.line_item_type_key" types.lineItem
  let cart ← readNonBlank "metadata.cart_type_key" types.cart
  let customer ← readNonBlank "metadata.customer_type_key" types.customer
  .ok ⟨lineItem, cart, customer⟩

/-- The counter of dropped rules, raised only where there are any. -/
def droppedTally (count : Nat) : Tally :=
  if count = 0 then [] else [(.rulesDropped, count)]

/-- The meaning of a configuration's values. -/
def read (config : PromotionConfig) : Except SettingsFault LoadedSettings := do
  let policy ← IdentityPolicy.ofName config.skuType
  let rounding ← RoundingMode.ofName config.roundingMode
  let separator ← readSeparator config.skuSeparator
  let metadata ← readMetadata config.metadata
  let language ← readNonBlank "language" config.language
  let cart := Mapping.compile config.cartMapping
  let item := Mapping.compile config.cartItemMapping
  let customer := Mapping.compile config.customerMapping
  let diagnostics := cart.diagnostics ++ item.diagnostics ++ customer.diagnostics
  .ok
    { settings :=
        { resolver := ⟨policy, separator⟩
          rounding
          language
          discountTaxCategory := nonBlank? config.discountTaxCategoryId
          payWithPointsAttribute := nonBlank? config.payWithPointsAttribute
          cartRules := cart.rules
          itemRules := item.rules
          customerRules := customer.rules
          metadata }
      diagnostics
      tally := droppedTally diagnostics.length }

def load (config : PromotionConfig) : Except Failure LoadedSettings :=
  (read config).mapError .configuration

end Settings

end Promotion
