import Promotion.Config.Basic
import Promotion.Config.Value

/-!
# Configurations in files and variables

The parts of a configuration as they are read from a tree of values. A part is a table, or a list of
its entries in order; an entry that is not given has its default. What a part does not know is
passed over.
-/

namespace Promotion

/-- Where the entries of a part are looked up. -/
inductive EntrySource where
  | ofTable (members : Dict ConfigValue)
  | ofList (items : List ConfigValue)

namespace EntrySource

/-- The value given for the entry that comes next, if any. -/
def first? : EntrySource → String → Option ConfigValue
  | ofTable members, name => members.get? name
  | ofList items, _ => items.head?

/-- What is left for the entries after it. -/
def rest : EntrySource → EntrySource
  | ofTable members => ofTable members
  | ofList items => ofList (items.drop 1)

end EntrySource

/-- The entries of a part, read one after another. -/
abbrev Entries := StateT EntrySource Option

namespace Entries

variable {α : Type}

def withDefault (name : String) (read : ConfigValue → Option α) (value : α) : Entries α := do
  let source ← get
  set source.rest
  match source.first? name with
  | some given => read given
  | none => return value

def required (name : String) (read : ConfigValue → Option α) : Entries α := do
  let source ← get
  set source.rest
  let given ← source.first? name
  read given

/-- The next entry, which may be missing or without a value. -/
def optional (name : String) (read : ConfigValue → Option α) : Entries (Option α) :=
  withDefault name (fun given => if given.isNothing then some none else (read given).map some) none

def read (entries : Entries α) : ConfigValue → Option α
  | .table members => (entries.run (.ofTable members)).map (·.1)
  | .list items => (entries.run (.ofList items)).map (·.1)
  | _ => none

end Entries

namespace ConfigValue

def credentials? : ConfigValue → Option CredentialsConfig :=
  Entries.read do
    return {
      apiKey := ← .required "api_key" text?
      basePath := ← .required "base_path" text? }

/-- Credentials of currencies, which are the members of a table. -/
def credentialsTable? (value : ConfigValue) : Option (Dict CredentialsConfig) :=
  value.members?.bind fun members => members.mapM fun (currency, given) =>
    (credentials? given).map fun credentials => (currency, credentials)

def engine? : ConfigValue → Option EngineConfig :=
  let unset : EngineConfig := {}
  Entries.read do
    return {
      credentials := ← .withDefault "credentials" credentialsTable? unset.credentials
      fallbackCurrency := ← .optional "fallback_currency" text?
      maxRetries := ← .withDefault "max_retries" natural32? unset.maxRetries
      initialRetryDelay :=
        ← .withDefault "initial_retry_delay_ms" natural? unset.initialRetryDelay
      maxRetryDelay := ← .withDefault "max_retry_delay_ms" natural? unset.maxRetryDelay }

def metadata? : ConfigValue → Option MetadataTypes :=
  let unset : MetadataTypes := {}
  Entries.read do
    return {
      lineItem := ← .withDefault "line_item_type_key" text? unset.lineItem
      cart := ← .withDefault "cart_type_key" text? unset.cart
      customer := ← .withDefault "customer_type_key" text? unset.customer }

def promotion? : ConfigValue → Option PromotionConfig :=
  let unset : PromotionConfig := {}
  Entries.read do
    return {
      skuType := ← .withDefault "sku_type" text? unset.skuType
      skuSeparator := ← .withDefault "sku_separator" text? unset.skuSeparator
      roundingMode := ← .withDefault "rounding_mode" text? unset.roundingMode
      language := ← .withDefault "language" text? unset.language
      discountTaxCategoryId := ← .optional "discount_tax_category_id" text?
      payWithPointsAttribute := ← .optional "pay_with_points_attribute_name" text?
      cartMapping := ← .withDefault "cart_attribute_mapping" text? unset.cartMapping
      cartItemMapping := ← .withDefault "cart_item_attribute_mapping" text? unset.cartItemMapping
      customerMapping := ← .withDefault "customer_attribute_mapping" text? unset.customerMapping
      metadata := ← .withDefault "metadata" metadata? unset.metadata
      engine := ← .withDefault "engine" engine? unset.engine }

def logging? : ConfigValue → Option LoggingConfig :=
  let unset : LoggingConfig := {}
  Entries.read do
    return {
      level := ← .withDefault "log_level" text? unset.level
      format := ← .withDefault "log_format" text? unset.format }

def app? : ConfigValue → Option AppConfig :=
  let unset : AppConfig := {}
  Entries.read do
    return {
      serviceName := ← .withDefault "service_name" text? unset.serviceName
      environment := ← .withDefault "environment" text? unset.environment
      promotion := ← .withDefault "promotion" promotion? unset.promotion
      logging := ← .withDefault "logging" logging? unset.logging }

end ConfigValue

end Promotion
