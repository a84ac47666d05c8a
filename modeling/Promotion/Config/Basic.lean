import Promotion.Dict
import Promotion.Text.Blank
import Promotion.Text.UpperCase

/-!
# Configuration

The raw values that promotions are configured with, their defaults, and the check of the engine's
credentials. What the values mean is decided where they are used.
-/

namespace Promotion

/-! ## Values and defaults -/

/-- What the engine is called with for one currency. -/
structure CredentialsConfig where
  apiKey : String
  basePath : String
deriving DecidableEq, Repr

structure EngineConfig where
  /-- Credentials by currency. -/
  credentials : Dict CredentialsConfig := []
  /-- The currency whose credentials serve the others. -/
  fallbackCurrency : Option String := none
  maxRetries : Nat := 2
  initialRetryDelay : Nat := 200
  maxRetryDelay : Nat := 2000
deriving DecidableEq, Repr

/-- The keys of the types that declare custom fields. -/
structure MetadataTypes where
  lineItem : String := "talon_one_line_item_metadata"
  cart : String := "talon_one_cart_metadata"
  customer : String := "talon_one_customer_metadata"
deriving DecidableEq, Repr

structure PromotionConfig where
  skuType : String := "CTP_VARIANT_SKU"
  skuSeparator : String := "@"
  roundingMode : String := "ROUND_HALF_EVEN"
  language : String := "en"
  discountTaxCategoryId : Option String := none
  payWithPointsAttribute : Option String := none
  cartMapping : String := ""
  cartItemMapping : String := ""
  customerMapping : String := ""
  metadata : MetadataTypes := {}
  engine : EngineConfig := {}
deriving DecidableEq, Repr

structure LoggingConfig where
  level : String := "info"
  format : String := "pretty"
deriving DecidableEq, Repr

structure AppConfig where
  serviceName : String := ""
  environment : String := ""
  promotion : PromotionConfig := {}
  logging : LoggingConfig := {}
deriving DecidableEq, Repr

/-! ## Currencies and credentials -/

inductive ConfigError where
  /-- It cannot be read. -/
  | unreadable
  /-- A value is not allowed. -/
  | invalid (key : String) (reason : String)
deriving DecidableEq, Repr

def ConfigError.code : ConfigError → String
  | unreadable => "CONFIG_ERROR"
  | invalid _ _ => "INVALID_CONFIG"

namespace EngineConfig

/-- The form in which currencies are compared. -/
def currencyCode (currency : String) : String :=
  Text.upper (Text.trim currency)

/-- Currencies in upper case and without surrounding blanks. Of keys that become one, the last in
order counts; a blank fallback is none. -/
def normalized (config : EngineConfig) : EngineConfig :=
  { config with
    credentials :=
      Dict.ofList (config.credentials.map fun (currency, c) => (currencyCode currency, c))
    fallbackCurrency := (config.fallbackCurrency.map currencyCode).filter (· ≠ "") }

def credentialsKey (currency entry : String) : String :=
  "promotion.engine.credentials." ++ currency ++ "." ++ entry

def blankEntry? (config : EngineConfig) : Option ConfigError :=
  config.credentials.findSome? fun (currency, c) =>
    if Text.isBlankText c.apiKey then some (.invalid (credentialsKey currency "api_key") "不能为空")
    else if Text.isBlankText c.basePath then
      some (.invalid (credentialsKey currency "base_path") "不能为空")
    else none

/-- Credentials must not be blank, and a fallback must have credentials. -/
def validate (config : EngineConfig) : Except ConfigError Unit :=
  match config.blankEntry? with
  | some error => .error error
  | none =>
    match config.fallbackCurrency with
    | some fallback =>
      if config.credentials.contains fallback then .ok ()
      else
        .error (.invalid "promotion.engine.fallback_currency"
          ("回退币种 " ++ fallback ++ " 未配置凭证"))
    | none => .ok ()

end EngineConfig

/-- The wording of a refused configuration. The text for an unreadable one is not given. -/
def ConfigError.message : ConfigError → String
  | unreadable => ""
  | invalid key reason => "无效的配置项: " ++ key ++ " - " ++ reason

end Promotion
