import Promotion.Config.Basic
import Promotion.Json.Reader

/-!
# Configurations in requests

A configuration in a request is a JSON value with an object for each part, and every single value
has the very kind that is asked for.
-/

namespace Promotion.Reader

def credentialsConfig : Reader CredentialsConfig :=
  .record "EngineCredentialsConfig"
    (CredentialsConfig.mk <$> .required "api_key" text <*> .required "base_path" text)

def engineConfig : Reader EngineConfig :=
  let unset : EngineConfig := {}
  .record "EngineConfig"
    (EngineConfig.mk <$> .withDefault "credentials" (dict credentialsConfig) unset.credentials
      <*> .optional "fallback_currency" text
      <*> .withDefault "max_retries" natural32 unset.maxRetries
      <*> .withDefault "initial_retry_delay_ms" natural64 unset.initialRetryDelay
      <*> .withDefault "max_retry_delay_ms" natural64 unset.maxRetryDelay)

def metadataTypes : Reader MetadataTypes :=
  let unset : MetadataTypes := {}
  .record "MetadataTypeConfig"
    (MetadataTypes.mk <$> .withDefault "line_item_type_key" text unset.lineItem
      <*> .withDefault "cart_type_key" text unset.cart
      <*> .withDefault "customer_type_key" text unset.customer)

def promotionConfig : Reader PromotionConfig :=
  let unset : PromotionConfig := {}
  .record "PromotionConfig"
    (PromotionConfig.mk <$> .withDefault "sku_type" text unset.skuType
      <*> .withDefault "sku_separator" text unset.skuSeparator
      <*> .withDefault "rounding_mode" text unset.roundingMode
      <*> .withDefault "language" text unset.language
      <*> .optional "discount_tax_category_id" text
      <*> .optional "pay_with_points_attribute_name" text
      <*> .withDefault "cart_attribute_mapping" text unset.cartMapping
      <*> .withDefault "cart_item_attribute_mapping" text unset.cartItemMapping
      <*> .withDefault "customer_attribute_mapping" text unset.customerMapping
      <*> .withDefault "metadata" metadataTypes unset.metadata
      <*> .withDefault "engine" engineConfig unset.engine)

def loggingConfig : Reader LoggingConfig :=
  let unset : LoggingConfig := {}
  .record "LoggingConfig"
    (LoggingConfig.mk <$> .withDefault "log_level" text unset.level
      <*> .withDefault "log_format" text unset.format)

end Promotion.Reader
