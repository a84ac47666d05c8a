import Promotion.Json.Mismatch
import Promotion.Text.Numeral

/-!
# Failures

What can go wrong between an event and its answer, with the code and the wording under which it is
reported. A fatal failure ends the whole event; any other costs only the rule, the effect or the
currency it belongs to.
-/

namespace Promotion

inductive RuleFault where
  /-- No colon divides path and target. -/
  | noTarget
  | target (text : String)
  | unknownKind (name : String)
  | emptyPath
  | segment (text : String)
  /-- The path starts with an index. -/
  | leadingIndex (text : String)
  /-- An index has a list of languages. -/
  | indexWithLocales (text : String)
  | index (text : String) (fault : Text.NumeralFault)
  /-- A list of languages names none. -/
  | noLocales (text : String)
deriving DecidableEq, Repr

def RuleFault.message : RuleFault → String
  | noTarget => "缺少 `:` 分隔的目标属性"
  | target text => "目标属性格式无效: " ++ ticked text
  | unknownKind name => "未知的值类型: " ++ name
  | emptyPath => "源路径不能为空"
  | segment text => "路径段格式无效: " ++ ticked text
  | leadingIndex text => "路径不能以下标开头: " ++ ticked text
  | indexWithLocales text => "下标段不能带语言列表: " ++ ticked text
  | index text fault => "下标无效: " ++ ticked text ++ " - " ++ fault.message
  | noLocales text => "语言列表不能为空: " ++ ticked text

inductive EffectFault where
  /-- Its data do not fit. -/
  | shape (mismatch : Mismatch)
  /-- It names a position beyond the items of the session. -/
  | noItem (position count : Nat)
deriving Repr

def EffectFault.message : EffectFault → String
  | shape mismatch => mismatch.message
  | noItem position count =>
    "position " ++ String.ofList (Text.numeral position) ++ " 超出购物车条目数 "
      ++ String.ofList (Text.numeral count)

inductive SettingsFault where
  | identityPolicy (name : String)
  | roundingMode (name : String)
  | separator (text : String)
  | blank (key : String)
deriving DecidableEq, Repr

def SettingsFault.message : SettingsFault → String
  | identityPolicy name => "未知的 SKU 身份策略: " ++ name
  | roundingMode name => "未知的舍入模式: " ++ name
  | separator text => "SKU 分隔符必须是单个字符: " ++ ticked text
  | blank key => key ++ " 不能为空"

inductive EngineFault where
  | transport (message : String)
  | timeout
  | unauthorized (message : String)
  | rejected (message : String)
deriving DecidableEq, Repr

namespace EngineFault

def message : EngineFault → String
  | transport message => "传输失败: " ++ message
  | timeout => "调用超时"
  | unauthorized message => "鉴权失败: " ++ message
  | rejected message => "请求被拒绝: " ++ message

/-- Only a passing disturbance is worth another call. -/
def isRetryable : EngineFault → Bool
  | transport _ | timeout => true
  | unauthorized _ | rejected _ => false

end EngineFault

/-- Why amounts cannot be combined or counted. -/
inductive MoneyFault where
  | currencyMismatch (left right : String)
  | overflow (currency : String)
deriving DecidableEq, Repr

inductive Failure where
  /-- The configuration cannot be used. -/
  | configuration (fault : SettingsFault)
  /-- Neither a currency nor its fallback has credentials. -/
  | unrouted (currency : String)
  | malformedRule (rule : String) (fault : RuleFault)
  /-- A rule finds no value in its source, or none of its kind. -/
  | unresolvable (rule : String)
  | unsupportedEffect (kind : String)
  | malformedEffect (kind : String) (fault : EffectFault)
  | invalidSku (sku : String) (fault : Text.NumeralFault)
  | money (fault : MoneyFault)
  | engine (currency : String) (fault : EngineFault)
  /-- The event or its resource does not have the expected shape. -/
  | invalidEvent (mismatch : Mismatch)
deriving Repr

namespace Failure

/-- The code under which a failure is reported and counted. -/
def code : Failure → String
  | configuration _ => "ConfigurationError"
  | unrouted _ => "CurrencyRoutingError"
  | malformedRule _ _ => "MalformedMappingRule"
  | unresolvable _ => "UnresolvableAttribute"
  | unsupportedEffect _ => "UnsupportedEffectKind"
  | malformedEffect _ _ => "MalformedEffect"
  | invalidSku _ _ => "InvalidSkuEncoding"
  | money (.currencyMismatch _ _) => "CurrencyMismatch"
  | money (.overflow _) => "MoneyOverflow"
  | engine _ _ => "PromotionEngineError"
  | invalidEvent _ => "InvalidInput"

def message : Failure → String
  | configuration fault => "配置错误: " ++ fault.message
  | unrouted currency =>
    "Invalid currency code. 币种 " ++ currency ++ " 未配置促销引擎凭证"
  | malformedRule rule fault => "映射规则无效: " ++ ticked rule ++ " - " ++ fault.message
  | unresolvable rule => "属性无法解析: " ++ ticked rule
  | unsupportedEffect kind => "不支持的效果类型: " ++ kind
  | malformedEffect kind fault => "效果数据无效: " ++ kind ++ " - " ++ fault.message
  | invalidSku sku fault => "无效的 SKU 编码: " ++ sku ++ " - " ++ fault.message
  | money (.currencyMismatch left right) => "币种不一致: " ++ left ++ " 与 " ++ right
  | money (.overflow currency) => "金额溢出: " ++ currency
  | engine currency fault => "促销引擎调用失败 (" ++ currency ++ "): " ++ fault.message
  | invalidEvent mismatch => "无效的事件: " ++ mismatch.message

/-- Whether a failure ends the whole event. -/
def isFatal : Failure → Bool
  | configuration _ | invalidEvent _ | engine _ (.unauthorized _) => true
  | _ => false

end Failure

end Promotion
