import Promotion.Config.Basic
import Promotion.Failure

/-!
# Routing currencies

Every call of the engine is bound to the credentials of one currency. A currency without credentials
is served by those of the fallback, if there is one.
-/

namespace Promotion

/-- What the engine is called with. -/
structure Credentials where
  /-- The currency that the credentials belong to, which need not be the one that is asked for. -/
  currency : String
  apiKey : String
  basePath : String
deriving DecidableEq, Repr

/-- The credentials of currencies. -/
structure Routing where
  credentials : Dict Credentials
  fallback : Option String
deriving DecidableEq, Repr

namespace Routing

def ofConfig (config : EngineConfig) : Routing where
  credentials := config.credentials.map fun (currency, c) =>
    (currency, ⟨currency, c.apiKey, c.basePath⟩)
  fallback := config.fallbackCurrency

/-- The credentials for a currency, whatever the case of its letters. -/
def resolve (routing : Routing) (currency : String) : Except Failure Credentials :=
  let code := Text.upper currency
  match routing.credentials.get? code with
  | some credentials => .ok credentials
  | none =>
    match routing.fallback.bind fun fallback => routing.credentials.get? fallback with
    | some credentials => .ok credentials
    | none => .error (.unrouted code)

def currencies (routing : Routing) : List String :=
  routing.credentials.keys

/-- The currencies with credentials and one more, in order and each once. -/
def currenciesWith (routing : Routing) (currency : String) : List String :=
  ((routing.credentials.mapValues fun _ => ()).insert currency ()).keys

end Routing

end Promotion
