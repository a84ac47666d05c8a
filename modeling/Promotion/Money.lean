import Promotion.Decimal.Text
import Promotion.Failure
import Promotion.Text.Blank
import Promotion.Text.UpperCase

/-!
# Money

An amount of a currency, held in the currency's main unit as an exact decimal. The precision says
how the amount was given and whether results are rounded to the smallest unit; the rounding mode
decides halves wherever a value is taken to smallest units.
-/

namespace Promotion

-- Powers are those of the core library, whichever others a theory has in scope.
attribute [local instance (20000)] instPowNat

/-! ## Names of rounding modes -/

namespace RoundingMode

def name : RoundingMode → String
  | halfEven => "ROUND_HALF_EVEN"
  | halfUp => "ROUND_HALF_UP"
  | halfDown => "ROUND_HALF_DOWN"

/-- The mode of a name, in which case, surrounding blanks and the leading word do not count. -/
def ofName (name : String) : Except SettingsFault RoundingMode :=
  match Text.upper (Text.trim name) with
  | "HALF_EVEN" | "ROUND_HALF_EVEN" => .ok halfEven
  | "HALF_UP" | "ROUND_HALF_UP" => .ok halfUp
  | "HALF_DOWN" | "ROUND_HALF_DOWN" => .ok halfDown
  | other => .error (.roundingMode other)

end RoundingMode

/-! ## Currencies -/

/-- The number of decimals of a currency's smallest unit. -/
def fractionDigits (currency : String) : Nat :=
  if currency ∈ ["JPY", "KRW", "CLP", "ISK", "VND"] then 0
  else if currency ∈ ["BHD", "KWD", "OMR", "JOD", "TND"] then 3
  else 2

/-! ## Amounts -/

/-- How an amount is given. -/
inductive Precision where
  /-- As a number of smallest units. -/
  | cent
  /-- In the main unit, with any number of decimals. -/
  | decimal
deriving DecidableEq, Repr

structure Money where
  /-- The amount in the main unit. -/
  amount : Decimal
  currency : String
  precision : Precision
  rounding : RoundingMode
deriving DecidableEq, Repr

/-- An amount in smallest units, as the shop writes it. -/
structure CentMoney where
  /-- How the amount is given; here always in smallest units. -/
  type : String := "centPrecision"
  currency : String
  cents : Int
  fractionDigits : Nat
deriving DecidableEq, Repr

def CentMoney.toJson (m : CentMoney) : Json :=
  .object [("type", .string m.type), ("currencyCode", .string m.currency),
    ("centAmount", .ofInt m.cents), ("fractionDigits", .ofNat m.fractionDigits)]

namespace Money

/-- An amount given with a precision. It is not rounded, and halves go to the even neighbour until
another mode is chosen. -/
def of (precision : Precision) (currency : String) (amount : Decimal) : Money where
  amount :=
    match precision with
    | .cent => amount.divPowerOfTen (fractionDigits currency)
    | .decimal => amount
  currency
  precision
  rounding := .halfEven

def roundedWith (m : Money) (rounding : RoundingMode) : Money :=
  { m with rounding }

def negate (m : Money) : Money :=
  { m with amount := m.amount.negate }

def isZero (m : Money) : Bool :=
  m.amount.isZero

def text (m : Money) : String :=
  m.amount.text ++ " " ++ m.currency

/-- A result in the currency and with the mode of `m`, rounded once to smallest units where the
precision asks for it. -/
def withResult (m : Money) (raw : Decimal) (precision : Precision) : Money :=
  { m with
    amount :=
      match precision with
      | .cent => raw.roundTo m.rounding (fractionDigits m.currency)
      | .decimal => raw
    precision }

/-- The result of an operation on the amounts of one currency. -/
def combine (op : Decimal → Decimal → Option Decimal) (a b : Money) (precision : Precision) :
    Except MoneyFault Money :=
  if a.currency = b.currency then
    match op a.amount b.amount with
    | some raw => .ok (a.withResult raw precision)
    | none => .error (.overflow a.currency)
  else .error (.currencyMismatch a.currency b.currency)

def add (a b : Money) (precision : Precision) : Except MoneyFault Money :=
  combine Decimal.add? a b precision

def subtract (a b : Money) (precision : Precision) : Except MoneyFault Money :=
  combine Decimal.sub? a b precision

/-- The amount rounded to a whole number of smallest units, which must fit 64 bits. -/
def cents (m : Money) : Except MoneyFault Int :=
  let digits := fractionDigits m.currency
  let units := ((m.amount.roundTo m.rounding digits).rescaled digits).signed
  if -2 ^ (63 : Nat) ≤ units ∧ units < 2 ^ (63 : Nat) then .ok units
  else .error (.overflow m.currency)

/-- The amount rounded to smallest units, as the shop writes it. -/
def toCents (m : Money) : Except MoneyFault CentMoney :=
  m.cents.map fun cents =>
    { currency := m.currency, cents, fractionDigits := fractionDigits m.currency }

end Money

end Promotion
