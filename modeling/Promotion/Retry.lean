import Promotion.Config.Basic
import Promotion.Number.Extended

/-!
# Trying again

A call that fails in passing is made again after a wait. The waits double from call to call up to a
greatest one. They are computed in double precision, which shows only where a delay has more than 53
significant bits, or where nothing is doubled more than 1023 times: the power is infinite then, its
product with zero is no number, and the greatest wait stands for it.
-/

namespace Promotion

-- Powers are those of the core library, whichever others a theory has in scope.
attribute [local instance (20000)] instPowNat

/-- How often and after what waits, in milliseconds, a call is made again. -/
structure RetryPolicy where
  /-- The calls that may follow the first. -/
  maxRetries : Nat
  initialDelay : Nat
  maxDelay : Nat
deriving DecidableEq, Repr

namespace RetryPolicy

def ofConfig (config : EngineConfig) : RetryPolicy :=
  ⟨config.maxRetries, config.initialRetryDelay, config.maxRetryDelay⟩

def standard : RetryPolicy :=
  ofConfig {}

def never : RetryPolicy :=
  ⟨0, 0, 0⟩

/-! ## Waits -/

/-- What a wait is multiplied by from one retry to the next. -/
def multiplier : ExtendedDouble :=
  .ofNat 2

/-- The largest exponent, a signed number of 32 bits. -/
def maxExponent : Nat := 2 ^ (31 : Nat) - 1

/-- What the initial delay is multiplied by before a retry, counted from zero. -/
def factor (retry : Nat) : ExtendedDouble :=
  .timesPower (.ofNat 1) multiplier (min retry maxExponent) 31

/-- The wait before a retry, counted from zero: the initial delay times the factor, but no more than
the greatest delay. A fraction of a millisecond is dropped. -/
def delay (policy : RetryPolicy) (retry : Nat) : Nat :=
  (((ExtendedDouble.ofNat policy.initialDelay).mul (factor retry)).least
    (.ofNat policy.maxDelay)).truncated (2 ^ (64 : Nat) - 1)

theorem delay_eq (policy : RetryPolicy) (retry : Nat) :
    policy.delay retry =
      (((ExtendedDouble.ofNat policy.initialDelay).mul (factor retry)).least
        (.ofNat policy.maxDelay)).truncated (2 ^ (64 : Nat) - 1) :=
  rfl

-- A run only counts with the waits; nothing is to compute one where two runs are compared.
attribute [irreducible] delay

/-- Whether another call may follow so many failures. -/
def allows (policy : RetryPolicy) (failures : Nat) : Bool :=
  failures < policy.maxRetries

/-! ## One call until it is done -/

/-- How a call went: its last outcome, and the waits between one attempt and the next. -/
structure Trace (ε α : Type) where
  result : Except ε α
  waits : List Nat

/-- The number of attempts. -/
def Trace.calls {ε α : Type} (trace : Trace ε α) : Nat :=
  trace.waits.length + 1

/-- When the attempts after one that starts at `time` start, if an attempt takes no time. -/
def startsAfter (time : Nat) : List Nat → List Nat
  | [] => []
  | wait :: waits => (time + wait) :: startsAfter (time + wait) waits

/-- When the attempts start. -/
def Trace.starts {ε α : Type} (trace : Trace ε α) : List Nat :=
  0 :: startsAfter 0 trace.waits

/-- The attempts from the one after `failures` others on, of which `left` may follow the next. -/
def attempt {ε α : Type} (policy : RetryPolicy) (passing : ε → Bool)
    (outcome : Nat → Except ε α) (failures : Nat) : Nat → Trace ε α
  | 0 => ⟨outcome failures, []⟩
  | left + 1 =>
    match outcome failures with
    | .ok value => ⟨.ok value, []⟩
    | .error fault =>
      if passing fault then
        let trace := attempt policy passing outcome (failures + 1) left
        { trace with waits := policy.delay failures :: trace.waits }
      else ⟨.error fault, []⟩

/-- A call whose attempt number `k` ends in `outcome k`. -/
def run {ε α : Type} (policy : RetryPolicy) (passing : ε → Bool) (outcome : Nat → Except ε α) :
    Trace ε α :=
  policy.attempt passing outcome 0 policy.maxRetries

end RetryPolicy

end Promotion
