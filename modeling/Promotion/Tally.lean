import Promotion.Dict
import Promotion.Text.Numeral

/-!
# Tallies

Counters that work on effects raises. A tally is the list of what was raised, in order; what counts
is the total of each counter.
-/

namespace Promotion

inductive Counter where
  /-- Effects of a kind that were carried out. -/
  | applied (kind : String)
  /-- Effects left out for a reason. -/
  | skipped (reason : String)
  /-- Mapping rules that were dropped. -/
  | rulesDropped
  /-- Calls of the engine for a currency, by how they ended. -/
  | engineCalls (currency : String) (outcome : String)
deriving DecidableEq, Repr

/-- The name of a counter with its labels. -/
def Counter.name : Counter → String
  | applied kind => "promotion_effects_translated_total\x7bkind=" ++ kind ++ "\x7d"
  | skipped reason => "promotion_effects_skipped_total\x7breason=" ++ reason ++ "\x7d"
  | rulesDropped => "promotion_mapping_rules_dropped_total\x7b\x7d"
  | engineCalls currency outcome =>
    "promotion_engine_calls_total\x7bcurrency=" ++ currency ++ ",outcome=" ++ outcome ++ "\x7d"

/-- Counters and by how much each was raised. -/
abbrev Tally := List (Counter × Nat)

namespace Tally

def one (counter : Counter) : Tally :=
  [(counter, 1)]

def count (tally : Tally) (counter : Counter) : Nat :=
  match tally with
  | [] => 0
  | (c, amount) :: rest => (if c = counter then amount else 0) + count rest counter

/-- The totals of the counters that were raised, by name. -/
def totals (tally : Tally) : Dict Nat :=
  tally.foldl (fun totals (counter, _) => totals.insert counter.name (tally.count counter)) []

end Tally

end Promotion
