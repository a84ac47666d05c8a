import Promotion.Text.Class
import Promotion.Text.Table.UpperCase

/-!
# Upper case

The full upper-case mapping of Unicode, in which a letter may become several (ß becomes SS).
-/

namespace Promotion.Text

/-- The upper case of a letter in the run, if it is one. -/
def CaseRun.upper? (run : CaseRun) (code : Nat) : Option Nat :=
  if run.first ≤ code ∧ code ≤ run.last ∧ (code - run.first) % run.step = 0 then
    some (run.upper + (code - run.first))
  else none

def upperOf (c : Char) : List Char :=
  if c.toNat < 0x80 then
    [if isLower c then Char.ofNat (c.toNat - 32) else c]
  else
    match upperCaseExpansions.lookup c.toNat with
    | some codes => codes.map Char.ofNat
    | none => [((upperCaseRuns.findSome? (·.upper? c.toNat)).map Char.ofNat).getD c]

def upper (s : String) : String :=
  String.ofList (s.toList.flatMap upperOf)

end Promotion.Text
