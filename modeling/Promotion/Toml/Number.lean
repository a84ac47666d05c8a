import Promotion.Json.Parser
import Promotion.Number.Extended
import Promotion.Text.Split

/-!
# Numbers of TOML

Whole numbers have 64 bits and a sign, and may be written with base ten, sixteen, eight or two.
Other numbers are doubles. Underscores may stand between digits, and zero does not start other
digits.
-/

namespace Promotion.Toml

-- Powers are those of the core library, whichever others a theory has in scope.
attribute [local instance (20000)] instPowNat

/-- The digits of a text that has underscores at most between them; at least one. -/
def ungrouped? (isDigit : Char → Bool) (cs : List Char) : Option (List Char) :=
  let groups := Text.pieces '_' cs
  if groups.all fun group => group ≠ [] ∧ group.all isDigit then some groups.flatten else none

/-- Digits that a zero does not start, unless it is the only one. -/
def wholeDigits? (cs : List Char) : Option (List Char) :=
  (ungrouped? Text.isDigit cs).filter fun digits => digits.head? ≠ some '0' ∨ digits = ['0']

/-- A whole number, if it has 64 bits. -/
def bounded? (value : Int) : Option Int :=
  if -2 ^ (63 : Nat) ≤ value ∧ value < 2 ^ (63 : Nat) then some value else none

/-- A whole number with base ten. -/
def decimal? (cs : List Char) : Option Int := do
  let (negative, magnitude) := Double.readSign cs
  let value := Double.digitsValue (← wholeDigits? magnitude)
  bounded? (if negative then -value else value)

/-- A whole number with another base, which a letter after a zero gives. It has no sign. -/
def based? (base : Nat) (cs : List Char) : Option Int := do
  let isDigit (c : Char) : Bool := (Json.hexDigit? c).any (· < base)
  let digits ← ungrouped? isDigit cs
  bounded? (digits.foldl (fun value c => base * value + (Json.hexDigit? c).getD 0) 0)

def whole? : List Char → Option Int
  | '0' :: 'x' :: cs => based? 16 cs
  | '0' :: 'o' :: cs => based? 8 cs
  | '0' :: 'b' :: cs => based? 2 cs
  | cs => decimal? cs

/-- A sign and digits, of which zero may be the first. -/
def exponent? (cs : List Char) : Option Int := do
  let (negative, magnitude) := Double.readSign cs
  let value := Double.digitsValue (← ungrouped? Text.isDigit magnitude)
  some (if negative then -value else value)

def isExponentMark (c : Char) : Bool :=
  c == 'e' || c == 'E'

/-- A number with a point, an exponent, or both, as digits and the power of ten they are multiplied
by. -/
def scaled? (cs : List Char) : Option (List Char × Int) := do
  let exponent ←
    match cs.dropWhile (!isExponentMark ·) with
    | [] => some none
    | _ :: rest => (exponent? rest).map some
  let mantissa := cs.takeWhile (!isExponentMark ·)
  match Text.cutFirst '.' mantissa, exponent with
  | some (whole, decimals), exponent => do
    let whole ← wholeDigits? whole
    let decimals ← ungrouped? Text.isDigit decimals
    some (whole ++ decimals, exponent.getD 0 - decimals.length)
  | none, some exponent => (wholeDigits? mantissa).map fun whole => (whole, exponent)
  | none, none => none

/-- A double. A number beyond the range is none, unless a word stands for it. -/
def real? (cs : List Char) : Option ExtendedDouble := do
  let (negative, magnitude) := Double.readSign cs
  match String.ofList magnitude with
  | "inf" => some (.infinite negative)
  | "nan" => some .undefined
  | _ =>
    let (digits, exponent) ← scaled? magnitude
    (Double.ofDecimal negative (Double.digitsValue digits) exponent).map .finite

end Promotion.Toml
