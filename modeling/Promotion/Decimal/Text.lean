import Promotion.Decimal.Basic
import Promotion.Number.Shortest

/-!
# Decimal texts

A decimal is written with exactly as many decimals as its scale says. It is read from a sign, digits
with at most one point, and underscores after the first digit. Of the decimals beyond what 96 bits
or the greatest scale can hold, the first one decides the rounding and the others do not count. A
text that is none of this may still be a number with an exponent.
-/

namespace Promotion

-- Powers are those of the core library, whichever others a theory has in scope.
attribute [local instance (20000)] instPowNat

namespace Decimal

/-! ### Writing -/

/-- The digits of a decimal, with a zero before the point where there is no other. -/
def magnitudeText (a : Decimal) : List Char :=
  let digits := Text.numeral a.mantissa
  if a.scale = 0 then digits
  else
    let padded := List.replicate (a.scale + 1 - digits.length) '0' ++ digits
    padded.take (padded.length - a.scale) ++ '.' :: padded.drop (padded.length - a.scale)

def text (a : Decimal) : String :=
  String.ofList (if a.negative then '-' :: a.magnitudeText else a.magnitudeText)

/-! ### Reading -/

/-- How far a text has been read. -/
structure Progress where
  mantissa : Nat
  scale : Nat
  /-- The point has been passed. -/
  pointed : Bool
  /-- A digit has been passed. -/
  started : Bool

def Progress.initial : Progress :=
  ⟨0, 0, false, false⟩

def isDigitOrGap (c : Char) : Bool :=
  Text.isDigit c || c == '_'

/-- One more decimal does not fit: it decides the rounding, and the decimals that follow it do not
count. An underscore in its place stands for a zero. -/
def Progress.roundAt (p : Progress) (c : Char) (rest : List Char) : Option (Nat × Nat) :=
  match if c = '_' then some 0 else Text.digit? c with
  | none => none
  | some d =>
    if !rest.all isDigitOrGap then none
    else if d < 5 then some (p.mantissa, p.scale)
    else if p.mantissa + 1 < 2 ^ (96 : Nat) then some (p.mantissa + 1, p.scale)
    else if p.scale = 0 then none
    else some ((p.mantissa + 5) / 10, p.scale - 1)

/-- Mantissas below this one have room for one more digit in 64 bits. -/
def narrowBound : Nat := (2 ^ (64 : Nat) - 1) / 10 - 255

/-- Whether underscores after the last decimal that fits are passed over. They are where the
mantissa was long before that decimal already; elsewhere the first of them stands for a zero. -/
def Progress.passesGaps (p : Progress) : Bool :=
  narrowBound ≤ p.mantissa / 10

/-- Mantissa and scale of a text without a sign. -/
def readFrom (p : Progress) : List Char → Option (Nat × Nat)
  | [] => if p.started then some (p.mantissa, p.scale) else none
  | c :: cs =>
    if p.pointed ∧ 28 ≤ p.scale then
      if c = '_' ∧ p.passesGaps then readFrom p cs else p.roundAt c cs
    else
      match Text.digit? c with
      | some d =>
        if 10 * p.mantissa + d < 2 ^ (96 : Nat) then
          readFrom
            { p with
              mantissa := 10 * p.mantissa + d
              scale := if p.pointed then p.scale + 1 else 0
              started := true } cs
        else if p.pointed then p.roundAt c cs
        else none
      | none =>
        if c = '.' ∧ !p.pointed then readFrom { p with pointed := true } cs
        else if c = '_' ∧ p.started then readFrom p cs
        else none

def readPlain (cs : List Char) : Option Decimal :=
  let (negative, cs) :=
    match cs with
    | '-' :: cs => (true, cs)
    | '+' :: cs => (false, cs)
    | cs => (false, cs)
  (readFrom .initial cs).bind fun (mantissa, scale) => make? negative mantissa scale

/-- The point moved to the left. Decimals beyond the greatest scale are rounded away, a half going
away from zero. -/
def movedLeft (a : Decimal) (places : Nat) : Option Decimal :=
  if 28 < places then none
  else if a.scale + places ≤ 28 then make? a.negative a.mantissa (a.scale + places)
  else some { a.rescaled (28 - places) with scale := 28, scale_le := Nat.le_refl 28 }

/-- The point moved to the right, by using up the scale first and then lengthening the mantissa. -/
def movedRight (a : Decimal) (places : Nat) : Option Decimal :=
  if places ≤ a.scale then make? a.negative a.mantissa (a.scale - places)
  else if places ≤ 28 then make? a.negative (a.mantissa * 10 ^ (places - a.scale)) 0
  else none

def readScientific (cs : List Char) : Option Decimal :=
  let base := cs.takeWhile fun c => c ≠ 'e' ∧ c ≠ 'E'
  match cs.drop base.length with
  | [] => none
  | _ :: exponent =>
    let (negative, digits) :=
      match exponent with
      | '-' :: digits => (true, digits)
      | digits => (false, digits)
    match readPlain base, Text.readNatural (2 ^ (32 : Nat) - 1) digits with
    | some a, .ok n => if negative then a.movedLeft n else a.movedRight n
    | _, _ => none

def read? (s : String) : Option Decimal :=
  readPlain s.toList <|> readScientific s.toList

/-- The decimal whose digits are those of a double. -/
def ofDouble? (x : Double) : Option Decimal :=
  readPlain x.plainDigits

end Decimal

end Promotion
