import Promotion.Number.Reading
import Promotion.Number.Shortest

/-!
# Doubles and their limits

A text can stand for a number that no double is: one beyond the range, or none at all. Such a number
has a text of its own, and a nearest natural number. Products, too, can leave the range, and then go
on as what has become of them.
-/

namespace Promotion

/-- A double, or what stands in place of one. -/
inductive ExtendedDouble where
  | finite (value : Double)
  /-- A number beyond the range. -/
  | infinite (negative : Bool)
  /-- No number at all. -/
  | undefined
deriving DecidableEq, Repr

namespace ExtendedDouble

/-- The number a text stands for. The words for infinity and for no number may be written in any
case. -/
def read? (cs : List Char) : Option ExtendedDouble :=
  let (negative, magnitude) := Double.readSign cs
  match String.ofList (magnitude.map Text.lower) with
  | "inf" | "infinity" => some (.infinite negative)
  | "nan" => some .undefined
  | _ => (Double.readMagnitude magnitude).map fun (digits, exponent) =>
    match Double.ofDecimal negative digits exponent with
    | some x => .finite x
    | none => .infinite negative

/-- The text of a number, without an exponent. -/
def plainDigits : ExtendedDouble → List Char
  | finite x => x.plainDigits
  | infinite negative => if negative then "-inf".toList else "inf".toList
  | undefined => "NaN".toList

/-! ## Natural numbers -/

/-- The natural number up to `bound` for a number whose magnitude has the whole number `whole`. -/
def clamped (whole : Double → Nat) (bound : Nat) : ExtendedDouble → Nat
  | finite x => if x.negative then 0 else min (whole x) bound
  | infinite negative => if negative then 0 else bound
  | undefined => 0

/-- The natural number up to `bound` that is nearest to a number, a half going away from zero. -/
def toNatural (bound : Nat) : ExtendedDouble → Nat :=
  clamped Double.roundMagnitude bound

/-- The natural number up to `bound` that is left of a number without its fraction. -/
def truncated (bound : Nat) : ExtendedDouble → Nat :=
  clamped (fun x => x.magnitude / Double.one) bound

/-! ## Arithmetic -/

/-- A magnitude that may be beyond the range, with a sign. -/
def ofMagnitude (negative : Bool) : Option Double → ExtendedDouble
  | some x => finite (x.withSign negative)
  | none => infinite negative

def ofNat (n : Nat) : ExtendedDouble :=
  ofMagnitude false (Double.ofNat? n)

/-- A product, rounded once. Zero times infinity is no number. -/
def mul : ExtendedDouble → ExtendedDouble → ExtendedDouble
  | undefined, _ => undefined
  | _, undefined => undefined
  | infinite s, infinite t => infinite (s != t)
  | infinite s, finite y => if y.isZero then undefined else infinite (s != y.negative)
  | finite x, infinite t => if x.isZero then undefined else infinite (x.negative != t)
  | finite x, finite y => ofMagnitude (x.negative != y.negative) (x.mulMagnitudes y)

/-- A power by repeated squaring, times `product`. The last bit of the exponent says whether the
base takes part, and its square goes on with the other bits, of which there are at most `bits`. -/
def timesPower (product base : ExtendedDouble) (exponent : Nat) : Nat → ExtendedDouble
  | 0 => product
  | bits + 1 =>
    timesPower (if exponent % 2 = 1 then product.mul base else product) (base.mul base)
      (exponent / 2) bits

/-- The lesser of two numbers. What is no number gives way to the other. -/
def least : ExtendedDouble → ExtendedDouble → ExtendedDouble
  | undefined, y => y
  | x, undefined => x
  | infinite s, y => if s then infinite s else y
  | x, infinite t => if t then infinite t else x
  | finite x, finite y => if x.signedMagnitude ≤ y.signedMagnitude then finite x else finite y

end ExtendedDouble

end Promotion
