import Promotion.Json.Basic
import Promotion.Number.Reading

/-!
# Reading JSON

The reader accepts standard JSON texts whose arrays and objects are nested less than 128 deep.
`Json.parseRaw` keeps the members of an object as they are written, `Json.parse` sorts them by name.

The functions on lists of characters answer with what they have read and the rest of the text. Those
that call one another take a fuel, which the length of the text bounds.
-/

namespace Promotion

-- Powers are those of the core library, whichever others a theory has in scope.
attribute [local instance (20000)] instPowNat

namespace Json

/-- The blanks that may stand between tokens. -/
def isSpace (c : Char) : Bool :=
  c == ' ' || c == '\n' || c == '\t' || c == '\r'

/-- A text without the blanks it starts with. -/
def skipSpace (cs : List Char) : List Char :=
  cs.dropWhile isSpace

/-! ### Texts -/

def hexDigit? (c : Char) : Option Nat :=
  if Text.isDigit c then some (c.toNat - '0'.toNat)
  else if 'a' ≤ c ∧ c ≤ 'f' then some (c.toNat - 'a'.toNat + 10)
  else if 'A' ≤ c ∧ c ≤ 'F' then some (c.toNat - 'A'.toNat + 10)
  else none

/-- Four hexadecimal digits. -/
def hexUnit? : List Char → Option (Nat × List Char)
  | a :: b :: c :: d :: rest => do
    let a ← hexDigit? a
    let b ← hexDigit? b
    let c ← hexDigit? c
    let d ← hexDigit? d
    some (((a * 16 + b) * 16 + c) * 16 + d, rest)
  | _ => none

/-- What follows `\u`: one unit, or a pair of units that together make a character beyond the first
plane. A unit that is only half of a pair is refused. -/
def unicodeEscape? (cs : List Char) : Option (Char × List Char) := do
  let (unit, rest) ← hexUnit? cs
  if unit < 0xD800 ∨ 0xDFFF < unit then some (Char.ofNat unit, rest)
  else if 0xDC00 ≤ unit then none
  else
    match rest with
    | '\\' :: 'u' :: rest => do
      let (low, rest) ← hexUnit? rest
      if 0xDC00 ≤ low ∧ low ≤ 0xDFFF then
        some (Char.ofNat (0x10000 + (unit - 0xD800) * 0x400 + (low - 0xDC00)), rest)
      else none
    | _ => none

/-- What follows a backslash. -/
def escape? : List Char → Option (Char × List Char)
  | '"' :: rest => some ('"', rest)
  | '\\' :: rest => some ('\\', rest)
  | '/' :: rest => some ('/', rest)
  | 'b' :: rest => some ('\x08', rest)
  | 'f' :: rest => some ('\x0c', rest)
  | 'n' :: rest => some ('\n', rest)
  | 'r' :: rest => some ('\r', rest)
  | 't' :: rest => some ('\t', rest)
  | 'u' :: rest => unicodeEscape? rest
  | _ => none

/-- A text whose opening quote has been read. -/
def stringTail (fuel : Nat) (cs : List Char) : Option (List Char × List Char) :=
  match fuel, cs with
  | _, '"' :: rest => some ([], rest)
  | fuel + 1, '\\' :: rest => do
    let (c, rest) ← escape? rest
    let (tail, rest) ← stringTail fuel rest
    some (c :: tail, rest)
  | fuel + 1, c :: rest =>
    if c.toNat < 0x20 then none
    else do
      let (tail, rest) ← stringTail fuel rest
      some (c :: tail, rest)
  | _, _ => none

/-- A text with its opening quote. -/
def stringToken : List Char → Option (String × List Char)
  | '"' :: rest => (stringTail rest.length rest).map fun (s, rest) => (String.ofList s, rest)
  | _ => none

/-! ### Numbers -/

/-- The exponent of a number, if it has one. -/
def exponentToken : List Char → Option (Option Int × List Char)
  | c :: rest =>
    if c = 'e' ∨ c = 'E' then
      let (negative, rest) :=
        match rest with
        | '-' :: rest => (true, rest)
        | '+' :: rest => (false, rest)
        | rest => (false, rest)
      let (digits, rest) := Double.spanDigits rest
      if digits = [] then none
      else
        let value : Int := Double.digitsValue digits
        some (some (if negative then -value else value), rest)
    else some (none, c :: rest)
  | [] => some (none, [])

/-- The decimals of a number, if it has a point. -/
def fractionToken : List Char → Option (Option (List Char) × List Char)
  | '.' :: rest =>
    let (digits, rest) := Double.spanDigits rest
    if digits = [] then none else some (some digits, rest)
  | rest => some (none, rest)

/-- The digits before the point: a zero alone, or digits that do not start with zero. -/
def wholeToken : List Char → Option (List Char × List Char)
  | '0' :: rest => some (['0'], rest)
  | cs =>
    let (digits, rest) := Double.spanDigits cs
    if digits = [] then none else some (digits, rest)

/-- A number from its parts. Without point and exponent it is whole, if it fits 64 bits and is not
the negative zero. -/
def numberOf (negative : Bool) (whole : List Char) (fraction : Option (List Char))
    (exponent : Option Int) : Option Number :=
  let asDouble : Option Number :=
    let decimals := fraction.getD []
    (Double.ofDecimal negative (Double.digitsValue (whole ++ decimals))
      (exponent.getD 0 - decimals.length)).map .double
  if fraction.isSome ∨ exponent.isSome then asDouble
  else
    let value := Double.digitsValue whole
    if negative then
      if 0 < value ∧ value ≤ 2 ^ (63 : Nat) then some (.integer (-value)) else asDouble
    else if value < 2 ^ (64 : Nat) then some (.integer value)
    else asDouble

def numberToken (cs : List Char) : Option (Number × List Char) := do
  let (negative, rest) :=
    match cs with
    | '-' :: rest => (true, rest)
    | rest => (false, rest)
  let (whole, rest) ← wholeToken rest
  let (fraction, rest) ← fractionToken rest
  let (exponent, rest) ← exponentToken rest
  let number ← numberOf negative whole fraction exponent
  some (number, rest)

/-! ### Values -/

mutual

/-- A value, before which there may be blanks. `depth` is the number of levels still allowed. -/
def valueToken (fuel depth : Nat) (cs : List Char) : Option (Json × List Char) :=
  match fuel with
  | 0 => none
  | fuel + 1 =>
    match skipSpace cs with
    | 'n' :: 'u' :: 'l' :: 'l' :: rest => some (.null, rest)
    | 't' :: 'r' :: 'u' :: 'e' :: rest => some (.bool true, rest)
    | 'f' :: 'a' :: 'l' :: 's' :: 'e' :: rest => some (.bool false, rest)
    | '"' :: rest => (stringToken ('"' :: rest)).map fun (s, rest) => (.string s, rest)
    | '[' :: rest =>
      if depth ≤ 1 then none
      else
        match skipSpace rest with
        | ']' :: rest => some (.array [], rest)
        | rest => (itemsToken fuel (depth - 1) rest).map fun (items, rest) => (.array items, rest)
    | '{' :: rest =>
      if depth ≤ 1 then none
      else
        match skipSpace rest with
        | '}' :: rest => some (.object [], rest)
        | rest =>
          (membersToken fuel (depth - 1) rest).map fun (members, rest) => (.object members, rest)
    | rest => (numberToken rest).map fun (n, rest) => (.number n, rest)

/-- The items of an array up to its closing bracket, at least one. -/
def itemsToken (fuel depth : Nat) (cs : List Char) : Option (List Json × List Char) :=
  match fuel with
  | 0 => none
  | fuel + 1 => do
    let (item, rest) ← valueToken fuel depth cs
    match skipSpace rest with
    | ',' :: rest => do
      let (items, rest) ← itemsToken fuel depth rest
      some (item :: items, rest)
    | ']' :: rest => some ([item], rest)
    | _ => none

/-- The members of an object up to its closing brace, at least one. -/
def membersToken (fuel depth : Nat) (cs : List Char) :
    Option (List (String × Json) × List Char) :=
  match fuel with
  | 0 => none
  | fuel + 1 => do
    let (name, rest) ← stringToken (skipSpace cs)
    match skipSpace rest with
    | ':' :: rest => do
      let (value, rest) ← valueToken fuel depth rest
      match skipSpace rest with
      | ',' :: rest => do
        let (members, rest) ← membersToken fuel depth rest
        some ((name, value) :: members, rest)
      | '}' :: rest => some ([(name, value)], rest)
      | _ => none
    | _ => none

end

/-- The levels of nesting that are too many. -/
def depthLimit : Nat := 128

/-- The value a text stands for, nested less than `depth` deep. -/
def parseWithin (depth : Nat) (cs : List Char) : Option Json :=
  match valueToken (2 * cs.length + 2) depth cs with
  | some (json, rest) => if skipSpace rest = [] then some json else none
  | none => none

/-- The value a text stands for, its members as they are written. -/
def parseRaw (text : String) : Option Json :=
  parseWithin depthLimit text.toList

/-- The value a text stands for, its members sorted by name. -/
def parse (text : String) : Option Json :=
  (parseRaw text).map sorted

end Json

end Promotion
