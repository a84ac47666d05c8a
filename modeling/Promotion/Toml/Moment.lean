import Promotion.Text.Class

/-!
# Dates and times of TOML

A date, a time of day, or both with an offset or without. A document says them as texts: the letters
are capitals, seconds are always there, and decimals of a second, of which nine count, do not end in
zero.
-/

namespace Promotion.Toml

/-- The number that `count` digits give, with the digits themselves. -/
def digitsToken (count : Nat) (cs : List Char) : Option (Nat × List Char × List Char) := do
  let digits := cs.take count
  let values ← digits.mapM Text.digit?
  if values.length = count then
    some (values.foldl (fun value d => 10 * value + d) 0, digits, cs.drop count)
  else none

/-- The number that two digits give, if it lies within bounds. -/
def fieldToken (low high : Nat) (cs : List Char) : Option (Nat × List Char × List Char) :=
  (digitsToken 2 cs).filter fun (value, _, _) => low ≤ value ∧ value ≤ high

def isLeapYear (year : Nat) : Bool :=
  year % 4 == 0 && (year % 100 != 0 || year % 400 == 0)

def daysOf (year month : Nat) : Nat :=
  if month = 2 then (if isLeapYear year then 29 else 28)
  else if month = 4 ∨ month = 6 ∨ month = 9 ∨ month = 11 then 30
  else 31

/-- What follows a mark. -/
def after? (mark : Char) : List Char → Option (List Char)
  | c :: rest => if c = mark then some rest else none
  | [] => none

def dateToken (cs : List Char) : Option (List Char × List Char) := do
  let (year, yearDigits, rest) ← digitsToken 4 cs
  let (month, monthDigits, rest) ← fieldToken 1 12 (← after? '-' rest)
  let (_, dayDigits, rest) ← fieldToken 1 (daysOf year month) (← after? '-' rest)
  some (yearDigits ++ '-' :: monthDigits ++ '-' :: dayDigits, rest)

/-- The decimals of a second with the point before them; nothing where they are all zero. -/
def decimalsText (digits : List Char) : List Char :=
  match ((digits.take 9).reverse.dropWhile (· = '0')).reverse with
  | [] => []
  | kept => '.' :: kept

/-- The seconds of a time, with their decimals. -/
def secondsToken (cs : List Char) : Option (List Char × List Char) := do
  let (_, seconds, rest) ← fieldToken 0 60 cs
  match rest with
  | '.' :: rest =>
    let digits := rest.takeWhile Text.isDigit
    if digits = [] then none
    else some (seconds ++ decimalsText digits, rest.drop digits.length)
  | rest => some (seconds, rest)

/-- A time of day, whose seconds need not be given. -/
def timeToken (cs : List Char) : Option (List Char × List Char) := do
  let (_, hours, rest) ← fieldToken 0 23 cs
  let (_, minutes, rest) ← fieldToken 0 59 (← after? ':' rest)
  let (seconds, rest) ←
    match rest with
    | ':' :: rest => secondsToken rest
    | rest => some ("00".toList, rest)
  some (hours ++ ':' :: minutes ++ ':' :: seconds, rest)

/-- The distance from universal time, if there is one. A distance of nothing has a plus sign. -/
def offsetToken : List Char → Option (List Char × List Char)
  | [] => some ([], [])
  | c :: rest =>
    if c = 'Z' ∨ c = 'z' then some (['Z'], rest)
    else if c = '+' ∨ c = '-' then do
      let (hour, hours, rest) ← fieldToken 0 23 rest
      let (minute, minutes, rest) ← fieldToken 0 59 (← after? ':' rest)
      let sign := if hour = 0 ∧ minute = 0 then '+' else c
      some (sign :: hours ++ ':' :: minutes, rest)
    else none

/-- The text of a date, of a time, or of both. -/
def moment? (cs : List Char) : Option String := do
  let (text, rest) ←
    match dateToken cs with
    | none => timeToken cs
    | some (date, []) => some (date, [])
    | some (date, mark :: rest) =>
      if mark = 'T' ∨ mark = 't' ∨ mark = ' ' then do
        let (time, rest) ← timeToken rest
        let (offset, rest) ← offsetToken rest
        some (date ++ 'T' :: time ++ offset, rest)
      else none
  if rest = [] then some (String.ofList text) else none

end Promotion.Toml
