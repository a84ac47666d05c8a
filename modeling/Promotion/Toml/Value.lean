import Promotion.Toml.Moment
import Promotion.Toml.Number
import Promotion.Toml.Table
import Promotion.Toml.Text

/-!
# Values of TOML

What may stand on the right of an equals sign: texts, truth values, numbers, dates and times,
arrays, and inline tables. The last two may go on over several lines, and are nested 80 deep at
most.
-/

namespace Promotion.Toml

/-- A value without quotes and brackets. -/
def wordValue? (word : List Char) : Option ConfigValue :=
  match String.ofList word with
  | "true" => some (.flag true)
  | "false" => some (.flag false)
  | _ =>
    match whole? word, real? word, moment? word with
    | some i, _, _ => some (.whole i)
    | none, some x, _ => some (.real x)
    | none, none, moment => moment.map .text

def isWordChar (c : Char) : Bool :=
  isBare c || c == '+' || c == '.' || c == ':'

/-- A value without quotes and brackets. A time may stand after a date, with a space between them.
-/
def wordToken (cs : List Char) : Option (ConfigValue × List Char) :=
  let word := cs.takeWhile isWordChar
  let rest := cs.dropWhile isWordChar
  let time :=
    match dateToken word, rest with
    | some (_, []), ' ' :: rest => rest.takeWhile isWordChar
    | _, _ => []
  if time = [] then (wordValue? word).map fun value => (value, rest)
  else (wordValue? (word ++ ' ' :: time)).map fun value => (value, rest.drop (time.length + 1))

mutual

/-- A value at the start of a text. `depth` is the number of levels still allowed. -/
def valueToken (fuel depth : Nat) (cs : List Char) : Option (ConfigValue × List Char) :=
  match fuel with
  | 0 => none
  | fuel + 1 =>
    match cs with
    | '[' :: rest =>
      if depth = 0 then none
      else (itemsToken fuel (depth - 1) (skipSpace false rest)).map fun (items, rest) =>
        (.list items, rest)
    | '{' :: rest =>
      if depth = 0 then none
      else (membersToken fuel (depth - 1) [] (skipSpace false rest)).map fun (members, rest) =>
        (.table (contents members), rest)
    | '"' :: _ | '\'' :: _ => (textToken cs).map fun (s, rest) => (.text s, rest)
    | cs => wordToken cs

/-- The items of an array up to its closing bracket. -/
def itemsToken (fuel depth : Nat) (cs : List Char) : Option (List ConfigValue × List Char) :=
  match fuel with
  | 0 => none
  | fuel + 1 =>
    match cs with
    | ']' :: rest => some ([], rest)
    | cs => do
      let (item, rest) ← valueToken fuel depth cs
      match skipSpace false rest with
      | ',' :: rest =>
        (itemsToken fuel depth (skipSpace false rest)).map fun (items, rest) =>
          (item :: items, rest)
      | ']' :: rest => some ([item], rest)
      | _ => none

/-- The members of an inline table up to its closing brace, added to those before. -/
def membersToken (fuel depth : Nat) (members : Members) (cs : List Char) :
    Option (Members × List Char) :=
  match fuel with
  | 0 => none
  | fuel + 1 =>
    match cs with
    | '}' :: rest => some (members, rest)
    | cs => do
      let (key, rest) ← keyToken cs.length cs
      match rest with
      | '=' :: rest => do
        let (value, rest) ← valueToken fuel depth (skipBlanks rest)
        let members ← members.assign? value key
        match skipSpace false rest with
        | ',' :: rest => membersToken fuel depth members (skipSpace false rest)
        | '}' :: rest => some (members, rest)
        | _ => none
      | _ => none

end

def depthLimit : Nat := 80

end Promotion.Toml
