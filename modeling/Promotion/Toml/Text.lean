import Promotion.Json.Parser

/-!
# Texts and keys of TOML

The characters of a TOML document, the blanks and comments between its tokens, the four kinds of
quoted texts, and keys.

Only the tab may stand for itself of all control characters, and a carriage return only before the
line break that it belongs to. So a text whose comment holds another control character goes on with
that character, which no token starts with.
-/

namespace Promotion.Toml

/-! ## Blanks, comments and line breaks -/

/-- The blanks within a line. -/
def isBlank (c : Char) : Bool :=
  c == ' ' || c == '\t'

/-- The characters that may stand for themselves in a comment or in a text of one line. -/
def isPlain (c : Char) : Bool :=
  c == '\t' || (0x20 ≤ c.toNat && c.toNat != 0x7f)

def skipBlanks (cs : List Char) : List Char :=
  cs.dropWhile isBlank

def skipComment : List Char → List Char
  | '#' :: cs => cs.dropWhile isPlain
  | cs => cs

/-- What follows the line break that a text starts with. -/
def afterBreak? : List Char → Option (List Char)
  | '\n' :: rest => some rest
  | '\r' :: '\n' :: rest => some rest
  | _ => none

/-- What follows the end of a line, before which there may be blanks and a comment. -/
def lineEnd? (cs : List Char) : Option (List Char) :=
  match skipComment (skipBlanks cs) with
  | [] => some []
  | rest => afterBreak? rest

/-- A text without the blanks, line breaks and comments it starts with; `commented` says whether it
starts within a comment. -/
def skipSpace (commented : Bool) : List Char → List Char
  | [] => []
  | '\r' :: '\n' :: cs => skipSpace false cs
  | c :: cs =>
    if c = '\n' then skipSpace false cs
    else if if commented then isPlain c else isBlank c then skipSpace commented cs
    else if c = '#' then skipSpace true cs
    else c :: cs

/-! ## Escapes -/

/-- The character of a code point that `count` hexadecimal digits give. -/
def codePoint? (count : Nat) (cs : List Char) : Option (Char × List Char) := do
  let digits ← (cs.take count).mapM Json.hexDigit?
  let code := digits.foldl (fun code digit => 16 * code + digit) 0
  if digits.length = count ∧ code.isValidChar then some (Char.ofNat code, cs.drop count) else none

/-- What follows a backslash in double quotes. -/
def escape? : List Char → Option (Char × List Char)
  | '"' :: rest => some ('"', rest)
  | '\\' :: rest => some ('\\', rest)
  | 'b' :: rest => some ('\x08', rest)
  | 'e' :: rest => some ('\x1b', rest)
  | 'f' :: rest => some ('\x0c', rest)
  | 'n' :: rest => some ('\n', rest)
  | 'r' :: rest => some ('\r', rest)
  | 't' :: rest => some ('\t', rest)
  | 'x' :: rest => codePoint? 2 rest
  | 'u' :: rest => codePoint? 4 rest
  | 'U' :: rest => codePoint? 8 rest
  | _ => none

/-! ## Quoted texts -/

/-- A text in double quotes whose opening quote has been read. -/
def basicTail (fuel : Nat) (cs : List Char) : Option (List Char × List Char) :=
  match fuel, cs with
  | _, '"' :: rest => some ([], rest)
  | fuel + 1, '\\' :: rest => do
    let (c, rest) ← escape? rest
    let (tail, rest) ← basicTail fuel rest
    some (c :: tail, rest)
  | fuel + 1, c :: rest =>
    if isPlain c then (basicTail fuel rest).map fun (tail, rest) => (c :: tail, rest) else none
  | _, _ => none

/-- A text in single quotes whose opening quote has been read. -/
def literalTail : List Char → Option (List Char × List Char)
  | [] => none
  | c :: rest =>
    if c = '\'' then some ([], rest)
    else if isPlain c then (literalTail rest).map fun (tail, rest) => (c :: tail, rest)
    else none

/-- The quotes that end a text over several lines, if a text starts with them: three that close it,
before which two more may belong to it. -/
def closing? (quote : Char) : List Char → Option (List Char × List Char)
  | a :: b :: c :: rest =>
    if a = quote ∧ b = quote ∧ c = quote then
      let own := (rest.take 2).takeWhile (· = quote)
      some (own, rest.drop own.length)
    else none
  | _ => none

/-- A text without the blanks and line breaks it starts with. -/
def skipLines : List Char → List Char
  | [] => []
  | '\r' :: '\n' :: cs => skipLines cs
  | c :: cs => if isBlank c || c == '\n' then skipLines cs else c :: cs

/-- A text over several lines whose opening quotes have been read. In double quotes escapes count,
and a backslash at the end of a line takes the line break and the blanks after it away. -/
def longTail (quote : Char) (fuel : Nat) (cs : List Char) : Option (List Char × List Char) :=
  match fuel, cs with
  | fuel + 1, c :: rest =>
    match closing? quote (c :: rest) with
    | some (own, rest) => some (own, rest)
    | none =>
      if c = '\\' ∧ quote = '"' then
        match afterBreak? (skipBlanks rest) with
        | some rest => longTail quote fuel (skipLines rest)
        | none => do
          let (c, rest) ← escape? rest
          (longTail quote fuel rest).map fun (tail, rest) => (c :: tail, rest)
      else if isPlain c || c == '\n' then
        (longTail quote fuel rest).map fun (tail, rest) => (c :: tail, rest)
      else
        (afterBreak? (c :: rest)).bind fun rest =>
          (longTail quote fuel rest).map fun (tail, rest) => ('\r' :: '\n' :: tail, rest)
  | _, _ => none

/-- A text of one line in quotes of either kind. -/
def shortText : List Char → Option (String × List Char)
  | '"' :: rest => (basicTail rest.length rest).map fun (s, rest) => (String.ofList s, rest)
  | '\'' :: rest => (literalTail rest).map fun (s, rest) => (String.ofList s, rest)
  | _ => none

/-- A text over several lines whose opening quotes have been read; a line break right after them
does not belong to it. -/
def longText (quote : Char) (cs : List Char) : Option (String × List Char) :=
  (longTail quote cs.length ((afterBreak? cs).getD cs)).map fun (s, rest) => (String.ofList s, rest)

/-- A text in quotes of any kind. -/
def textToken : List Char → Option (String × List Char)
  | '"' :: '"' :: '"' :: rest => longText '"' rest
  | '\'' :: '\'' :: '\'' :: rest => longText '\'' rest
  | cs => shortText cs

/-! ## Keys -/

/-- The characters of a name without quotes. -/
def isBare (c : Char) : Bool :=
  Text.isAlphanumeric c || c == '_' || c == '-'

def nameToken (cs : List Char) : Option (String × List Char) :=
  match cs.takeWhile isBare with
  | [] => shortText cs
  | name => some (String.ofList name, cs.dropWhile isBare)

/-- The names of a key, at least one, with points between them. Blanks may stand around each. -/
def keyToken (fuel : Nat) (cs : List Char) : Option (List String × List Char) :=
  match fuel with
  | 0 => none
  | fuel + 1 => do
    let (name, rest) ← nameToken (skipBlanks cs)
    match skipBlanks rest with
    | '.' :: rest => (keyToken fuel rest).map fun (names, rest) => (name :: names, rest)
    | rest => some ([name], rest)

end Promotion.Toml
