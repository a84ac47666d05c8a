import Promotion.Config.Variables
import Promotion.Text.Blank

/-!
# Files of variables

A file of variables has lines of the form `name=value`, before which the word `export` may stand. A
value may be quoted: single quotes take it as it is, double quotes allow escapes and substitutions,
and both may go on over several lines. A comment starts after a blank.

The file adds to the variables there are: a name that has a value keeps it. The first line that
cannot be read ends the file.
-/

namespace Promotion.VariablesFile

/-! ## Lines -/

/-- Where a line stands after some of its characters. -/
inductive LineState where
  | plain
  | blank
  | escaped
  | single
  | singleEscaped
  | double
  | doubleEscaped
  | comment
deriving DecidableEq, Repr

namespace LineState

/-- The state that a character opens outside of quotes. -/
def opened (c : Char) : LineState :=
  if c = '\\' then escaped else if c = '"' then double else if c = '\'' then single else plain

def next (c : Char) : LineState → LineState
  | plain => if Text.isBlank c && c != '\n' && c != '\r' then blank else opened c
  | blank => if c = '#' then comment else opened c
  | escaped => plain
  | single => if c = '\\' then singleEscaped else if c = '\'' then plain else single
  | singleEscaped => single
  | double => if c = '\\' then doubleEscaped else if c = '"' then plain else double
  | doubleEscaped => double
  | comment => comment

end LineState

/-- The characters of a line before its comment, and the state after them. -/
def scan (state : LineState) : List Char → List Char × LineState
  | [] => ([], state)
  | c :: cs =>
    match state.next c with
    | .comment => ([], .comment)
    | next =>
      let (kept, last) := scan next cs
      (c :: kept, last)

/-- The lines of a text, each with the line break that ends it. -/
def brokenLines : List Char → List (List Char)
  | [] => []
  | c :: cs =>
    if c = '\n' then [c] :: brokenLines cs
    else
      match brokenLines cs with
      | [] => [[c]]
      | line :: lines => (c :: line) :: lines

def withoutBreak (line : List Char) : List Char :=
  match line.reverse with
  | '\n' :: '\r' :: rest => rest.reverse
  | '\n' :: rest => rest.reverse
  | _ => line

/-- Whether a line is a comment from its start. -/
def isComment (line : List Char) : Bool :=
  (line.dropWhile Text.isBlank).head? == some '#'

/-- The lines that belong together because of a quote or a blank at the end, made one. What is still
open at the end of the text is left out. -/
def wholeLines (held : List Char) (state : LineState) : List (List Char) → List (List Char)
  | [] => []
  | line :: lines =>
    if isComment (held ++ line) then wholeLines [] .plain lines
    else
      let (kept, state) := scan state line
      match state with
      | .plain => withoutBreak (held ++ kept) :: wholeLines [] .plain lines
      | .comment => (held ++ kept) :: wholeLines [] .plain lines
      | state => wholeLines (held ++ kept) state lines

/-! ## Values -/

/-- Where a value stands after some of its characters. A substitution remembers whether it stands in
double quotes, and the characters of its name. -/
inductive ValueState where
  | plain
  | single
  | double
  | escaped (quoted : Bool)
  | name (quoted : Bool) (read : List Char)
  | braced (quoted : Bool) (read : List Char)
  /-- Only a comment may follow. -/
  | done

/-- Outside of single quotes. -/
def ValueState.around (quoted : Bool) : ValueState :=
  if quoted then .double else .plain

/-- The character that follows a backslash stands for this one. -/
def escape? (c : Char) : Option Char :=
  if c = 'n' then some '\n' else if ['\\', '\'', '"', '$', ' '].contains c then some c else none

/-- The text of a value, where `value` gives what a name is substituted by. -/
def readValue (value : List Char → List Char) : ValueState → List Char → Option (List Char)
  | .plain, [] | .done, [] | .escaped false, [] => some []
  | .name false read, [] => some (value read)
  | _, [] => none
  | .done, c :: cs =>
    if c = ' ' ∨ c = '\t' then readValue value .done cs else if c = '#' then some [] else none
  | .escaped quoted, c :: cs => do
    let c ← escape? c
    (readValue value (.around quoted) cs).map (c :: ·)
  | .single, c :: cs =>
    if c = '\'' then readValue value .plain cs else (readValue value .single cs).map (c :: ·)
  | .name quoted read, c :: cs =>
    if Text.isLetterOrNumber c then readValue value (.name quoted (read ++ [c])) cs
    else if c = '{' ∧ read = [] then readValue value (.braced quoted []) cs
    else if c = '$' then (readValue value (.name quoted []) cs).map (value read ++ ·)
    else (readValue value (.around quoted) cs).map fun rest => value read ++ c :: rest
  | .braced quoted read, c :: cs =>
    if c = '}' then (readValue value (.around quoted) cs).map (value read ++ ·)
    else readValue value (.braced quoted (read ++ [c])) cs
  | .double, c :: cs =>
    if c = '$' then readValue value (.name true []) cs
    else if c = '"' then readValue value .plain cs
    else if c = '\\' then readValue value (.escaped true) cs
    else (readValue value .double cs).map (c :: ·)
  | .plain, c :: cs =>
    if c = '$' then readValue value (.name false []) cs
    else if c = '\'' then readValue value .single cs
    else if c = '"' then readValue value .double cs
    else if c = '\\' then readValue value (.escaped false) cs
    else if c = ' ' ∨ c = '\t' then readValue value .done cs
    else (readValue value .plain cs).map (c :: ·)

/-! ## Names and values -/

/-- A name, and what follows it and blanks. -/
def readName (cs : List Char) : Option (List Char × List Char) :=
  let name := cs.takeWhile fun c => Text.isAlphanumeric c || c == '_' || c == '.'
  match name with
  | [] => none
  | c :: _ =>
    if Text.isDigit c || c == '.' then none
    else some (name, (cs.drop name.length).dropWhile Text.isBlank)

/-- A name and what follows its equals sign. -/
def readAssigned (cs : List Char) : Option (List Char × List Char) := do
  match ← readName cs with
  | (name, '=' :: rest) => some (name, rest)
  | _ => none

/-- A name and what follows its equals sign, where the word `export` may stand before the name. -/
def readAssignment (cs : List Char) : Option (List Char × List Char) := do
  match ← readName cs with
  | (name, '=' :: rest) => some (name, rest)
  | (name, rest) => if name = "export".toList then readAssigned rest else none

/-- The value of a name, empty where it has none. -/
def lookup (vars : Variables) (name : List Char) : List Char :=
  ((vars.get? (String.ofList name)).getD "").toList

/-- The variables with those of lines, up to the first line that cannot be read. The blanks that a
line starts or ends with do not count, not even after a backslash. -/
def withLines (vars : Variables) : List (List Char) → Variables
  | [] => vars
  | line :: lines =>
    let cs := Text.trimmed line
    if cs = [] ∨ isComment cs then withLines vars lines
    else
      match readAssignment cs with
      | none => vars
      | some (name, rest) =>
        let rest := rest.dropWhile Text.isBlank
        match if isComment rest then some [] else readValue (lookup vars) .plain rest with
        | none => vars
        | some text =>
          let name := String.ofList name
          withLines
            (if vars.contains name then vars
              else vars.insert name (String.ofList text))
            lines

end VariablesFile

def Variables.withFile (vars : Variables) (text : String) : Variables :=
  VariablesFile.withLines vars
    (VariablesFile.wholeLines [] .plain
      (VariablesFile.brokenLines (Text.withoutMark text.toList)))

end Promotion
