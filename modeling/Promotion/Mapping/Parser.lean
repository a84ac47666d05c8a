import Promotion.Mapping.Rule
import Promotion.Text.Blank
import Promotion.Text.Split

/-!
# Reading mapping rules

Rules are divided by semicolons. Each is read on its own, so that a malformed one is dropped with a
diagnostic and leaves the others alone. Blanks around every part are ignored.
-/

namespace Promotion.Mapping

open Promotion.Text (trimmed pieces cutFirst isBlank isWord isDecimalDigit)

/-! ## Parts in braces -/

/-- A part in braces that ends the text: what stands between the opening brace that the text starts
with and the closing one that it ends with. -/
def braced? : List Char → Option (List Char)
  | '{' :: rest =>
    match rest.reverse with
    | '}' :: inner => some inner.reverse
    | _ => none
  | _ => none

/-! ## Targets -/

def isTargetChar (c : Char) : Bool :=
  Text.isAlphanumeric c || c == '_' || c == '-'

/-- The name in the braces after a target: word characters, at least one. -/
def kindName? (rest : List Char) : Option (List Char) := do
  let inner := trimmed (← braced? rest)
  if inner ≠ [] ∧ inner.all isWord then some inner else none

/-- A target and the kind that may follow it. A target without a kind takes a text. -/
def readTarget (cs : List Char) : Except RuleFault (String × ValueKind) :=
  let name := cs.takeWhile isTargetChar
  let rest := (cs.dropWhile isTargetChar).dropWhile isBlank
  if name = [] then .error (.target (String.ofList cs))
  else if rest = [] then .ok (String.ofList name, .string)
  else
    match kindName? rest with
    | none => .error (.target (String.ofList cs))
    | some kind =>
      (ValueKind.ofName (String.ofList kind)).map fun kind => (String.ofList name, kind)

/-! ## Paths -/

def isNameChar (c : Char) : Bool :=
  c != '{' && c != '}' && !isBlank c

/-- A step as it is written: a name, and what stands in braces behind it. -/
def readStep (cs : List Char) : Option (List Char × Option (List Char)) :=
  let name := cs.takeWhile isNameChar
  let rest := cs.dropWhile isNameChar
  if name = [] then none
  else if rest = [] then some (name, none)
  else
    match braced? rest with
    | some inner =>
      if inner.all fun c => c != '{' && c != '}' then some (name, some inner) else none
    | none => none

/-- The digits of a name that stands for an index: one to four decimal digits of any script, before
which there may be an x. -/
def indexDigits? (name : List Char) : Option (List Char) :=
  let digits :=
    match name with
    | 'x' :: digits => digits
    | digits => digits
  if digits ≠ [] ∧ digits.length ≤ 4 ∧ digits.all isDecimalDigit then some digits else none

/-- The languages of a list, blank ones left out. -/
def localeNames (list : List Char) : List String :=
  ((pieces ',' list).map trimmed).filterMap fun name =>
    if name = [] then none else some (String.ofList name)

/-- The steps that one part of a path stands for. `first` says that it starts the path. -/
def readPart (first : Bool) (part : List Char) : Except RuleFault (List Segment) :=
  let text := String.ofList part
  match readStep part with
  | none => .error (.segment text)
  | some (name, list) =>
    match indexDigits? name with
    | some digits =>
      if first then .error (.leadingIndex text)
      else if list.isSome then .error (.indexWithLocales text)
      else
        match Text.readNatural Text.maxNatural64 digits with
        | .ok position => .ok [.index position]
        | .error fault => .error (.index text fault)
    | none =>
      let field := Segment.field (String.ofList name)
      match list with
      | none => .ok [field]
      | some list =>
        match localeNames list with
        | [] => .error (.noLocales text)
        | languages => .ok [field, .locales languages]

def readParts (first : Bool) : List (List Char) → Except RuleFault (List Segment)
  | [] => .ok []
  | part :: parts => do
    let segments ← readPart first (trimmed part)
    let rest ← readParts false parts
    .ok (segments ++ rest)

/-- A path: parts divided by points. -/
def readPath (cs : List Char) : Except RuleFault (List Segment) :=
  if cs = [] then .error .emptyPath else readParts true (pieces '.' cs)

/-! ## Rules -/

/-- A rule: a path, a colon and a target. A fault of the target is found before one of the path. -/
def readRule (cs : List Char) : Except RuleFault Rule :=
  match cutFirst ':' cs with
  | none => .error .noTarget
  | some (source, target) => do
    let (target, kind) ← readTarget (trimmed target)
    let path ← readPath (trimmed source)
    .ok ⟨path, target, kind⟩

def Rule.ofText (text : String) : Except Failure Rule :=
  (readRule text.toList).mapError (.malformedRule text)

/-- What a piece between semicolons, numbered `index`, adds to the rules or to the diagnostics. -/
def compilePiece (index : Nat) (piece : List Char) : Option (Except Diagnostic Rule) :=
  let cs := trimmed piece
  if cs = [] then none
  else some ((readRule cs).mapError fun fault => ⟨index, String.ofList cs, fault⟩)

def compilePieces (index : Nat) : List (List Char) → List (Except Diagnostic Rule)
  | [] => []
  | piece :: rest => (compilePiece index piece).toList ++ compilePieces (index + 1) rest

/-- Rules in the order in which they are applied, and what was dropped. -/
structure Compiled where
  rules : List Rule
  diagnostics : List Diagnostic
deriving DecidableEq, Repr

/-- The rules of a text and the diagnostics of those that were dropped. -/
def compile (text : String) : Compiled :=
  let outcomes := compilePieces 0 (pieces ';' text.toList)
  { rules := outcomes.filterMap fun
      | .ok rule => some rule
      | .error _ => none
    diagnostics := outcomes.filterMap fun
      | .ok _ => none
      | .error diagnostic => some diagnostic }

end Promotion.Mapping
