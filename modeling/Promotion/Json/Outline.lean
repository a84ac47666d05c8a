import Promotion.Json.Parser

/-!
# The parts of a JSON text

A text can be taken apart into the texts of its items or members before any of them is read. Of a
part that is never read only the grammar is checked: its numbers may be of any size, its escapes may
be halves of characters, and its arrays and objects may be nested to any depth.
-/

namespace Promotion.Json

/-! ### Passing over values -/

/-- What follows an escape whose backslash has been read. -/
def skipEscape : List Char → Option (List Char)
  | 'u' :: rest => (hexUnit? rest).map (·.2)
  | c :: rest => if ['"', '\\', '/', 'b', 'f', 'n', 'r', 't'].contains c then some rest else none
  | [] => none

/-- What follows a text whose opening quote has been read. -/
def skipString (fuel : Nat) (cs : List Char) : Option (List Char) :=
  match fuel, cs with
  | _, '"' :: rest => some rest
  | fuel + 1, '\\' :: rest => (skipEscape rest).bind (skipString fuel)
  | fuel + 1, c :: rest => if c.toNat < 0x20 then none else skipString fuel rest
  | _, _ => none

def skipNumber (cs : List Char) : Option (List Char) := do
  let (_, rest) ← wholeToken (if cs.head? = some '-' then cs.drop 1 else cs)
  let (_, rest) ← fractionToken rest
  let (_, rest) ← exponentToken rest
  some rest

mutual

/-- What follows a value, before which there may be blanks. -/
def skipValue (fuel : Nat) (cs : List Char) : Option (List Char) :=
  match fuel with
  | 0 => none
  | fuel + 1 =>
    match skipSpace cs with
    | 'n' :: 'u' :: 'l' :: 'l' :: rest => some rest
    | 't' :: 'r' :: 'u' :: 'e' :: rest => some rest
    | 'f' :: 'a' :: 'l' :: 's' :: 'e' :: rest => some rest
    | '"' :: rest => skipString rest.length rest
    | '[' :: rest =>
      match skipSpace rest with
      | ']' :: rest => some rest
      | rest => skipItems fuel rest
    | '{' :: rest =>
      match skipSpace rest with
      | '}' :: rest => some rest
      | rest => skipMembers fuel rest
    | rest => skipNumber rest

/-- What follows the items of an array, at least one, and its closing bracket. -/
def skipItems (fuel : Nat) (cs : List Char) : Option (List Char) :=
  match fuel with
  | 0 => none
  | fuel + 1 => do
    let rest ← skipValue fuel cs
    match skipSpace rest with
    | ',' :: rest => skipItems fuel rest
    | ']' :: rest => some rest
    | _ => none

/-- What follows the members of an object, at least one, and its closing brace. -/
def skipMembers (fuel : Nat) (cs : List Char) : Option (List Char) :=
  match fuel with
  | 0 => none
  | fuel + 1 =>
    match skipSpace cs with
    | '"' :: rest => do
      let rest ← skipString rest.length rest
      match skipSpace rest with
      | ':' :: rest => do
        let rest ← skipValue fuel rest
        match skipSpace rest with
        | ',' :: rest => skipMembers fuel rest
        | '}' :: rest => some rest
        | _ => none
      | _ => none
    | _ => none

end

/-! ### Parts -/

/-- The text of a value, and what follows it. -/
def valueText (cs : List Char) : Option (List Char × List Char) :=
  (skipValue (2 * cs.length + 2) cs).map fun rest => (cs.take (cs.length - rest.length), rest)

/-- The texts of the items up to the closing bracket, at least one. -/
def itemTexts (fuel : Nat) (cs : List Char) : Option (List (List Char) × List Char) :=
  match fuel with
  | 0 => none
  | fuel + 1 => do
    let (item, rest) ← valueText cs
    match skipSpace rest with
    | ',' :: rest => (itemTexts fuel rest).map fun (items, rest) => (item :: items, rest)
    | ']' :: rest => some ([item], rest)
    | _ => none

/-- The names of the members up to the closing brace with the texts of their values, at least one.
The names are read. -/
def memberTexts (fuel : Nat) (cs : List Char) : Option (List (String × List Char) × List Char) :=
  match fuel with
  | 0 => none
  | fuel + 1 => do
    let (name, rest) ← stringToken (skipSpace cs)
    match skipSpace rest with
    | ':' :: rest => do
      let (value, rest) ← valueText rest
      match skipSpace rest with
      | ',' :: rest =>
        (memberTexts fuel rest).map fun (members, rest) => ((name, value) :: members, rest)
      | '}' :: rest => some ([(name, value)], rest)
      | _ => none
    | _ => none

/-- What a text is made of. -/
inductive Outline where
  | items (texts : List (List Char))
  | members (texts : List (String × List Char))

/-- The parts of a text that is an array or an object. -/
def outline? (text : List Char) : Option Outline := do
  let (outline, rest) ←
    match skipSpace text with
    | '[' :: rest =>
      match skipSpace rest with
      | ']' :: rest => some (Outline.items [], rest)
      | rest => (itemTexts rest.length rest).map fun (items, rest) => (.items items, rest)
    | '{' :: rest =>
      match skipSpace rest with
      | '}' :: rest => some (Outline.members [], rest)
      | rest => (memberTexts rest.length rest).map fun (members, rest) => (.members members, rest)
    | _ => none
  if skipSpace rest = [] then some outline else none

variable {α : Type}

/-- The items of an array, each read on its own. -/
def itemsOf? (read : List Char → Option α) (text : List Char) : Option (List α) := do
  match ← outline? text with
  | .items items => items.mapM read
  | .members _ => none

/-- The members of an object, each read on its own. Where a name is written more than once, the last
one counts. -/
def membersOf? (read : List Char → Option α) (text : List Char) : Option (Dict α) := do
  match ← outline? text with
  | .items _ => none
  | .members members =>
    let entries ← members.mapM fun (name, value) => (read value).map fun value => (name, value)
    some (Dict.ofList entries)

/-- The texts of the fields of a record, each of which may be written once. An array holds the first
of them in order. -/
def fieldTexts? (names : List String) (text : List Char) : Option (List (String × List Char)) := do
  match ← outline? text with
  | .items items => if items.length ≤ names.length then some (names.zip items) else none
  | .members members =>
    let known := members.filter fun (name, _) => names.contains name
    if (known.map (·.1)).Nodup then some known else none

end Promotion.Json
