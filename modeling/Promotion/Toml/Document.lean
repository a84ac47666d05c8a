import Promotion.Text.Blank
import Promotion.Toml.Value

/-!
# TOML documents

A document is read as a list of statements (`Toml.statements?`), which are then carried out one
after another (`Toml.Document.run?`).
-/

namespace Promotion.Toml

/-! ## Statements -/

/-- A line of a document that says something. -/
inductive Statement where
  /-- A table is opened. -/
  | table (path : List String)
  /-- One more table of an array is opened. -/
  | item (path : List String)
  /-- A key of the open table is set. -/
  | entry (key : List String) (value : ConfigValue)

/-- The statement that starts a text other than a blank line, and what follows its line. -/
def statementToken : List Char → Option (Statement × List Char)
  | '[' :: '[' :: rest => do
    let (path, rest) ← keyToken rest.length rest
    match rest with
    | ']' :: ']' :: rest => (lineEnd? rest).map fun rest => (.item path, rest)
    | _ => none
  | '[' :: rest => do
    let (path, rest) ← keyToken rest.length rest
    match rest with
    | ']' :: rest => (lineEnd? rest).map fun rest => (.table path, rest)
    | _ => none
  | cs => do
    let (key, rest) ← keyToken cs.length cs
    match rest with
    | '=' :: rest => do
      let (value, rest) ← valueToken (2 * rest.length + 1) depthLimit (skipBlanks rest)
      (lineEnd? rest).map fun rest => (.entry key value, rest)
    | _ => none

def statements? (fuel : Nat) (cs : List Char) : Option (List Statement) :=
  match fuel, skipSpace false cs with
  | _, [] => some []
  | 0, _ => none
  | fuel + 1, cs => do
    let (statement, rest) ← statementToken cs
    (statements? fuel rest).map (statement :: ·)

/-! ## Documents -/

/-- A document so far: its members, and the path of the table that is open. -/
structure Document where
  members : Members
  current : List String

namespace Document

def empty : Document :=
  ⟨[], []⟩

/-- Open the table or item that a header names. -/
def open? (d : Document) (path : List String) (change : String → Members → Option Members) :
    Option Document := do
  let name ← path.getLast?
  let members ← d.members.within? (change name) path.dropLast
  some ⟨members, path⟩

def step? (d : Document) : Statement → Option Document
  | .table path => d.open? path Members.openTable?
  | .item path => d.open? path Members.openItem?
  | .entry key value =>
    (d.members.within? (Members.assign? value key) d.current).map fun members =>
      { d with members }

def run? (d : Document) (statements : List Statement) : Option Document :=
  statements.foldlM step? d

end Document

/-- The tables and keys of a text, which the mark of the byte order may precede; none where the text
is no document. -/
def read? (text : String) : Option (Dict ConfigValue) := do
  let cs := Text.withoutMark text.toList
  let statements ← statements? cs.length cs
  (Document.empty.run? statements).map fun document => contents document.members

end Promotion.Toml
