import Promotion.Failure
import Promotion.Text.Numeral

/-!
# Mapping rules

A rule names a path into a JSON value, the attribute that receives what is found there, and the kind
of value the attribute has. Its text is `path:target{kind}`.
-/

namespace Promotion.Mapping

/-! ## Kinds of values -/

/-- The kind of an attribute's value. -/
inductive ValueKind where
  | string
  | strings
  | number
  | numbers
  | boolean
  | date
  | dates
  | time
  | location
  | locations
deriving DecidableEq, Repr

namespace ValueKind

def isPlural : ValueKind → Bool
  | strings | numbers | dates | locations => true
  | _ => false

/-- The kind of the items of a list; any other kind is its own element. -/
def element : ValueKind → ValueKind
  | strings => string
  | numbers => number
  | dates => date
  | locations => location
  | kind => kind

/-- Whether single values of the kind are texts. -/
def isStringLike (kind : ValueKind) : Bool :=
  match kind.element with
  | number | boolean => false
  | _ => true

def name : ValueKind → String
  | string => "string"
  | strings => "strings"
  | number => "number"
  | numbers => "numbers"
  | boolean => "boolean"
  | date => "date"
  | dates => "dates"
  | time => "time"
  | location => "location"
  | locations => "locations"

def ofName (name : String) : Except RuleFault ValueKind :=
  match name with
  | "string" => .ok string
  | "strings" => .ok strings
  | "number" => .ok number
  | "numbers" => .ok numbers
  | "boolean" => .ok boolean
  | "date" => .ok date
  | "dates" => .ok dates
  | "time" => .ok time
  | "location" => .ok location
  | "locations" => .ok locations
  | other => .error (.unknownKind other)

end ValueKind

/-! ## Paths and rules -/

/-- One step of a path. -/
inductive Segment where
  /-- A member of an object. -/
  | field (name : String)
  /-- An item of a list. -/
  | index (position : Nat)
  /-- The first of several languages that is there. -/
  | locales (languages : List String)
deriving DecidableEq, Repr

def Segment.text : Segment → String
  | field name => name
  | index position => "x" ++ String.ofList (Text.numeral position)
  | locales languages => "\x7b" ++ String.intercalate "," languages ++ "\x7d"

/-- What divides a step from the step before it. -/
def Segment.joint : Segment → String
  | locales _ => ""
  | _ => "."

/-- The text of a path. Languages follow their field without a point. -/
def pathText : List Segment → String
  | [] => ""
  | first :: rest =>
    rest.foldl (fun text segment => text ++ segment.joint ++ segment.text) first.text

structure Rule where
  path : List Segment
  target : String
  kind : ValueKind
deriving DecidableEq, Repr

def Rule.text (rule : Rule) : String :=
  pathText rule.path ++ ":" ++ rule.target ++ "\x7b" ++ rule.kind.name ++ "\x7d"

/-- A rule that was dropped, with its place among the rules and the reason. -/
structure Diagnostic where
  index : Nat
  text : String
  fault : RuleFault
deriving DecidableEq, Repr

/-- The line that reports a dropped rule. -/
def Diagnostic.report (d : Diagnostic) : String :=
  "规则 #" ++ String.ofList (Text.numeral d.index) ++ " " ++ ticked d.text ++ ": " ++ d.fault.message

end Promotion.Mapping
