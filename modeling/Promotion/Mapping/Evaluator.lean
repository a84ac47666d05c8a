import Promotion.Mapping.Rule
import Promotion.Number.Reading
import Promotion.Text.Blank
import Promotion.Text.Split

/-!
# Applying mapping rules

A rule's path is followed into a JSON value, where null counts as nothing. What is found there is
taken to the rule's kind. A rule that finds nothing, or nothing of its kind, adds no attribute; of
several rules with one target the last that finds something counts.
-/

namespace Promotion.Mapping

/-! ## Following a path -/

/-- A value that is not null. -/
def present? (json : Json) : Option Json :=
  if json.isNull then none else some json

def Segment.follow? : Segment → Json → Option Json
  | field name, json => (json.member? name).bind present?
  | index position, json => (json.array?.bind fun items => items[position]?).bind present?
  | locales languages, json =>
    languages.findSome? fun language => (json.member? language).bind present?

def resolve? : List Segment → Json → Option Json
  | [], json => some json
  | segment :: path, json => (segment.follow? json).bind (resolve? path)

/-! ## Kinds of values -/

/-- The language tags: two or three small letters, then parts of two to eight letters and digits. -/
def isLanguageTag (key : String) : Bool :=
  match Text.pieces '-' key.toList with
  | [] => false
  | primary :: parts =>
    2 ≤ primary.length && primary.length ≤ 3 && primary.all Text.isLower
      && parts.all fun part =>
        2 ≤ part.length && part.length ≤ 8 && part.all Text.isAlphanumeric

/-- Texts under language tags, at least one. -/
def isLocalized (members : Dict Json) : Bool :=
  !members.isEmpty && members.all fun (key, value) => isLanguageTag key && value.isString

/-- A value as a text. Of a text in several languages, the one in `language`. -/
def asText? (language : String) : Json → Option Json
  | .string s => some (.string s)
  | .number n => some (.string (String.ofList n.text))
  | .bool b => some (.string (if b then "true" else "false"))
  | .object members =>
    if isLocalized members then
      ((Dict.get? members language).bind Json.string?).map .string
    else none
  | _ => none

/-- The number a text stands for: a whole number of 64 bits, or else a double. -/
def readNumber? (s : String) : Option Number :=
  let cs := Text.trimmed s.toList
  match Text.readInteger Text.maxInteger64 cs with
  | .ok i => some (.integer i)
  | .error _ => (Double.read? cs).map .double

def asNumber? : Json → Option Json
  | .number n => some (.number n)
  | .string s => (readNumber? s).map .number
  | _ => none

/-- A value as a truth value, which only two texts are. -/
def asBoolean? : Json → Option Json
  | .bool b => some (.bool b)
  | .string "true" => some (.bool true)
  | .string "false" => some (.bool false)
  | _ => none

/-- A value as a single value of a kind. -/
def asScalar? (language : String) (kind : ValueKind) (json : Json) : Option Json :=
  match kind.element with
  | .number => asNumber? json
  | .boolean => asBoolean? json
  | _ => asText? language json

/-- The items of a list, or a single value as the only item. -/
def itemsOf : Json → List Json
  | .array items => items
  | json => [json]

/-- A value taken to a kind. A list keeps those of its items that can be taken to the kind of its
items, and at least one must. -/
def coerce? (language : String) (kind : ValueKind) (json : Json) : Option Json :=
  if kind.isPlural then
    match (itemsOf json).filterMap (asScalar? language kind.element) with
    | [] => none
    | items => some (.array items)
  else asScalar? language kind json

/-! ## Rules -/

/-- The value a rule gives to its attribute. -/
def Rule.evaluate (language : String) (source : Json) (rule : Rule) : Except Failure Json :=
  match (resolve? rule.path source).bind (coerce? language rule.kind) with
  | some value => .ok value
  | none => .error (.unresolvable rule.text)

/-- The attributes that rules give, one after another. -/
def evaluate (language : String) (rules : List Rule) (source : Json) : Dict Json :=
  rules.foldl
    (fun attributes rule =>
      match rule.evaluate language source with
      | .ok value => attributes.insert rule.target value
      | .error _ => attributes)
    []

end Promotion.Mapping
