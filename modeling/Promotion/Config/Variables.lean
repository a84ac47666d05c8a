import Promotion.Config.Value

/-!
# Variables

Variables are names with texts. Those whose name starts with `PROMO_` are configuration: in the rest
of the name two underscores divide the parts of a path, and the case of letters does not count.
-/

namespace Promotion

abbrev Variables := Dict String

namespace Variables

/-- What the names of configuration start with, in small letters. -/
def marker : List Char := "promo_".toList

/-- The small form of a capital in a name. The sign of the unit kelvin is a capital too, and no
letter beyond ASCII has to be told from its small form, because a name with one is no path. -/
def small (c : Char) : Char :=
  if c = '\u212A' then 'k' else Text.lower c

/-- A name with a point for every two underscores. -/
def pointed : List Char → List Char
  | '_' :: '_' :: cs => '.' :: pointed cs
  | c :: cs => c :: pointed cs
  | [] => []

/-- The key a name stands for, if it is one of configuration. -/
def key? (name : String) : Option String :=
  let cs := name.toList.map small
  if marker.isPrefixOf cs then some (String.ofList (pointed (cs.drop marker.length))) else none

/-- A text as the value it looks like: a truth value, a whole number of 64 bits, a double, or else
the text itself. -/
def valueOf (text : String) : ConfigValue :=
  let cs := text.toList
  match String.ofList (cs.map Text.lower) with
  | "true" => .flag true
  | "false" => .flag false
  | _ =>
    match Text.readInteger Text.maxInteger64 cs with
    | .ok i => .whole i
    | .error _ => ((ExtendedDouble.read? cs).map .real).getD (.text text)

def entries (vars : Variables) : List (String × ConfigValue) :=
  vars.filterMap fun (name, text) => (key? name).map fun key => (key, valueOf text)

end Variables

end Promotion
