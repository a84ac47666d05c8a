import Promotion.Text.Class
import Promotion.Text.Numeral

/-!
# Slugs

A promotion's custom line item is known by a slug, made of the promotion's name in lower-case ASCII
letters and digits. Slugs of one update are kept apart by numbers at their end.
-/

namespace Promotion

namespace Slug

/-- What the slug of every promotion starts with. -/
def marker : String := "promotion-"

/-- The longest slug made of a name. -/
def maxLength : Nat := 200

/-- The letters and digits of a name in lower case, with one hyphen for each run of other
characters. `hyphened` says that a hyphen would be out of place: at the start, and after a hyphen.
-/
def squeeze (hyphened : Bool) : List Char → List Char
  | [] => []
  | c :: cs =>
    if Text.isAlphanumeric c then Text.lower c :: squeeze false cs
    else if hyphened then squeeze true cs
    else '-' :: squeeze true cs

def withoutHyphens (cs : List Char) : List Char :=
  (cs.reverse.dropWhile (· == '-')).reverse

/-- The slug of a name: runs of letters and digits with single hyphens between them, cut to the
greatest length. It is empty where the name has no ASCII letter or digit. -/
def ofName (name : String) : String :=
  String.ofList (withoutHyphens ((squeeze true name.toList).take maxLength))

/-- A slug with a number after a hyphen. -/
def numbered (slug : String) (n : Nat) : String :=
  slug ++ "-" ++ String.ofList (Text.numeral n)

/-- The slug of a promotion. The effect's index stands in for a name without letters and digits. -/
def ofPromotion (name : String) (index : Nat) : String :=
  let body := ofName name
  if body = "" then numbered (marker ++ "effect") index else marker ++ body

/-! ### Keeping slugs apart -/

/-- The first numbered slug that is free, from `n` on. One more than there are claimed slugs need be
tried. -/
def firstFree (claimed : List String) (slug : String) : Nat → Nat → String
  | 0, n => numbered slug n
  | tries + 1, n =>
    if numbered slug n ∈ claimed then firstFree claimed slug tries (n + 1) else numbered slug n

/-- The slug itself, if it is free, else the first free one of those numbered from two on. -/
def claim (claimed : List String) (slug : String) : String :=
  if slug ∈ claimed then firstFree claimed slug claimed.length 2 else slug

end Slug

end Promotion
