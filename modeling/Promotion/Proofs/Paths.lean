import Mathlib.Data.List.Nodup
import Promotion.Mapping.Evaluator
import Promotion.Proofs.Dict

/-!
# Following paths

A path is followed step by step, and null counts as nothing at every step. So a path made of two is
the second followed from where the first leads (`resolve?_append`), no step leads to null, and a
list of languages is a choice made once: what follows it is not tried with the next language.

That null counts as nothing is said here by taking every member away whose value is null, at any
depth (`Json.withoutNulls`): it makes no difference to what a path finds but for the nulls inside of
it (`resolve?_withoutNulls`). Items of lists stay where they are, because an index counts null items too.
-/

namespace Promotion

namespace Json

mutual

/-- A value without the members that are null, at any depth. -/
def withoutNulls : Json → Json
  | .array items => .array (itemsWithoutNulls items)
  | .object members => .object (membersWithoutNulls members)
  | json => json

def itemsWithoutNulls : List Json → List Json
  | [] => []
  | item :: items => withoutNulls item :: itemsWithoutNulls items

/-- The members that are not null, with `withoutNulls` on their values. -/
def membersWithoutNulls : List (String × Json) → List (String × Json)
  | [] => []
  | (name, value) :: members =>
    if value.isNull then membersWithoutNulls members
    else (name, withoutNulls value) :: membersWithoutNulls members

end

/-- In every object, at any depth, each name stands once. -/
inductive DistinctNames : Json → Prop where
  | null : DistinctNames .null
  | bool (b : Bool) : DistinctNames (.bool b)
  | number (n : Number) : DistinctNames (.number n)
  | string (s : String) : DistinctNames (.string s)
  | array {items : List Json} (h : ∀ item ∈ items, DistinctNames item) :
      DistinctNames (.array items)
  | object {members : Dict Json} (hnames : members.keys.Nodup)
      (h : ∀ member ∈ members, DistinctNames member.2) : DistinctNames (.object members)

variable {json value : Json} {name : String} {members : Dict Json}

-- ---------------------------------------------------------------------------
-- Distinct names
-- ---------------------------------------------------------------------------

theorem DistinctNames.of_member (h : json.DistinctNames)
    (hmember : json.member? name = some value) : value.DistinctNames := by
  obtain ⟨members, hobject, hvalue⟩ := Option.bind_eq_some_iff.mp hmember
  cases h with
  | object _ hmembers =>
    cases hobject
    exact hmembers _ (Dict.mem_of_get? hvalue)
  | _ => cases hobject

theorem DistinctNames.of_item {items : List Json} {position : Nat} (h : json.DistinctNames)
    (hitems : json.array? = some items) (hitem : items[position]? = some value) :
    value.DistinctNames := by
  cases h with
  | array hall =>
    cases hitems
    exact hall value (List.mem_of_getElem? hitem)
  | _ => cases hitems

mutual

/-- What was read has distinct names: of a name written more than once the last one counts. -/
theorem distinctNames_sorted : (json : Json) → json.sorted.DistinctNames
  | .null => .null
  | .bool b => .bool b
  | .number n => .number n
  | .string s => .string s
  | .array items => .array (distinctNames_sortedItems items)
  | .object members =>
    .object (Dict.sorted_ofList _).nodup_keys fun member hmember =>
      distinctNames_sortedMembers members member (Dict.mem_of_mem_ofList hmember)

theorem distinctNames_sortedItems :
    (items : List Json) → ∀ item ∈ sortedItems items, item.DistinctNames
  | [] => nofun
  | item :: items =>
    List.forall_mem_cons.mpr ⟨distinctNames_sorted item, distinctNames_sortedItems items⟩

theorem distinctNames_sortedMembers :
    (members : List (String × Json)) → ∀ member ∈ sortedMembers members, member.2.DistinctNames
  | [] => nofun
  | (_, value) :: members =>
    List.forall_mem_cons.mpr ⟨distinctNames_sorted value, distinctNames_sortedMembers members⟩

end

-- ---------------------------------------------------------------------------
-- Nulls taken away
-- ---------------------------------------------------------------------------

theorem itemsWithoutNulls_eq_map (items : List Json) :
    itemsWithoutNulls items = items.map withoutNulls := by
  induction items with
  | nil => rfl
  | cons item items ih => rw [itemsWithoutNulls, ih, List.map_cons]

theorem isNull_withoutNulls (json : Json) : json.withoutNulls.isNull = json.isNull := by
  cases json <;> rfl

theorem present?_withoutNulls (json : Json) :
    Mapping.present? json.withoutNulls = (Mapping.present? json).map withoutNulls := by
  rw [Mapping.present?, Mapping.present?, isNull_withoutNulls]
  split <;> rfl

/-- Of the members those that are not null are still there. -/
theorem get?_membersWithoutNulls (hnames : members.keys.Nodup) (name : String) :
    Dict.get? (membersWithoutNulls members) name =
      ((Dict.get? members name).bind Mapping.present?).map withoutNulls := by
  induction members with
  | nil => rfl
  | cons member members ih =>
    obtain ⟨key, value⟩ := member
    obtain ⟨hkey, hrest⟩ := List.nodup_cons.mp hnames
    rw [membersWithoutNulls, Dict.get?_cons]
    by_cases hname : name = key
    · subst hname
      rw [if_pos rfl]
      cases hnull : value.isNull with
      | true =>
        -- the name stands once, so nothing is found behind the member taken away
        rw [if_pos rfl, ih hrest, Dict.get?_eq_none_iff.mpr hkey]
        simp [Mapping.present?, hnull]
      | false => simp [Mapping.present?, hnull, Dict.get?_cons]
    · rw [if_neg hname, ← ih hrest]
      split
      · rfl
      · rw [Dict.get?_cons, if_neg hname]

theorem member?_withoutNulls (h : json.DistinctNames) (name : String) :
    json.withoutNulls.member? name =
      ((json.member? name).bind Mapping.present?).map withoutNulls := by
  cases h with
  | object hnames _ => exact get?_membersWithoutNulls hnames name
  | _ => rfl

theorem array?_withoutNulls (json : Json) :
    json.withoutNulls.array? = json.array?.map (·.map withoutNulls) := by
  cases json with
  | array items => exact congrArg some (itemsWithoutNulls_eq_map items)
  | _ => rfl

end Json

namespace Mapping

variable {path before after : List Segment} {json source value : Json} {languages : List String}

-- ---------------------------------------------------------------------------
-- Single steps
-- ---------------------------------------------------------------------------

theorem present?_eq_some_iff : present? json = some value ↔ json = value ∧ value ≠ .null := by
  constructor
  · intro h
    obtain ⟨hnull, hvalue⟩ := Option.ite_none_left_eq_some.mp h
    cases hvalue
    exact ⟨rfl, fun hjson => hnull (hjson ▸ rfl)⟩
  · rintro ⟨rfl, hnull⟩
    cases json with
    | null => exact absurd rfl hnull
    | _ => rfl

theorem bind_present?_eq_some_iff {found : Option Json} :
    found.bind present? = some value ↔ found = some value ∧ value ≠ .null := by
  cases found with
  | none => exact iff_of_false nofun fun h => nomatch h.1
  | some json => rw [Option.bind_some, present?_eq_some_iff, Option.some_inj]

/-- A step leads into an object or a list, and never to null. -/
theorem exists_of_follow? {segment : Segment} (h : segment.follow? json = some value) :
    value ≠ .null ∧ ((∃ name, json.member? name = some value) ∨
      ∃ (items : List Json) (position : Nat), json.array? = some items ∧
        items[position]? = some value) := by
  cases segment with
  | field name =>
    obtain ⟨hvalue, hnull⟩ := bind_present?_eq_some_iff.mp h
    exact ⟨hnull, .inl ⟨name, hvalue⟩⟩
  | index position =>
    obtain ⟨hvalue, hnull⟩ := bind_present?_eq_some_iff.mp h
    obtain ⟨items, hitems, hitem⟩ := Option.bind_eq_some_iff.mp hvalue
    exact ⟨hnull, .inr ⟨items, position, hitems, hitem⟩⟩
  | locales languages =>
    obtain ⟨language, -, hfound⟩ := List.exists_of_findSome?_eq_some h
    obtain ⟨hvalue, hnull⟩ := bind_present?_eq_some_iff.mp hfound
    exact ⟨hnull, .inl ⟨language, hvalue⟩⟩

theorem distinctNames_of_follow? {segment : Segment} (hjson : json.DistinctNames)
    (h : segment.follow? json = some value) : value.DistinctNames := by
  obtain ⟨-, ⟨name, hmember⟩ | ⟨items, position, hitems, hitem⟩⟩ := exists_of_follow? h
  · exact hjson.of_member hmember
  · exact hjson.of_item hitems hitem

/-- A list of languages leads to the first of its fields that is there. -/
theorem follow?_locales (languages : List String) (json : Json) :
    (Segment.locales languages).follow? json =
      languages.findSome? fun language => (Segment.field language).follow? json := rfl

theorem follow?_field_withoutNulls (h : json.DistinctNames) (name : String) :
    (Segment.field name).follow? json.withoutNulls =
      ((Segment.field name).follow? json).map Json.withoutNulls := by
  simp only [Segment.follow?, Json.member?_withoutNulls h]
  cases json.member? name with
  | none => rfl
  | some member =>
    cases hpresent : present? member with
    | none => simp [hpresent]
    | some value =>
      obtain ⟨rfl, -⟩ := present?_eq_some_iff.mp hpresent
      simp [hpresent, Json.present?_withoutNulls]

/-- Taking nulls away and one step can be done in either order. -/
theorem follow?_withoutNulls (h : json.DistinctNames) (segment : Segment) :
    segment.follow? json.withoutNulls = (segment.follow? json).map Json.withoutNulls := by
  cases segment with
  | field name => exact follow?_field_withoutNulls h name
  | index position =>
    simp only [Segment.follow?, Json.array?_withoutNulls]
    cases json.array? with
    | none => rfl
    | some items =>
      simp only [Option.map_some, Option.bind_some, List.getElem?_map]
      cases items[position]? with
      | none => rfl
      | some item => exact Json.present?_withoutNulls item
  | locales languages =>
    rw [follow?_locales, follow?_locales, List.map_findSome?]
    congr 1
    funext language
    exact follow?_field_withoutNulls h language

-- ---------------------------------------------------------------------------
-- Paths
-- ---------------------------------------------------------------------------

theorem resolve?_append (before after : List Segment) (source : Json) :
    resolve? (before ++ after) source = (resolve? before source).bind (resolve? after) := by
  induction before generalizing source with
  | nil => rfl
  | cons segment before ih =>
    rw [List.cons_append, resolve?, resolve?, Option.bind_assoc]
    congr 1
    funext json
    exact ih json

theorem resolve?_singleton (segment : Segment) (source : Json) :
    resolve? [segment] source = segment.follow? source :=
  Option.bind_fun_some _

/-- A field leads to the member of its name, unless that is null. -/
theorem resolve?_field_eq_some_iff {name : String} :
    resolve? [.field name] source = some value ↔
      source.member? name = some value ∧ value ≠ .null := by
  rw [resolve?_singleton]
  exact bind_present?_eq_some_iff

/-- An index leads to the item of a list at its position, unless that is null. -/
theorem resolve?_index_eq_some_iff {position : Nat} :
    resolve? [.index position] source = some value ↔
      (∃ items : List Json, source.array? = some items ∧ items[position]? = some value) ∧
        value ≠ .null := by
  rw [resolve?_singleton, ← Option.bind_eq_some_iff]
  exact bind_present?_eq_some_iff

theorem resolve?_ne_null (hpath : path ≠ []) (source : Json) :
    resolve? path source ≠ some .null := by
  -- the last step does not lead to null
  obtain ⟨earlier, segment, rfl⟩ := List.eq_nil_or_concat path |>.resolve_left hpath
  rw [List.concat_eq_append, resolve?_append]
  intro hnull
  obtain ⟨json, -, hlast⟩ := Option.bind_eq_some_iff.mp hnull
  rw [resolve?_singleton] at hlast
  exact (exists_of_follow? hlast).1 rfl

theorem resolve?_locales (before : List Segment) (languages : List String) (source : Json) :
    resolve? (before ++ [.locales languages]) source =
      languages.findSome? fun language => resolve? (before ++ [.field language]) source := by
  simp only [resolve?_append]
  cases resolve? before source with
  | none => exact (List.findSome?_eq_none_iff.mpr fun _ _ => rfl).symm
  | some json => simp only [Option.bind_some, resolve?_singleton, follow?_locales]

theorem resolve?_withoutNulls (h : source.DistinctNames) (path : List Segment) :
    resolve? path source.withoutNulls = (resolve? path source).map Json.withoutNulls := by
  induction path generalizing source with
  | nil => rfl
  | cons segment path ih =>
    rw [resolve?, resolve?, follow?_withoutNulls h]
    cases hstep : segment.follow? source with
    | none => rfl
    | some json => exact ih (distinctNames_of_follow? h hstep)

/-- Paths are followed step by step, and null counts as nothing. What any path leads to follows from
what the empty path, a field and an index lead to, with the laws for two paths in turn and for
languages. -/
theorem resolve?_stepwise (before after : List Segment) (source : Json) :
    (resolve? [] source = some source ∧
        (∀ name value, resolve? [.field name] source = some value ↔
          source.member? name = some value ∧ value ≠ .null) ∧
        ∀ position value, resolve? [.index position] source = some value ↔
          (∃ items : List Json, source.array? = some items ∧ items[position]? = some value) ∧
            value ≠ .null) ∧
      resolve? (before ++ after) source = (resolve? before source).bind (resolve? after) ∧
      (before ≠ [] → resolve? before source ≠ some .null) ∧
      (∀ languages, resolve? (before ++ [.locales languages]) source =
        languages.findSome? fun language => resolve? (before ++ [.field language]) source) ∧
      (source.DistinctNames →
        resolve? before source.withoutNulls =
          (resolve? before source).map Json.withoutNulls) := by
  refine ⟨⟨rfl, fun name value => resolve?_field_eq_some_iff,
    fun position value => resolve?_index_eq_some_iff⟩, resolve?_append before after source, ?_⟩
  exact ⟨fun hpath => resolve?_ne_null hpath source,
    fun languages => resolve?_locales before languages source,
    fun h => resolve?_withoutNulls h before⟩

theorem resolve?_stepwise_past_null_language :
    let tea : Json := .object [("note", .null), ("text", .string "Tee")]
    let source : Json := .object
      [("name", .object [("de", .array [.null, tea]), ("en", .null)]), ("sku", .null)]
    let path : List Segment := [.field "name", .locales ["en", "de"], .index 1]
    (path ≠ [] ∧ source.DistinctNames) ∧ resolve? path source ≠ some .null ∧
      resolve? path source.withoutNulls = some (.object [("text", .string "Tee")]) := by
  intro tea source path
  have hpath : path ≠ [] := nofun
  have hsorted : source.sorted = source := by
    simp only [source, tea, Json.sorted, Json.sortedMembers, Json.sortedItems, Dict.ofList,
      List.foldl, Dict.insert]
    rfl
  have hsource : source.DistinctNames := hsorted ▸ Json.distinctNames_sorted source
  obtain ⟨-, -, hnull, -, hsame⟩ := resolve?_stepwise path [] source
  refine ⟨⟨hpath, hsource⟩, hnull hpath, ?_⟩
  rw [hsame hsource]
  rfl

end Mapping

end Promotion
