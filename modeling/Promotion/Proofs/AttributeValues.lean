import Mathlib.Data.List.Forall2
import Promotion.Mapping.Evaluator

/-!
# The values of attributes

Whatever a source holds, an attribute is a value of its rule's kind (`HasKind`): a text, a number or
a truth value, or a list of some of these. Such a value is taken to its kind as it is
(`HasKind.coerce?_eq`), which makes a second coercion idle. A list keeps the items that can be taken
to the kind of its items, in their order, and a single value is treated as a list of that value
alone (`value_of_evaluate`).
-/

namespace Promotion.Mapping

inductive HasKind : ValueKind → Json → Prop where
  | text {kind : ValueKind} (s : String) (h : kind ∈ [.string, .date, .time, .location]) :
      HasKind kind (.string s)
  | number (n : Number) : HasKind .number (.number n)
  | boolean (b : Bool) : HasKind .boolean (.bool b)
  | list {kind : ValueKind} {items : List Json} (hplural : kind.isPlural) (hne : items ≠ [])
      (h : ∀ item ∈ items, HasKind kind.element item) : HasKind kind (.array items)

/-- A single value: neither null nor a list nor an object. -/
def IsSingle : Json → Prop
  | .bool _ | .number _ | .string _ => True
  | .null | .array _ | .object _ => False

/-- A single value, or a list of single values with something in it. -/
inductive IsFlat : Json → Prop where
  | single {json : Json} (h : IsSingle json) : IsFlat json
  | list {items : List Json} (hne : items ≠ []) (h : ∀ item ∈ items, IsSingle item) :
      IsFlat (.array items)

/-- The items that can be taken to a kind. -/
def takenItems (language : String) (kind : ValueKind) (items : List Json) : List Json :=
  items.filter fun item => (coerce? language kind item).isSome

variable {language : String} {kind : ValueKind} {json value : Json}

-- ---------------------------------------------------------------------------
-- Kinds
-- ---------------------------------------------------------------------------

theorem not_isPlural_element (kind : ValueKind) : ¬kind.element.isPlural := by
  cases kind <;> exact nofun

theorem HasKind.isSingle (h : HasKind kind value) (hsingle : ¬kind.isPlural) :
    IsSingle value := by
  cases h with
  | list hplural => exact absurd hplural hsingle
  | _ => trivial

/-- Values of four kinds are single texts. -/
theorem single_of_text (h : kind ∈ [.string, .date, .time, .location]) :
    ¬kind.isPlural ∧ ∀ language, asScalar? language kind = asText? language := by
  simp only [List.mem_cons, List.not_mem_nil, or_false] at h
  obtain rfl | rfl | rfl | rfl := h <;> exact ⟨nofun, fun _ => rfl⟩

theorem HasKind.exists_items (h : HasKind kind value) (hplural : kind.isPlural) :
    ∃ items, items ≠ [] ∧ (∀ item ∈ items, HasKind kind.element item) ∧ value = .array items := by
  cases h with
  | text s h => exact absurd hplural (single_of_text h).1
  | number n => cases hplural
  | boolean b => cases hplural
  | list _ hne hitems => exact ⟨_, hne, hitems, rfl⟩

theorem HasKind.isFlat (h : HasKind kind value) : IsFlat value := by
  cases h with
  | list _ hne hitems =>
    exact .list hne fun item hitem => (hitems item hitem).isSingle (not_isPlural_element kind)
  | _ => exact .single trivial

-- ---------------------------------------------------------------------------
-- Single values
-- ---------------------------------------------------------------------------

theorem exists_text_of_asText? (h : asText? language json = some value) :
    ∃ s, value = .string s := by
  cases json with
  | null => cases h
  | bool b => exact ⟨_, (Option.some_inj.mp h).symm⟩
  | number n => exact ⟨_, (Option.some_inj.mp h).symm⟩
  | string s => exact ⟨_, (Option.some_inj.mp h).symm⟩
  | array items => cases h
  | object members =>
    rw [asText?, Option.ite_none_right_eq_some] at h
    obtain ⟨s, -, hs⟩ := Option.map_eq_some_iff.mp h.2
    exact ⟨s, hs.symm⟩

theorem exists_number_of_asNumber? (h : asNumber? json = some value) : ∃ n, value = .number n := by
  cases json with
  | number n => exact ⟨n, (Option.some_inj.mp h).symm⟩
  | string s =>
    obtain ⟨n, -, hn⟩ := Option.map_eq_some_iff.mp h
    exact ⟨n, hn.symm⟩
  | _ => cases h

theorem exists_bool_of_asBoolean? (h : asBoolean? json = some value) : ∃ b, value = .bool b := by
  unfold asBoolean? at h
  split at h
  · exact ⟨_, (Option.some_inj.mp h).symm⟩
  · exact ⟨_, (Option.some_inj.mp h).symm⟩
  · exact ⟨_, (Option.some_inj.mp h).symm⟩
  · cases h

theorem hasKind_of_asScalar? (hsingle : ¬kind.isPlural)
    (h : asScalar? language kind json = some value) : HasKind kind value := by
  cases kind with
  | number =>
    obtain ⟨n, rfl⟩ := exists_number_of_asNumber? h
    exact .number n
  | boolean =>
    obtain ⟨b, rfl⟩ := exists_bool_of_asBoolean? h
    exact .boolean b
  | strings | numbers | dates | locations => exact absurd rfl hsingle
  | string | date | time | location =>
    obtain ⟨s, rfl⟩ := exists_text_of_asText? h
    exact .text s (by decide)

theorem HasKind.asScalar?_eq (h : HasKind kind value) (hsingle : ¬kind.isPlural) :
    asScalar? language kind value = some value := by
  cases h with
  | text s h =>
    rw [(single_of_text h).2]
    rfl
  | number n => rfl
  | boolean b => rfl
  | list hplural => exact absurd hplural hsingle

-- ---------------------------------------------------------------------------
-- Lists
-- ---------------------------------------------------------------------------

theorem coerce?_of_single (hsingle : ¬kind.isPlural) (json : Json) :
    coerce? language kind json = asScalar? language kind json := by
  rw [coerce?, if_neg hsingle]

theorem coerce?_eq_some_iff_of_plural (hplural : kind.isPlural) :
    coerce? language kind json = some value ↔
      (itemsOf json).filterMap (coerce? language kind.element) ≠ [] ∧
        value = .array ((itemsOf json).filterMap (coerce? language kind.element)) := by
  have hitems : coerce? language kind.element = asScalar? language kind.element :=
    funext (coerce?_of_single (not_isPlural_element kind))
  rw [hitems, coerce?, if_pos hplural]
  cases (itemsOf json).filterMap (asScalar? language kind.element) with
  | nil => simp
  | cons item rest => simp [eq_comm]

theorem HasKind.coerce?_eq (h : HasKind kind value) : coerce? language kind value = some value := by
  by_cases hplural : kind.isPlural
  · obtain ⟨items, hne, hitems, rfl⟩ := h.exists_items hplural
    have hsame : ∀ item ∈ items, coerce? language kind.element item = some item := by
      intro item hitem
      rw [coerce?_of_single (not_isPlural_element kind)]
      exact (hitems item hitem).asScalar?_eq (not_isPlural_element kind)
    rw [coerce?_eq_some_iff_of_plural hplural, itemsOf, List.filterMap_congr hsame,
      List.filterMap_some]
    exact ⟨hne, rfl⟩
  · rw [coerce?_of_single hplural]
    exact h.asScalar?_eq hplural

theorem hasKind_of_coerce? (h : coerce? language kind json = some value) : HasKind kind value := by
  by_cases hplural : kind.isPlural
  · obtain ⟨hne, rfl⟩ := (coerce?_eq_some_iff_of_plural hplural).mp h
    refine .list hplural hne fun item hitem => ?_
    obtain ⟨found, -, hfound⟩ := List.mem_filterMap.mp hitem
    rw [coerce?_of_single (not_isPlural_element kind)] at hfound
    exact hasKind_of_asScalar? (not_isPlural_element kind) hfound
  · rw [coerce?_of_single hplural] at h
    exact hasKind_of_asScalar? hplural h

/-- A list of what items are taken to, one by one, without those that are taken to nothing. -/
theorem forall₂_takenItems (language : String) (kind : ValueKind) (items : List Json) :
    List.Forall₂ (fun item single => coerce? language kind item = some single)
      (takenItems language kind items) (items.filterMap (coerce? language kind)) := by
  induction items with
  | nil => exact .nil
  | cons item items ih =>
    unfold takenItems
    cases hitem : coerce? language kind item with
    | none =>
      rw [List.filterMap_cons_none hitem, List.filter_cons_of_neg (by simp [hitem])]
      exact ih
    | some single =>
      rw [List.filterMap_cons_some hitem, List.filter_cons_of_pos (by simp [hitem])]
      exact .cons hitem ih

theorem itemsOf_of_array?_eq_none (h : json.array? = none) : itemsOf json = [json] := by
  cases json with
  | array items => cases h
  | _ => rfl

theorem coerce?_singleton (hplural : kind.isPlural) (hjson : json.array? = none) :
    coerce? language kind json = coerce? language kind (.array [json]) := by
  have hitems : itemsOf json = itemsOf (.array [json]) := itemsOf_of_array?_eq_none hjson
  rw [coerce?, coerce?, if_pos hplural, if_pos hplural, hitems]

-- ---------------------------------------------------------------------------
-- Rules
-- ---------------------------------------------------------------------------

theorem evaluate_eq_ok_iff {rule : Rule} {source : Json} :
    rule.evaluate language source = .ok value ↔
      ∃ found, resolve? rule.path source = some found ∧
        coerce? language rule.kind found = some value := by
  rw [Rule.evaluate, ← Option.bind_eq_some_iff]
  cases (resolve? rule.path source).bind (coerce? language rule.kind) <;> simp

/-- What a rule gives to its attribute is a flat value of the rule's kind, which a second coercion
leaves as it is. A list consists of what the items that can be taken to the kind of its items are
taken to. A value that is of the rule's kind already is given as it is found. -/
theorem value_of_evaluate (language : String) :
    (∀ (source : Json) (rule : Rule) (value : Json), rule.evaluate language source = .ok value →
      HasKind rule.kind value ∧ IsFlat value ∧ coerce? language rule.kind value = some value ∧
        ∃ found, resolve? rule.path source = some found ∧
          coerce? language rule.kind found = some value ∧
          (rule.kind.isPlural → ∃ items, value = .array items ∧
            List.Forall₂ (fun item single => coerce? language rule.kind.element item = some single)
              (takenItems language rule.kind.element (itemsOf found)) items)) ∧
      (∀ (source : Json) (rule : Rule) (found : Json), resolve? rule.path source = some found →
        HasKind rule.kind found → rule.evaluate language source = .ok found) ∧
      ∀ (kind : ValueKind) (json : Json), kind.isPlural → json.array? = none →
        coerce? language kind json = coerce? language kind (.array [json]) := by
  refine ⟨fun source rule value h => ?_, fun source rule found hfound hkind => ?_,
    fun kind json => coerce?_singleton⟩
  · obtain ⟨found, hfound, hvalue⟩ := evaluate_eq_ok_iff.mp h
    have hkind := hasKind_of_coerce? hvalue
    refine ⟨hkind, hkind.isFlat, hkind.coerce?_eq, found, hfound, hvalue, fun hplural => ?_⟩
    obtain ⟨-, hitems⟩ := (coerce?_eq_some_iff_of_plural hplural).mp hvalue
    exact ⟨_, hitems, forall₂_takenItems language rule.kind.element (itemsOf found)⟩
  · exact evaluate_eq_ok_iff.mpr ⟨found, hfound, hkind.coerce?_eq⟩

theorem value_of_evaluate_of_mixed_labels :
    let labels : List Json := [.object [("de", .string "Neu"), ("en", .string "New")],
      .object [("de", .string "Angebot")], .array [.string "x"], .null, Json.ofNat 30]
    let source : Json := .object [("labels", .array labels)]
    let rule : Rule := ⟨[.field "labels"], "Labels", .strings⟩
    let value : Json := .array [.string "New", .string "30"]
    rule.evaluate "en" source = .ok value ∧ IsFlat value ∧
      coerce? "en" .strings value = some value ∧
      rule.evaluate "en" (.object [("labels", value)]) = .ok value ∧
      coerce? "en" .numbers (.string " 7 ") = some (.array [Json.ofNat 7]) := by
  intro labels source rule value
  have hvalue : rule.evaluate "en" source = .ok value := rfl
  obtain ⟨hrule, hagain, hsingle⟩ := value_of_evaluate "en"
  obtain ⟨hkind, hflat, hsame, -⟩ := hrule source rule value hvalue
  refine ⟨hvalue, hflat, hsame, hagain (.object [("labels", value)]) rule value rfl hkind, ?_⟩
  rw [hsingle .numbers (.string " 7 ") rfl rfl]
  rfl

end Promotion.Mapping
