import Mathlib.Data.List.Basic
import Promotion.Mapping.Evaluator
import Promotion.Proofs.Dict

/-!
# The last rule that finds something

Several rules may have one target, and each finds something in the source or nothing. What stands
under a target in the end is what the last of its rules to find anything has found
(`get?_evaluate`), wherever rules that find nothing stand among them. So the attributes of two lists
of rules, one behind the other, are those of the first with those of the second laid over them
(`evaluate_lastFound`).
-/

namespace Promotion.Mapping

variable {language target : String} {source value : Json} {rule : Rule} {rules others : List Rule}

/-- What a rule stores: its value under its target, if it finds one. -/
def Rule.stored? (language : String) (source : Json) (rule : Rule) : Option (String × Json) :=
  match rule.evaluate language source with
  | .ok value => some (rule.target, value)
  | .error _ => none

/-- What a rule finds for a target, which is nothing if it has another one. -/
def Rule.find? (language : String) (source : Json) (target : String) (rule : Rule) : Option Json :=
  if rule.target = target then (rule.evaluate language source).toOption else none

/-- The value for a target that the last of its rules to find one has found. -/
def IsLastFound (language : String) (source : Json) (rules : List Rule) (target : String)
    (value : Json) : Prop :=
  ∃ before rule after, rules = before ++ rule :: after ∧
    (rule.target = target ∧ rule.evaluate language source = .ok value) ∧
    ∀ later ∈ after, later.target = target → ∃ fault, later.evaluate language source = .error fault

-- ---------------------------------------------------------------------------
-- Single rules
-- ---------------------------------------------------------------------------

theorem find?_eq_some_iff :
    rule.find? language source target = some value ↔
      rule.target = target ∧ rule.evaluate language source = .ok value := by
  unfold Rule.find?
  cases rule.evaluate language source with
  | ok found => simp [Except.toOption]
  | error fault => simp [Except.toOption]

theorem find?_eq_none_iff :
    rule.find? language source target = none ↔
      (rule.target = target → ∃ fault, rule.evaluate language source = .error fault) := by
  unfold Rule.find?
  cases rule.evaluate language source with
  | ok found => simp [Except.toOption]
  | error fault => simp [Except.toOption]

/-- What a rule finds for a target is what it stores there. -/
theorem find?_eq_stored? :
    rule.find? language source target =
      ((rule.stored? language source).filter (·.1 = target)).map (·.2) := by
  unfold Rule.find? Rule.stored?
  cases rule.evaluate language source with
  | ok found =>
    by_cases htarget : rule.target = target <;> simp [htarget, Except.toOption, Option.filter]
  | error fault => simp [Except.toOption]

-- ---------------------------------------------------------------------------
-- Lists of rules
-- ---------------------------------------------------------------------------

theorem evaluate_eq_ofList (language : String) (source : Json) (rules : List Rule) :
    evaluate language rules source =
      Dict.ofList (rules.filterMap (·.stored? language source)) := by
  rw [Dict.ofList, List.foldl_filterMap]
  unfold evaluate
  congr 1
  funext attributes rule
  unfold Rule.stored?
  cases rule.evaluate language source <;> rfl

theorem sorted_evaluate (language : String) (source : Json) (rules : List Rule) :
    (evaluate language rules source).Sorted := by
  rw [evaluate_eq_ofList]
  exact Dict.sorted_ofList _

theorem get?_evaluate (language : String) (source : Json) (rules : List Rule) (target : String) :
    (evaluate language rules source).get? target =
      rules.reverse.findSome? (·.find? language source target) := by
  rw [evaluate_eq_ofList, Dict.get?_ofList, List.filter_filterMap, List.getLast?_filterMap,
    List.map_findSome?]
  congr 1
  funext rule
  exact find?_eq_stored?.symm

theorem get?_evaluate_eq_some_iff :
    (evaluate language rules source).get? target = some value ↔
      IsLastFound language source rules target value := by
  rw [get?_evaluate, List.findSome?_eq_some_iff]
  constructor
  · rintro ⟨after, rule, before, hrules, hfound, hafter⟩
    refine ⟨before.reverse, rule, after.reverse, ?_, find?_eq_some_iff.mp hfound, ?_⟩
    · rw [← List.reverse_inj, hrules]
      simp
    · exact fun later hlater => find?_eq_none_iff.mp (hafter later (List.mem_reverse.mp hlater))
  · rintro ⟨before, rule, after, rfl, hfound, hafter⟩
    refine ⟨after.reverse, rule, before.reverse, by simp, find?_eq_some_iff.mpr hfound, ?_⟩
    exact fun later hlater => find?_eq_none_iff.mpr (hafter later (List.mem_reverse.mp hlater))

theorem mem_keys_evaluate_iff :
    target ∈ (evaluate language rules source).keys ↔
      ∃ rule ∈ rules, rule.target = target ∧
        ∃ value, rule.evaluate language source = .ok value := by
  have hfound : target ∈ (evaluate language rules source).keys ↔
      ((evaluate language rules source).get? target).isSome := by
    rw [Option.isSome_iff_ne_none, Ne, Dict.get?_eq_none_iff, Decidable.not_not]
  rw [hfound, get?_evaluate, List.findSome?_isSome_iff]
  simp only [List.mem_reverse, Option.isSome_iff_exists, find?_eq_some_iff, exists_and_left]

theorem evaluate_of_fault {before after : List Rule} {fault : Failure}
    (h : rule.evaluate language source = .error fault) :
    evaluate language (before ++ rule :: after) source =
      evaluate language (before ++ after) source := by
  have hstored : rule.stored? language source = none := by rw [Rule.stored?, h]
  rw [evaluate_eq_ofList, evaluate_eq_ofList, List.filterMap_append, List.filterMap_append,
    List.filterMap_cons_none hstored]

theorem evaluate_append (language : String) (source : Json) (rules others : List Rule) :
    evaluate language (rules ++ others) source =
      (evaluate language rules source).overlay (evaluate language others source) := by
  have hsorted := sorted_evaluate language source
  refine (hsorted _).ext ((hsorted rules).overlay _) fun target => ?_
  rw [Dict.get?_overlay, get?_evaluate, get?_evaluate, get?_evaluate, List.reverse_append,
    List.findSome?_append]

/-- The attributes that rules give. -/
theorem evaluate_lastFound (language : String) (source : Json) (rules others : List Rule) :
    let attributes := evaluate language rules source
    attributes.Sorted ∧
      (∀ target, target ∈ attributes.keys ↔
        ∃ rule ∈ rules, rule.target = target ∧
          ∃ value, rule.evaluate language source = .ok value) ∧
      (∀ target value, attributes.get? target = some value ↔
        IsLastFound language source rules target value) ∧
      (∀ before rule after fault, rules = before ++ rule :: after →
        rule.evaluate language source = .error fault →
          attributes = evaluate language (before ++ after) source) ∧
      evaluate language (rules ++ others) source =
        attributes.overlay (evaluate language others source) := by
  intro attributes
  refine ⟨sorted_evaluate language source rules, fun target => mem_keys_evaluate_iff,
    fun target value => get?_evaluate_eq_some_iff, ?_, evaluate_append language source rules others⟩
  rintro before rule after fault rfl hfault
  exact evaluate_of_fault hfault

theorem evaluate_lastFound_of_missing_language :
    let source : Json := .object [("title", .object [("de", .string "Tee"), ("en", .null)])]
    let german : Rule := ⟨[.field "title", .field "de"], "Title", .string⟩
    let english : Rule := ⟨[.field "title", .locales ["en", "fr"]], "Title", .string⟩
    let either : Rule := ⟨[.field "title", .locales ["en", "de"]], "Titles", .strings⟩
    let attributes := evaluate "en" ([german, english] ++ [either, english]) source
    (∃ fault, english.evaluate "en" source = .error fault) ∧
      attributes.get? "Title" = some (.string "Tee") ∧
      attributes.get? "Titles" = some (.array [.string "Tee"]) := by
  intro source german english either attributes
  have hfault : english.evaluate "en" source = .error (.unresolvable english.text) := rfl
  obtain ⟨-, -, -, hgerman, happend⟩ :=
    evaluate_lastFound "en" source [german, english] [either, english]
  obtain ⟨-, -, -, heither, -⟩ := evaluate_lastFound "en" source [either, english] []
  have hfirst : evaluate "en" [german, english] source = evaluate "en" [german] source :=
    hgerman [german] english [] _ rfl hfault
  have hsecond : evaluate "en" [either, english] source = evaluate "en" [either] source :=
    heither [either] english [] _ rfl hfault
  have hattributes : attributes =
      (evaluate "en" [german] source).overlay (evaluate "en" [either] source) := by
    rw [← hfirst, ← hsecond]
    exact happend
  refine ⟨⟨_, hfault⟩, ?_⟩
  rw [hattributes, Dict.get?_overlay, Dict.get?_overlay]
  exact ⟨rfl, rfl⟩

end Promotion.Mapping
