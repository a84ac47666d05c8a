import Mathlib.Data.List.Forall2
import Promotion.Proofs.RuleGrammar

/-!
# Rules compiled one by one

What a text compiles to is put together from the shares of its pieces (`Share`): a rule, a
diagnostic or, for a blank piece, nothing. No piece has a say in the share of another, so two texts
with a semicolon between them compile to what each compiles to alone (`compile_apart`). Only the
numbers of the diagnostics tell where a piece stands. They count every piece, blank ones too, and so
go on behind the first text at the number of its semicolons and one more.
-/

namespace Promotion.Mapping

open Text (trimmed pieces Blank)

/-- A diagnostic of a rule that stands `offset` places further on. -/
def Diagnostic.later (offset : Nat) (d : Diagnostic) : Diagnostic :=
  { d with index := d.index + offset }

/-- The rules and the diagnostics among what pieces add. -/
def Compiled.ofOutcomes (outcomes : List (Except Diagnostic Rule)) : Compiled :=
  { rules := outcomes.filterMap fun
      | .ok rule => some rule
      | .error _ => none
    diagnostics := outcomes.filterMap fun
      | .ok _ => none
      | .error diagnostic => some diagnostic }

/-- What the piece numbered `index` adds. A blank piece adds nothing, a rule adds itself, and any
other text adds one diagnostic with its number and the text without the blanks around it. -/
inductive Share (index : Nat) (piece : List Char) : Compiled → Prop where
  | blank (h : Blank piece) : Share index piece ⟨[], []⟩
  | rule {rule : Rule} (hsome : ¬Blank piece) (h : RuleText (trimmed piece) rule) :
      Share index piece ⟨[rule], []⟩
  | malformed {fault : RuleFault} (hsome : ¬Blank piece)
      (hnone : ∀ rule, ¬RuleText (trimmed piece) rule)
      (h : Rule.ofText (String.ofList (trimmed piece)) =
        .error (.malformedRule (String.ofList (trimmed piece)) fault)) :
      Share index piece ⟨[], [⟨index, String.ofList (trimmed piece), fault⟩]⟩

variable {index offset : Nat}

-- ---------------------------------------------------------------------------
-- Outcomes
-- ---------------------------------------------------------------------------

theorem compile_eq (text : String) :
    compile text = .ofOutcomes (compilePieces 0 (pieces ';' text.toList)) := rfl

theorem ofOutcomes_append (before after : List (Except Diagnostic Rule)) :
    Compiled.ofOutcomes (before ++ after) =
      ⟨(Compiled.ofOutcomes before).rules ++ (Compiled.ofOutcomes after).rules,
        (Compiled.ofOutcomes before).diagnostics ++ (Compiled.ofOutcomes after).diagnostics⟩ := by
  simp only [Compiled.ofOutcomes, List.filterMap_append]

/-- Numbering on changes the diagnostics and leaves the rules alone. -/
theorem ofOutcomes_later (outcomes : List (Except Diagnostic Rule)) :
    Compiled.ofOutcomes (outcomes.map (·.mapError (Diagnostic.later offset))) =
      ⟨(Compiled.ofOutcomes outcomes).rules,
        (Compiled.ofOutcomes outcomes).diagnostics.map (Diagnostic.later offset)⟩ := by
  induction outcomes with
  | nil => rfl
  | cons outcome rest ih =>
    simp only [Compiled.ofOutcomes, Compiled.mk.injEq] at ih ⊢
    obtain ⟨hrules, hdiagnostics⟩ := ih
    cases outcome with
    | ok rule => exact ⟨congrArg (rule :: ·) hrules, hdiagnostics⟩
    | error diagnostic => exact ⟨hrules, congrArg (diagnostic.later offset :: ·) hdiagnostics⟩

-- ---------------------------------------------------------------------------
-- Pieces
-- ---------------------------------------------------------------------------

theorem compilePieces_append (index : Nat) (before after : List (List Char)) :
    compilePieces index (before ++ after) =
      compilePieces index before ++ compilePieces (index + before.length) after := by
  induction before generalizing index with
  | nil => rfl
  | cons piece before ih =>
    rw [List.cons_append, compilePieces, compilePieces, ih, List.append_assoc, List.length_cons,
      Nat.add_right_comm index 1, Nat.add_assoc]

theorem compilePiece_later (index offset : Nat) (piece : List Char) :
    compilePiece (index + offset) piece =
      (compilePiece index piece).map (·.mapError (Diagnostic.later offset)) := by
  by_cases hblank : trimmed piece = []
  · simp only [compilePiece, if_pos hblank, Option.map_none]
  · simp only [compilePiece, if_neg hblank, Option.map_some]
    cases readRule (trimmed piece) <;> rfl

theorem compilePieces_later (index offset : Nat) (texts : List (List Char)) :
    compilePieces (index + offset) texts =
      (compilePieces index texts).map (·.mapError (Diagnostic.later offset)) := by
  induction texts generalizing index with
  | nil => rfl
  | cons piece texts ih =>
    rw [compilePieces, compilePieces, Nat.add_right_comm, ih, compilePiece_later, List.map_append,
      Option.toList_map]

/-- A text read without success is malformed, and the failure names it. -/
theorem ofText_of_readRule_error {cs : List Char} {fault : RuleFault}
    (h : readRule cs = .error fault) :
    Rule.ofText (String.ofList cs) = .error (.malformedRule (String.ofList cs) fault) := by
  rw [Rule.ofText, String.toList_ofList, h]
  rfl

theorem share_compilePiece (index : Nat) (piece : List Char) :
    Share index piece (.ofOutcomes (compilePiece index piece).toList) := by
  unfold compilePiece
  by_cases hblank : Blank piece
  · rw [if_pos (Text.trimmed_eq_nil_iff.mpr hblank)]
    exact .blank hblank
  · rw [if_neg (mt Text.trimmed_eq_nil_iff.mp hblank)]
    cases hread : readRule (trimmed piece) with
    | ok rule => exact .rule hblank (readRule_eq_ok_iff.mp hread)
    | error fault =>
      refine .malformed hblank (fun rule hrule => ?_) (ofText_of_readRule_error hread)
      rw [← readRule_eq_ok_iff, hread] at hrule
      cases hrule

/-- What pieces numbered from `index` on compile to is put together from their shares. -/
theorem exists_shares (index : Nat) (texts : List (List Char)) :
    ∃ shares : List Compiled,
      List.Forall₂ (fun (piece, number) share => Share number piece share) (texts.zipIdx index)
        shares ∧
      Compiled.ofOutcomes (compilePieces index texts) =
        ⟨shares.flatMap (·.rules), shares.flatMap (·.diagnostics)⟩ := by
  induction texts generalizing index with
  | nil => exact ⟨[], .nil, rfl⟩
  | cons piece texts ih =>
    obtain ⟨shares, hshares, hrest⟩ := ih (index + 1)
    refine ⟨_ :: shares, .cons (share_compilePiece index piece) hshares, ?_⟩
    rw [compilePieces, ofOutcomes_append, hrest]
    rfl

-- ---------------------------------------------------------------------------
-- Texts
-- ---------------------------------------------------------------------------

/-- Two texts with a semicolon between them compile to what each compiles to alone, the second one's
diagnostics numbered on. -/
theorem compile_append (before after : String) :
    compile (before ++ ";" ++ after) =
      ⟨(compile before).rules ++ (compile after).rules,
        (compile before).diagnostics ++
          (compile after).diagnostics.map (Diagnostic.later (before.toList.count ';' + 1))⟩ := by
  have htext : (before ++ ";" ++ after).toList = before.toList ++ ';' :: after.toList := by simp
  rw [compile_eq, htext, Text.pieces_append, compilePieces_append, Text.length_pieces,
    compilePieces_later, ofOutcomes_append, ofOutcomes_later]
  rfl

theorem Share.rules_eq_nil {piece : List Char} {share : Compiled} (h : Share index piece share)
    (hnone : ∀ rule, ¬RuleText (trimmed piece) rule) : share.rules = [] := by
  cases h with
  | blank => rfl
  | rule _ hrule => exact absurd hrule (hnone _)
  | malformed => rfl

/-- A piece that is no rule gives none. -/
theorem rules_of_malformed {text : String} (hone : ';' ∉ text.toList)
    (hnone : ∀ rule, ¬RuleText (trimmed text.toList) rule) : (compile text).rules = [] := by
  have hpieces : pieces ';' text.toList = [text.toList] :=
    Text.pieces_eq_iff.mpr ⟨nofun, by simpa using hone, List.intercalate_singleton ..⟩
  rw [compile_eq, hpieces, compilePieces, compilePieces, List.append_nil]
  exact (share_compilePiece 0 text.toList).rules_eq_nil hnone

/-- Rules are compiled each on its own. -/
theorem compile_apart (before text after : String) :
    compile (before ++ ";" ++ after) =
        ⟨(compile before).rules ++ (compile after).rules,
          (compile before).diagnostics ++
            (compile after).diagnostics.map (Diagnostic.later (before.toList.count ';' + 1))⟩ ∧
      (∃ shares : List Compiled,
        List.Forall₂ (fun (piece, number) share => Share number piece share)
          (pieces ';' text.toList).zipIdx shares ∧
        compile text = ⟨shares.flatMap (·.rules), shares.flatMap (·.diagnostics)⟩) ∧
      (';' ∉ text.toList → (∀ rule, ¬RuleText (trimmed text.toList) rule) →
        (compile (before ++ ";" ++ text ++ ";" ++ after)).rules =
          (compile (before ++ ";" ++ after)).rules) := by
  refine ⟨compile_append before after, exists_shares 0 _, fun hone hnone => ?_⟩
  rw [compile_append, compile_append, compile_append, rules_of_malformed hone hnone,
    List.append_nil]

theorem compile_apart_of_empty_braces :
    let before := "name:Name;; broken"
    let text := " tags\x7b\x7d:Tags"
    let after := "; color.x0:Color"
    (';' ∉ text.toList ∧ ∀ rule, ¬RuleText (trimmed text.toList) rule) ∧
      (compile (before ++ ";" ++ text)).diagnostics =
        [⟨2, "broken", .noTarget⟩, ⟨3, "tags\x7b\x7d:Tags", .noLocales "tags\x7b\x7d"⟩] ∧
      (compile (before ++ ";" ++ text ++ ";" ++ after)).rules =
        [⟨[.field "name"], "Name", .string⟩, ⟨[.field "color", .index 0], "Color", .string⟩] := by
  intro before text after
  have hone : ';' ∉ text.toList := by decide
  have hnone : ∀ rule, ¬RuleText (trimmed text.toList) rule := by
    intro rule hrule
    have hread : readRule (trimmed text.toList) = .error (.noLocales "tags\x7b\x7d") := by decide
    rw [← readRule_eq_ok_iff, hread] at hrule
    cases hrule
  obtain ⟨hbefore, -, -⟩ := compile_apart before text text
  obtain ⟨-, -, hrules⟩ := compile_apart before text after
  rw [hbefore, hrules hone hnone]
  exact ⟨⟨hone, hnone⟩, by decide, by decide⟩

end Promotion.Mapping
