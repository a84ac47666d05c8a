import Promotion.Mapping.Parser
import Promotion.Proofs.Cutting
import Promotion.Proofs.Numeral

/-!
# The grammar of mapping rules

What texts are rules, and which rule each of them is, said without reading: a rule is two parts
around its first colon (`RuleText`), a path is parts between points (`PathText`), a part is an index
or a field with or without languages (`PartText`), and a target is a name with or without a kind
(`TargetText`). Reading accepts exactly these texts (`ofText_eq_ok_iff`). No text is an index and a
field at once, because a name that looks like an index is no field, even where its digits are of
another script and it is no index either.
-/

theorem Except.bind_eq_ok_iff {ε α β : Type} {x : Except ε α} {f : α → Except ε β} {b : β} :
    x.bind f = .ok b ↔ ∃ a, x = .ok a ∧ f a = .ok b := by
  cases x with
  | error fault => simp [Except.bind]
  | ok a => simp [Except.bind]

theorem Except.map_eq_ok_iff {ε α β : Type} {x : Except ε α} {f : α → β} {b : β} :
    x.map f = .ok b ↔ ∃ a, x = .ok a ∧ f a = b := by
  cases x with
  | error fault => simp [Except.map]
  | ok a => simp [Except.map]

theorem Except.mapError_eq_ok_iff {ε δ α : Type} {x : Except ε α} {f : ε → δ} {a : α} :
    x.mapError f = .ok a ↔ x = .ok a := by
  cases x with
  | error fault => simp [Except.mapError]
  | ok b => simp [Except.mapError]

namespace Promotion.Mapping

open Text (trimmed pieces isBlank isDigit isDecimalDigit Blank IsTrimmed)

-- ---------------------------------------------------------------------------
-- The grammar
-- ---------------------------------------------------------------------------

def braced (inner : List Char) : List Char :=
  '{' :: inner ++ ['}']

/-- A target is a name, behind which a kind may stand in braces. There may be blanks before the
braces and around the kind. Without a kind the attribute is a text. -/
inductive TargetText : List Char → String → ValueKind → Prop where
  | plain {name : List Char} (hne : name ≠ []) (hname : ∀ c ∈ name, isTargetChar c) :
      TargetText name (String.ofList name) .string
  | withKind {name gap left right : List Char} (kind : ValueKind) (hne : name ≠ [])
      (hname : ∀ c ∈ name, isTargetChar c) (hgap : Blank gap) (hleft : Blank left)
      (hright : Blank right) :
      TargetText (name ++ gap ++ braced (left ++ kind.name.toList ++ right)) (String.ofList name)
        kind

/-- The form of an index: one to four digits, before which there may be an x. -/
structure IndexForm (isDigit : Char → Bool) (name digits : List Char) : Prop where
  text : name = digits ∨ name = 'x' :: digits
  nonempty : digits ≠ []
  short : digits.length ≤ 4
  digits : ∀ c ∈ digits, isDigit c

/-- The name of a field: no blanks, no braces, and not the form of an index in any script. -/
structure FieldName (name : List Char) : Prop where
  nonempty : name ≠ []
  chars : ∀ c ∈ name, isNameChar c
  not_index : ∀ digits, ¬IndexForm isDecimalDigit name digits

/-- An entry of a list of languages. -/
def IsEntry (entry : List Char) : Prop :=
  ∀ c ∈ entry, c ≠ ',' ∧ c ≠ '{' ∧ c ≠ '}'

/-- The languages of a list: its entries without the blanks around them, blank ones left out. -/
def languagesOf (entries : List (List Char)) : List String :=
  ((entries.map trimmed).filter (· ≠ [])).map String.ofList

/-- A part of a path is an index, unless it is the first, or a field, directly behind which a list
of languages may stand in braces. -/
inductive PartText (first : Bool) : List Char → List Segment → Prop where
  | index {cs digits : List Char} (hfirst : first = false) (h : IndexForm isDigit cs digits) :
      PartText first cs [.index (Nat.ofDigitChars 10 digits 0)]
  | field {name : List Char} (hname : FieldName name) :
      PartText first name [.field (String.ofList name)]
  | localized {name : List Char} {entries : List (List Char)} (hname : FieldName name)
      (hentries : ∀ entry ∈ entries, IsEntry entry) (hsome : languagesOf entries ≠ []) :
      PartText first (name ++ braced ([','].intercalate entries))
        [.field (String.ofList name), .locales (languagesOf entries)]

/-- Parts of a path, with blanks around them. -/
inductive PartsText : Bool → List (List Char) → List Segment → Prop where
  | nil {first : Bool} : PartsText first [] []
  | cons {first : Bool} {part : List Char} {parts : List (List Char)}
      {segments rest : List Segment} (hpart : PartText first (trimmed part) segments)
      (hparts : PartsText false parts rest) : PartsText first (part :: parts) (segments ++ rest)

/-- A path is parts between points. -/
inductive PathText : List Char → List Segment → Prop where
  | parts {parts : List (List Char)} {path : List Segment} (hne : ['.'].intercalate parts ≠ [])
      (hparts : ∀ part ∈ parts, '.' ∉ part) (h : PartsText true parts path) :
      PathText (['.'].intercalate parts) path

/-- A rule is a path and a target around a colon, with blanks around both. -/
inductive RuleText : List Char → Rule → Prop where
  | rule {source target : List Char} {rule : Rule} (hsource : ':' ∉ source)
      (hpath : PathText (trimmed source) rule.path)
      (htarget : TargetText (trimmed target) rule.target rule.kind) :
      RuleText (source ++ ':' :: target) rule

variable {cs name inner digits : List Char}

-- ---------------------------------------------------------------------------
-- Braces
-- ---------------------------------------------------------------------------

theorem braced?_eq_some_iff : braced? cs = some inner ↔ cs = braced inner := by
  cases cs with
  | nil => simp [braced?, braced]
  | cons c rest =>
    by_cases hc : c = '{'
    · subst hc
      simp only [braced?, braced, List.cons_append, List.cons.injEq, true_and]
      constructor
      · intro h
        split at h
        · rename_i reversed hrest
          rw [List.reverse_eq_cons_iff] at hrest
          rw [hrest, ← Option.some_inj.mp h]
        · cases h
      · rintro rfl
        simp
    · simp [braced?, braced, hc]

-- ---------------------------------------------------------------------------
-- Targets
-- ---------------------------------------------------------------------------

/-- Exactly the ten kinds have names. -/
theorem ofName_eq_ok_iff {text : String} {kind : ValueKind} :
    ValueKind.ofName text = .ok kind ↔ text = kind.name := by
  constructor
  · intro h
    unfold ValueKind.ofName at h
    split at h <;> cases h <;> rfl
  · rintro rfl
    cases kind <;> rfl

theorem name_ne_nil (kind : ValueKind) : kind.name.toList ≠ [] := by
  cases kind <;> decide

theorem all_isWord_name (kind : ValueKind) : kind.name.toList.all Text.isWord := by
  cases kind <;> decide

theorem not_isBlank_of_mem_name (kind : ValueKind) : ∀ c ∈ kind.name.toList, ¬isBlank c := by
  have hall : kind.name.toList.all (!isBlank ·) = true := by cases kind <;> decide
  simpa using hall

theorem kindName?_eq_some_iff {word : List Char} :
    kindName? cs = some word ↔
      ∃ inner, cs = braced inner ∧ trimmed inner = word ∧ word ≠ [] ∧ word.all Text.isWord := by
  simp only [kindName?, Option.bind_eq_bind, Option.bind_eq_some_iff, braced?_eq_some_iff,
    Option.ite_none_right_eq_some, Option.some.injEq]
  constructor
  · rintro ⟨inner, rfl, ⟨hne, hword⟩, rfl⟩
    exact ⟨inner, rfl, rfl, hne, hword⟩
  · rintro ⟨inner, rfl, rfl, hne, hword⟩
    exact ⟨inner, rfl, ⟨hne, hword⟩, rfl⟩

theorem not_isTargetChar_of_isBlank {c : Char} (h : isBlank c) : ¬isTargetChar c := by
  intro hname
  simp only [isTargetChar, Text.isAlphanumeric, Text.isLower, Text.isUpper, Text.isDigit,
    Char.reduceToNat, Bool.or_eq_true, Bool.and_eq_true, decide_eq_true_eq, beq_iff_eq] at hname
  simp only [isBlank, Bool.or_eq_true, Bool.and_eq_true, decide_eq_true_eq, beq_iff_eq] at h
  rcases hname with (hletter | rfl) | rfl
  · omega
  · simp only [Char.reduceToNat] at h
    omega
  · simp only [Char.reduceToNat] at h
    omega

/-- A name, blanks, and what else there is of a target. -/
structure TargetRuns (cs name gap rest : List Char) : Prop where
  text : cs = name ++ gap ++ rest
  chars : ∀ c ∈ name, isTargetChar c
  stop : ∀ c ∈ (gap ++ rest).head?, ¬isTargetChar c
  blank : Blank gap
  blankStop : ∀ c ∈ rest.head?, ¬isBlank c

theorem exists_targetRuns (cs : List Char) : ∃ name gap rest, TargetRuns cs name gap rest := by
  let after := cs.dropWhile isTargetChar
  refine ⟨cs.takeWhile isTargetChar, after.takeWhile isBlank, after.dropWhile isBlank,
    ?_, ?_, ?_, ?_, ?_⟩
  · rw [List.append_assoc, List.takeWhile_append_dropWhile, List.takeWhile_append_dropWhile]
  · exact fun c hc => List.mem_takeWhile_imp hc
  · rw [List.takeWhile_append_dropWhile]
    exact Text.not_of_mem_head?_dropWhile
  · exact fun c hc => List.mem_takeWhile_imp hc
  · exact Text.not_of_mem_head?_dropWhile

theorem targetRuns_braced {gap : List Char} (hname : ∀ c ∈ name, isTargetChar c)
    (hgap : Blank gap) : TargetRuns (name ++ gap ++ braced inner) name gap (braced inner) := by
  refine ⟨rfl, hname, ?_, hgap, ?_⟩
  · cases gap with
    | nil =>
      rintro c ⟨⟩
      decide
    | cons b gap =>
      rintro c ⟨⟩
      exact not_isTargetChar_of_isBlank (hgap _ List.mem_cons_self)
  · rintro c ⟨⟩
    decide

theorem readTarget_of_runs {gap rest : List Char} (h : TargetRuns cs name gap rest) :
    readTarget cs =
      if name = [] then .error (.target (String.ofList cs))
      else if rest = [] then .ok (String.ofList name, .string)
      else
        match kindName? rest with
        | none => .error (.target (String.ofList cs))
        | some kind =>
          (ValueKind.ofName (String.ofList kind)).map fun kind => (String.ofList name, kind) := by
  have hname : cs.takeWhile isTargetChar = name := by
    rw [h.text, List.append_assoc, Text.takeWhile_append_of_run h.chars h.stop]
  have hrest : (cs.dropWhile isTargetChar).dropWhile isBlank = rest := by
    rw [h.text, List.append_assoc, Text.dropWhile_append_of_run h.chars h.stop,
      Text.dropWhile_append_of_run h.blank h.blankStop]
  subst hname hrest
  rfl

/-- A trimmed text does not end with blanks. -/
theorem gap_eq_nil {gap : List Char} (hgap : Blank gap)
    (htrimmed : IsTrimmed (name ++ gap)) : gap = [] := by
  by_contra hsome
  have hlast := htrimmed.last (gap.getLast hsome) (by
    rw [List.getLast?_append_of_ne_nil _ hsome]
    exact List.getLast?_eq_some_getLast hsome)
  exact hlast (hgap _ (List.getLast_mem hsome))

theorem readTarget_eq_ok_iff {text : String} {kind : ValueKind} (htrimmed : IsTrimmed cs) :
    readTarget cs = .ok (text, kind) ↔ TargetText cs text kind := by
  constructor
  · intro h
    obtain ⟨name, gap, rest, hruns⟩ := exists_targetRuns cs
    obtain rfl := hruns.text
    rw [readTarget_of_runs hruns] at h
    by_cases hne : name = []
    · rw [if_pos hne] at h
      cases h
    rw [if_neg hne] at h
    by_cases hrest : rest = []
    · rw [if_pos hrest] at h
      cases h
      subst hrest
      rw [List.append_nil] at htrimmed ⊢
      rw [gap_eq_nil hruns.blank htrimmed, List.append_nil]
      exact .plain hne hruns.chars
    rw [if_neg hrest] at h
    cases hword : kindName? rest with
    | none =>
      rw [hword] at h
      cases h
    | some word =>
      rw [hword] at h
      obtain ⟨inner, rfl, htrim, -⟩ := kindName?_eq_some_iff.mp hword
      obtain ⟨found, hkind, hfound⟩ := Except.map_eq_ok_iff.mp h
      cases hfound
      have hname : word = kind.name.toList := by
        rw [← ofName_eq_ok_iff.mp hkind, String.toList_ofList]
      obtain ⟨left, right, hleft, hright, hinner⟩ := Text.exists_eq_append_trimmed inner
      rw [hinner, htrim, hname]
      exact .withKind kind hne hruns.chars hruns.blank hleft hright
  · intro h
    cases h with
    | plain hne hname =>
      have hruns : TargetRuns cs cs [] [] := ⟨by simp, hname, nofun, nofun, nofun⟩
      rw [readTarget_of_runs hruns, if_neg hne, if_pos rfl]
    | @withKind name gap left right _ hne hname hgap hleft hright =>
      have hkind : kindName? (braced (left ++ kind.name.toList ++ right)) = some kind.name.toList :=
        kindName?_eq_some_iff.mpr ⟨_, rfl,
          Text.trimmed_append hleft (Text.isTrimmed_of_forall (not_isBlank_of_mem_name kind))
            hright, name_ne_nil kind, all_isWord_name kind⟩
      have hbraces : braced (left ++ kind.name.toList ++ right) ≠ [] := nofun
      rw [readTarget_of_runs (targetRuns_braced hname hgap), if_neg hne, if_neg hbraces, hkind]
      simp only [String.ofList_toList, ofName_eq_ok_iff.mpr rfl]
      rfl

-- ---------------------------------------------------------------------------
-- Parts of paths
-- ---------------------------------------------------------------------------

theorem isDecimalDigit_of_isDigit {c : Char} (h : isDigit c) : isDecimalDigit c := by
  rw [isDecimalDigit, h]
  rfl

theorem isNameChar_of_isDigit {c : Char} (h : isDigit c) : isNameChar c := by
  have hbounds := Text.isDigit_iff.mp h
  simp only [isNameChar, isBlank, Bool.and_eq_true, bne_iff_ne, ne_eq, Bool.not_eq_true',
    Bool.or_eq_false_iff, Bool.and_eq_false_iff, decide_eq_false_iff_not, beq_eq_false_iff_ne]
  refine ⟨⟨?_, ?_⟩, by omega⟩
  · rintro rfl
    exact absurd hbounds (by decide)
  · rintro rfl
    exact absurd hbounds (by decide)

/-- An index is written as a name. -/
theorem IndexForm.isNameChar_of_mem (h : IndexForm isDigit name digits) :
    ∀ c ∈ name, isNameChar c := by
  intro c hc
  rcases h.text with rfl | rfl
  · exact isNameChar_of_isDigit (h.digits c hc)
  · rcases List.mem_cons.mp hc with rfl | hdigit
    · decide
    · exact isNameChar_of_isDigit (h.digits c hdigit)

theorem IndexForm.ne_nil {isDigit : Char → Bool} (h : IndexForm isDigit name digits) :
    name ≠ [] := by
  rcases h.text with rfl | rfl
  · exact h.nonempty
  · exact nofun

theorem IndexForm.decimal (h : IndexForm isDigit name digits) :
    IndexForm isDecimalDigit name digits :=
  ⟨h.text, h.nonempty, h.short, fun c hc => isDecimalDigit_of_isDigit (h.digits c hc)⟩

/-- No digit is an x, so the x before an index is none of its digits. -/
theorem indexForm_cons_iff {c : Char} {rest : List Char} :
    IndexForm isDecimalDigit (c :: rest) digits ↔
      digits = (if c = 'x' then rest else c :: rest) ∧ digits ≠ [] ∧ digits.length ≤ 4 ∧
        ∀ d ∈ digits, isDecimalDigit d := by
  constructor
  · rintro ⟨htext, hne, hshort, hdigits⟩
    refine ⟨?_, hne, hshort, hdigits⟩
    rcases htext with rfl | htext
    · have hx : ¬isDecimalDigit 'x' := by decide
      have hc : c ≠ 'x' := by
        rintro rfl
        exact hx (hdigits 'x' List.mem_cons_self)
      rw [if_neg hc]
    · obtain ⟨rfl, rfl⟩ := List.cons_eq_cons.mp htext
      rw [if_pos rfl]
  · rintro ⟨htext, hne, hshort, hdigits⟩
    refine ⟨?_, hne, hshort, hdigits⟩
    split at htext
    · rename_i hc
      exact .inr (by rw [htext, hc])
    · exact .inl htext.symm

theorem indexDigits?_eq_some_iff :
    indexDigits? name = some digits ↔ IndexForm isDecimalDigit name digits := by
  cases name with
  | nil =>
    refine iff_of_false nofun ?_
    rintro ⟨rfl | h, hne, -⟩
    · exact hne rfl
    · cases h
  | cons c rest =>
    rw [indexForm_cons_iff]
    have hread : indexDigits? (c :: rest) =
        let digits := if c = 'x' then rest else c :: rest
        if digits ≠ [] ∧ digits.length ≤ 4 ∧ digits.all isDecimalDigit then some digits
        else none := by
      by_cases hc : c = 'x'
      · subst hc
        rfl
      · simp [indexDigits?, hc]
    simp only [hread, Option.ite_none_right_eq_some, Option.some.injEq, List.all_eq_true]
    constructor
    · rintro ⟨⟨hne, hshort, hall⟩, rfl⟩
      exact ⟨rfl, hne, hshort, hall⟩
    · rintro ⟨rfl, hne, hshort, hall⟩
      exact ⟨⟨hne, hshort, hall⟩, rfl⟩

theorem FieldName.indexDigits?_eq_none (h : FieldName name) : indexDigits? name = none := by
  rw [Option.eq_none_iff_forall_ne_some]
  intro digits hdigits
  exact h.not_index digits (indexDigits?_eq_some_iff.mp hdigits)

/-- Four digits make a number far below the bound, so the digits decide alone. -/
theorem readNatural_eq_ok_iff_of_indexForm {position : Nat}
    (h : IndexForm isDecimalDigit name digits) :
    Text.readNatural Text.maxNatural64 digits = .ok position ↔
      (∀ c ∈ digits, isDigit c) ∧ Nat.ofDigitChars 10 digits 0 = position := by
  rw [Text.readNatural_eq_ok_iff]
  constructor
  · rintro ⟨plain, rfl | hsign, -, hdigits, hvalue, -⟩
    · exact ⟨hdigits, hvalue⟩
    · have hplus : ¬isDecimalDigit '+' := by decide
      exact absurd (h.digits '+' (by simp [hsign])) hplus
  · rintro ⟨hdigits, hvalue⟩
    refine ⟨digits, .inl rfl, h.nonempty, hdigits, hvalue, ?_⟩
    have hlt := Text.ofDigitChars_lt hdigits 0
    have hpow : 10 ^ digits.length ≤ 10 ^ 4 := Nat.pow_le_pow_right (by decide) h.short
    have hbound : 10 ^ 4 ≤ Text.maxNatural64 := by decide
    omega

/-- A step as it is written: a name, and what stands in braces behind it. -/
structure StepText (cs name : List Char) (list : Option (List Char)) : Prop where
  nonempty : name ≠ []
  chars : ∀ c ∈ name, isNameChar c
  inner : ∀ inner ∈ list, ∀ c ∈ inner, c ≠ '{' ∧ c ≠ '}'
  text : cs = name ++ (list.map braced).getD []

theorem readStep_eq_some_iff {list : Option (List Char)} :
    readStep cs = some (name, list) ↔ StepText cs name list := by
  constructor
  · intro h
    have hname : ∀ c ∈ cs.takeWhile isNameChar, isNameChar c :=
      fun c hc => List.mem_takeWhile_imp hc
    have hcs : cs = cs.takeWhile isNameChar ++ cs.dropWhile isNameChar :=
      List.takeWhile_append_dropWhile.symm
    simp only [readStep] at h
    split at h
    · cases h
    rename_i hne
    split at h
    · rename_i hrest
      cases h
      rw [hrest] at hcs
      exact ⟨hne, hname, nofun, hcs⟩
    split at h
    · rename_i inner hinner
      rw [braced?_eq_some_iff] at hinner
      obtain ⟨hbraces, heq⟩ := Option.ite_none_right_eq_some.mp h
      cases heq
      refine ⟨hne, hname, ?_, ?_⟩
      · rintro _ ⟨⟩ c hc
        simpa using List.all_eq_true.mp hbraces c hc
      · rw [hinner] at hcs
        exact hcs
    · cases h
  · rintro ⟨hne, hchars, hinner, rfl⟩
    cases list with
    | none =>
      have hstop : ∀ c ∈ ([] : List Char).head?, ¬isNameChar c := nofun
      simp only [readStep, Option.map_none, Option.getD_none,
        Text.takeWhile_append_of_run hchars hstop, Text.dropWhile_append_of_run hchars hstop, hne,
        if_false, if_true]
    | some inner =>
      have hstop : ∀ c ∈ (braced inner).head?, ¬isNameChar c := by
        rintro c ⟨⟩
        decide
      have hrest : braced inner ≠ [] := nofun
      have hall : inner.all (fun c => c != '{' && c != '}') = true := by
        simpa using hinner inner rfl
      simp only [readStep, Option.map_some, Option.getD_some,
        Text.takeWhile_append_of_run hchars hstop, Text.dropWhile_append_of_run hchars hstop, hne,
        hrest, braced?_eq_some_iff.mpr rfl, hall, if_false, if_true]

theorem localeNames_eq (list : List Char) : localeNames list = languagesOf (pieces ',' list) := by
  unfold localeNames languagesOf
  induction (pieces ',' list).map trimmed with
  | nil => rfl
  | cons entry rest ih =>
    by_cases hentry : entry = []
    · simp [hentry, ih]
    · simp [hentry, ih]

theorem readPart_eq_ok_iff {first : Bool} {segments : List Segment} :
    readPart first cs = .ok segments ↔ PartText first cs segments := by
  constructor
  · intro h
    unfold readPart at h
    cases hstep : readStep cs with
    | none =>
      simp only [hstep] at h
      cases h
    | some step =>
      obtain ⟨name, list⟩ := step
      simp only [hstep] at h
      rw [readStep_eq_some_iff] at hstep
      cases hindex : indexDigits? name with
      | some digits =>
        simp only [hindex] at h
        rw [indexDigits?_eq_some_iff] at hindex
        split at h
        · cases h
        rename_i hfirst
        split at h
        · cases h
        rename_i hlist
        cases hread : Text.readNatural Text.maxNatural64 digits with
        | error fault =>
          simp only [hread] at h
          cases h
        | ok position =>
          simp only [hread] at h
          cases h
          obtain ⟨hdigits, rfl⟩ := (readNatural_eq_ok_iff_of_indexForm hindex).mp hread
          obtain rfl : list = none := by simpa using hlist
          obtain rfl : cs = name := by simpa using hstep.text
          exact .index (by simpa using hfirst) ⟨hindex.text, hindex.nonempty, hindex.short, hdigits⟩
      | none =>
        simp only [hindex] at h
        have hname : FieldName name := by
          refine ⟨hstep.nonempty, hstep.chars, fun digits hform => ?_⟩
          rw [← indexDigits?_eq_some_iff, hindex] at hform
          cases hform
        cases list with
        | none =>
          cases h
          obtain rfl : cs = name := by simpa using hstep.text
          exact .field hname
        | some list =>
          have hlist := hstep.inner list rfl
          have htext : cs = name ++ braced ([','].intercalate (pieces ',' list)) := by
            rw [Text.intercalate_pieces]
            exact hstep.text
          simp only [localeNames_eq] at h
          split at h
          · cases h
          rename_i hsome
          cases h
          rw [htext]
          refine .localized hname (fun entry hentry c hc => ⟨?_, ?_⟩) hsome
          · rintro rfl
            exact Text.notMem_of_mem_pieces hentry hc
          · exact hlist c (Text.mem_of_mem_pieces hentry hc)
  · intro h
    cases h with
    | @index _ digits hfirst hform =>
      have htext : StepText cs cs none := ⟨hform.ne_nil, hform.isNameChar_of_mem, nofun, by simp⟩
      have hread := (readNatural_eq_ok_iff_of_indexForm hform.decimal).mpr ⟨hform.digits, rfl⟩
      simp only [readPart, readStep_eq_some_iff.mpr htext,
        indexDigits?_eq_some_iff.mpr hform.decimal, hread, hfirst]
      rfl
    | field hname =>
      have htext : StepText cs cs none := ⟨hname.nonempty, hname.chars, nofun, by simp⟩
      simp only [readPart, readStep_eq_some_iff.mpr htext, hname.indexDigits?_eq_none]
    | @localized name entries hname hentries hsome =>
      have hne : entries ≠ [] := by
        rintro rfl
        exact hsome rfl
      have hpieces : pieces ',' ([','].intercalate entries) = entries :=
        Text.pieces_eq_iff.mpr
          ⟨hne, fun entry hentry hcomma => (hentries entry hentry _ hcomma).1 rfl, rfl⟩
      have htext : StepText (name ++ braced ([','].intercalate entries)) name
          (some ([','].intercalate entries)) := by
        refine ⟨hname.nonempty, hname.chars, ?_, rfl⟩
        rintro _ ⟨⟩ c hc
        rcases Text.mem_of_mem_intercalate hc with rfl | ⟨entry, hentry, hc⟩
        · decide
        · exact (hentries entry hentry c hc).2
      simp only [readPart, readStep_eq_some_iff.mpr htext, hname.indexDigits?_eq_none,
        localeNames_eq, hpieces]

-- ---------------------------------------------------------------------------
-- Paths and rules
-- ---------------------------------------------------------------------------

theorem readParts_eq_ok_iff {first : Bool} {parts : List (List Char)} {path : List Segment} :
    readParts first parts = .ok path ↔ PartsText first parts path := by
  induction parts generalizing first path with
  | nil =>
    constructor
    · rintro ⟨⟩
      exact .nil
    · rintro ⟨⟩
      rfl
  | cons part rest ih =>
    have hread : readParts first (part :: rest) =
        (readPart first (trimmed part)).bind fun segments =>
          (readParts false rest).bind fun others => .ok (segments ++ others) := rfl
    simp only [hread, Except.bind_eq_ok_iff, readPart_eq_ok_iff, ih, Except.ok.injEq]
    constructor
    · rintro ⟨segments, hpart, others, hrest, rfl⟩
      exact .cons hpart hrest
    · rintro ⟨⟩
      exact ⟨_, ‹_›, _, ‹_›, rfl⟩

theorem readPath_eq_ok_iff {path : List Segment} :
    readPath cs = .ok path ↔ PathText cs path := by
  unfold readPath
  constructor
  · intro h
    split at h
    · cases h
    rename_i hne
    rw [← Text.intercalate_pieces '.' cs] at hne ⊢
    exact .parts hne (fun part => Text.notMem_of_mem_pieces) (readParts_eq_ok_iff.mp h)
  · rintro ⟨hne, hparts, h⟩
    rename_i parts
    have hsome : parts ≠ [] := by
      rintro rfl
      exact hne rfl
    rw [if_neg hne, Text.pieces_eq_iff.mpr ⟨hsome, hparts, rfl⟩]
    exact readParts_eq_ok_iff.mpr h

theorem readRule_eq_ok_iff_of_parts {source target : List Char} {rule : Rule}
    (hsource : ':' ∉ source) :
    readRule (source ++ ':' :: target) = .ok rule ↔
      TargetText (trimmed target) rule.target rule.kind ∧ PathText (trimmed source) rule.path := by
  have hread : readRule (source ++ ':' :: target) =
      (readTarget (trimmed target)).bind fun named =>
        (readPath (trimmed source)).bind fun path => .ok ⟨path, named.1, named.2⟩ := by
    simp only [readRule, Text.cutFirst_eq_some_iff.mpr ⟨rfl, hsource⟩]
    rfl
  simp only [hread, Except.bind_eq_ok_iff, Except.ok.injEq, Prod.exists,
    readTarget_eq_ok_iff (Text.isTrimmed_trimmed target), readPath_eq_ok_iff]
  constructor
  · rintro ⟨name, kind, htarget, path, hpath, rfl⟩
    exact ⟨htarget, hpath⟩
  · rintro ⟨htarget, hpath⟩
    exact ⟨_, _, htarget, _, hpath, rfl⟩

theorem readRule_eq_ok_iff {rule : Rule} : readRule cs = .ok rule ↔ RuleText cs rule := by
  constructor
  · intro h
    cases hcut : Text.cutFirst ':' cs with
    | none =>
      simp only [readRule, hcut] at h
      cases h
    | some halves =>
      obtain ⟨source, target⟩ := halves
      obtain ⟨rfl, hsource⟩ := Text.cutFirst_eq_some_iff.mp hcut
      obtain ⟨htarget, hpath⟩ := (readRule_eq_ok_iff_of_parts hsource).mp h
      exact .rule hsource hpath htarget
  · rintro ⟨hsource, hpath, htarget⟩
    exact (readRule_eq_ok_iff_of_parts hsource).mpr ⟨htarget, hpath⟩

/-- A text is read as a rule exactly if the grammar makes it that rule. A text that the grammar
makes no rule is malformed, and the failure names it. -/
theorem ofText_eq_ok_iff (text : String) :
    (∀ rule, Rule.ofText text = .ok rule ↔ RuleText text.toList rule) ∧
      ((∀ rule, ¬RuleText text.toList rule) ↔
        ∃ fault, Rule.ofText text = .error (.malformedRule text fault)) := by
  refine ⟨fun rule => ?_, ?_⟩
  · rw [Rule.ofText, Except.mapError_eq_ok_iff, readRule_eq_ok_iff]
  · simp only [← readRule_eq_ok_iff, Rule.ofText]
    cases readRule text.toList with
    | ok rule => simp [Except.mapError]
    | error fault => simp [Except.mapError]

end Promotion.Mapping
