import Promotion.Proofs.RuleGrammar

/-!
# Rules written and read again

A compiled rule is written in one way, whatever blanks, leading zeros and blank languages were in
the text it was read from, and that text is read as the same rule. So the texts of compiled rules,
put together again, compile to the same rules and nothing is dropped (`compile_texts_of_compiled`).
What carries this is that writing brings no marks of its own into a part (`Rewritten.chars`): what
was read without point, colon and semicolon is written without them.
-/

namespace Promotion.Mapping

open Text (trimmed pieces isBlank isDigit Blank IsTrimmed)

-- ---------------------------------------------------------------------------
-- Well-formed rules
-- ---------------------------------------------------------------------------

/-- What is true of every rule that was read: its path starts with a field, languages stand behind
the field that they are of, there are some and none of them is blank or has blanks around it, and
indices have at most four digits. -/
structure Rule.WellFormed (rule : Rule) : Prop where
  startsWithField : ∃ name rest, rule.path = .field name :: rest
  field_of_locales : ∀ before languages after, rule.path = before ++ .locales languages :: after →
    ∃ earlier name, before = earlier ++ [.field name]
  languages : ∀ languages, .locales languages ∈ rule.path →
    languages ≠ [] ∧ ∀ language ∈ languages, language ≠ "" ∧ Text.trim language = language
  index : ∀ position, .index position ∈ rule.path → position ≤ 9999

variable {cs name digits : List Char} {first : Bool} {segments path : List Segment}
  {parts entries : List (List Char)}

theorem IndexForm.lt (h : IndexForm isDigit name digits) :
    Nat.ofDigitChars 10 digits 0 < 10 ^ 4 := by
  have hlt := Text.ofDigitChars_lt h.digits 0
  have hpow : 10 ^ digits.length ≤ 10 ^ 4 := Nat.pow_le_pow_right (by decide) h.short
  omega

theorem mem_languagesOf {language : String} (h : language ∈ languagesOf entries) :
    ∃ entry ∈ entries, language = String.ofList (trimmed entry) ∧ trimmed entry ≠ [] := by
  simp only [languagesOf, List.mem_map, List.mem_filter, decide_eq_true_eq] at h
  obtain ⟨_, ⟨⟨entry, hentry, rfl⟩, hne⟩, rfl⟩ := h
  exact ⟨entry, hentry, rfl, hne⟩

theorem trim_of_mem_languagesOf {language : String} (h : language ∈ languagesOf entries) :
    language ≠ "" ∧ Text.trim language = language := by
  obtain ⟨entry, -, rfl, hne⟩ := mem_languagesOf h
  refine ⟨?_, ?_⟩
  · rw [Ne, ← String.toList_inj, String.toList_ofList]
    exact hne
  · rw [Text.trim, String.toList_ofList, Text.trimmed_of_isTrimmed (Text.isTrimmed_trimmed entry)]

/-- The languages of a list: some, and each without blanks around it. -/
def AreLanguages (languages : List String) : Prop :=
  languages ≠ [] ∧ ∀ language ∈ languages, language ≠ "" ∧ Text.trim language = language

/-- The steps that a part can stand for. -/
theorem PartText.segments_cases (h : PartText first cs segments) :
    (∃ position ≤ 9999, first = false ∧ segments = [.index position]) ∨
      (∃ name, segments = [.field name]) ∨
      ∃ name languages, AreLanguages languages ∧ segments = [.field name, .locales languages] := by
  cases h with
  | index hfirst hform => exact .inl ⟨_, Nat.le_of_lt_succ hform.lt, hfirst, rfl⟩
  | field hname => exact .inr (.inl ⟨_, rfl⟩)
  | localized hname hentries hsome =>
    exact .inr (.inr ⟨_, _, ⟨hsome, fun language => trim_of_mem_languagesOf⟩, rfl⟩)

/-- What is true of every step that was read, wherever it stands. -/
def Segment.IsRead : Segment → Prop
  | .field _ => True
  | .index position => position ≤ 9999
  | .locales languages => AreLanguages languages

theorem PartText.isRead (h : PartText first cs segments) :
    ∀ segment ∈ segments, segment.IsRead := by
  rcases h.segments_cases with ⟨position, hle, -, rfl⟩ | ⟨name, rfl⟩ | ⟨name, languages, hread, rfl⟩
  · exact List.forall_mem_singleton.mpr hle
  · exact List.forall_mem_singleton.mpr trivial
  · exact List.forall_mem_cons.mpr ⟨trivial, List.forall_mem_singleton.mpr hread⟩

theorem PartsText.isRead (h : PartsText first parts path) : ∀ segment ∈ path, segment.IsRead := by
  induction h with
  | nil => exact fun _ hnone => absurd hnone List.not_mem_nil
  | cons hpart _ ih => exact List.forall_mem_append.mpr ⟨hpart.isRead, ih⟩

theorem PartText.field_of_locales (h : PartText first cs segments) {before after : List Segment}
    {languages : List String} (hsegments : segments = before ++ .locales languages :: after) :
    ∃ name, before = [.field name] := by
  rcases h.segments_cases with ⟨position, -, -, rfl⟩ | ⟨name, rfl⟩ | ⟨name, found, -, rfl⟩
  · simp [List.cons_eq_append_iff] at hsegments
  · simp [List.cons_eq_append_iff] at hsegments
  · cases before with
    | nil => cases hsegments
    | cons step before =>
      obtain ⟨rfl, hrest⟩ := List.cons_eq_cons.mp hsegments
      cases before with
      | nil => exact ⟨name, rfl⟩
      | cons next before => simp at hrest

theorem PartsText.field_of_locales (h : PartsText first parts path) {before after : List Segment}
    {languages : List String} (hpath : path = before ++ .locales languages :: after) :
    ∃ earlier name, before = earlier ++ [.field name] := by
  induction h generalizing before with
  | nil => simp at hpath
  | cons hpart _ ih =>
    rcases List.append_eq_append_iff.mp hpath with ⟨others, rfl, hrest⟩ | ⟨others, rfl, hothers⟩
    · obtain ⟨earlier, name, rfl⟩ := ih hrest
      exact ⟨_ ++ earlier, name, (List.append_assoc ..).symm⟩
    · cases others with
      | nil =>
        -- languages would start the next part
        have hnil : ∃ earlier name, ([] : List Segment) = earlier ++ [.field name] :=
          ih (by rw [List.nil_append, hothers, List.nil_append])
        simp at hnil
      | cons step others =>
        obtain ⟨rfl, -⟩ := List.cons_eq_cons.mp hothers
        obtain ⟨name, rfl⟩ := hpart.field_of_locales rfl
        exact ⟨[], name, rfl⟩

theorem PartsText.startsWithField (h : PartsText true parts path) (hne : parts ≠ []) :
    ∃ name rest, path = .field name :: rest := by
  cases h with
  | nil => exact absurd rfl hne
  | cons hpart _ =>
    rcases hpart.segments_cases with ⟨_, -, hfirst, -⟩ | ⟨name, rfl⟩ | ⟨name, _, -, rfl⟩
    · cases hfirst
    · exact ⟨name, _, rfl⟩
    · exact ⟨name, _, rfl⟩

theorem PathText.partsText (h : PathText cs path) :
    ∃ parts, parts ≠ [] ∧ PartsText true parts path := by
  obtain ⟨hne, hparts, h⟩ := h
  refine ⟨_, ?_, h⟩
  rintro rfl
  exact hne rfl

theorem RuleText.wellFormed {rule : Rule} (h : RuleText cs rule) : rule.WellFormed := by
  obtain ⟨-, hpath, -⟩ := h
  obtain ⟨parts, hne, hparts⟩ := hpath.partsText
  exact ⟨hparts.startsWithField hne, fun _ _ _ => hparts.field_of_locales,
    fun _ => hparts.isRead _, fun _ => hparts.isRead _⟩

-- ---------------------------------------------------------------------------
-- Parts written
-- ---------------------------------------------------------------------------

def partText (segments : List Segment) : List Char :=
  segments.flatMap fun segment => segment.text.toList

/-- The characters that writing itself brings into a part. -/
def IsWritten (c : Char) : Prop :=
  isDigit c ∨ c = 'x' ∨ c = '{' ∨ c = '}' ∨ c = ','

instance (c : Char) : Decidable (IsWritten c) :=
  inferInstanceAs (Decidable (_ ∨ _))

/-- A text of one part that was read from another: the same steps, and no other characters than
those of the text it was read from and those that writing brings. -/
structure Rewritten (first : Bool) (cs written : List Char) (segments : List Segment) : Prop where
  part : PartText first written segments
  nonempty : written ≠ []
  trimmed : IsTrimmed written
  chars : ∀ c ∈ written, c ∈ cs ∨ IsWritten c

theorem not_isBlank_of_isNameChar {c : Char} (h : isNameChar c) : ¬isBlank c := by
  simp only [isNameChar, Bool.and_eq_true, Bool.not_eq_true'] at h
  simp [h.2]

theorem toList_text_locales (languages : List String) :
    (Segment.locales languages).text.toList =
      braced ([','].intercalate (languages.map String.toList)) := by
  simp [Segment.text, braced]

theorem indexForm_numeral {n : Nat} (h : n < 10 ^ 4) :
    IndexForm isDigit ('x' :: Text.numeral n) (Text.numeral n) where
  text := .inr rfl
  nonempty := Nat.toDigits_ne_nil
  short := (Nat.length_toDigits_le_iff (by decide) (by decide)).mpr h
  digits _ := Text.isDigit_of_mem_numeral

theorem rewritten_index (h : IndexForm isDigit cs digits) :
    Rewritten false cs (partText [.index (Nat.ofDigitChars 10 digits 0)])
      [.index (Nat.ofDigitChars 10 digits 0)] := by
  have hform := indexForm_numeral h.lt
  have htext : partText [.index (Nat.ofDigitChars 10 digits 0)] =
      'x' :: Text.numeral (Nat.ofDigitChars 10 digits 0) := by
    simp [partText, Segment.text]
  rw [htext]
  refine ⟨?_, nofun, ?_, ?_⟩
  · have hpart : PartText false _ _ := .index rfl hform
    rwa [Text.ofDigitChars_numeral] at hpart
  · exact Text.isTrimmed_of_forall fun c hc =>
      not_isBlank_of_isNameChar (hform.isNameChar_of_mem c hc)
  · intro c hc
    rcases List.mem_cons.mp hc with rfl | hdigit
    · exact .inr (.inr (.inl rfl))
    · exact .inr (.inl (Text.isDigit_of_mem_numeral hdigit))

theorem rewritten_field (first : Bool) (h : FieldName name) :
    Rewritten first name (partText [.field (String.ofList name)])
      [.field (String.ofList name)] := by
  have htext : partText [.field (String.ofList name)] = name := by
    simp [partText, Segment.text]
  rw [htext]
  exact ⟨.field h, h.nonempty, Text.isTrimmed_of_forall fun c hc =>
    not_isBlank_of_isNameChar (h.chars c hc), fun c hc => .inl hc⟩

/-- The entries of a list as they are written. -/
theorem map_toList_languagesOf (entries : List (List Char)) :
    (languagesOf entries).map String.toList = (entries.map trimmed).filter (· ≠ []) := by
  simp [languagesOf, Function.comp_def]

/-- Languages written are entries that name the same languages. -/
theorem languagesOf_written (entries : List (List Char)) :
    languagesOf ((languagesOf entries).map String.toList) = languagesOf entries := by
  have htrimmed : ((entries.map trimmed).filter (· ≠ [])).map trimmed =
      (entries.map trimmed).filter (· ≠ []) := by
    conv_rhs => rw [← List.map_id ((entries.map trimmed).filter (· ≠ []))]
    apply List.map_congr_left
    intro entry hentry
    obtain ⟨other, -, rfl⟩ := List.mem_map.mp (List.mem_filter.mp hentry).1
    exact Text.trimmed_of_isTrimmed (Text.isTrimmed_trimmed other)
  rw [map_toList_languagesOf]
  unfold languagesOf
  rw [htrimmed, List.filter_filter]
  simp

theorem isEntry_of_mem_written (h : ∀ entry ∈ entries, IsEntry entry) :
    ∀ entry ∈ (languagesOf entries).map String.toList, IsEntry entry := by
  intro written hwritten
  rw [map_toList_languagesOf] at hwritten
  obtain ⟨entry, hentry, rfl⟩ := List.mem_map.mp (List.mem_filter.mp hwritten).1
  exact fun c hc => h entry hentry c (Text.mem_of_mem_trimmed hc)

theorem mem_of_mem_written {c : Char}
    (h : c ∈ [','].intercalate ((languagesOf entries).map String.toList)) :
    c ∈ [','].intercalate entries ∨ c = ',' := by
  rcases Text.mem_of_mem_intercalate h with hcomma | ⟨written, hwritten, hc⟩
  · exact .inr hcomma
  · rw [map_toList_languagesOf] at hwritten
    obtain ⟨entry, hentry, rfl⟩ := List.mem_map.mp (List.mem_filter.mp hwritten).1
    exact .inl (Text.mem_intercalate_of_mem hentry (Text.mem_of_mem_trimmed hc))

theorem isTrimmed_append_braced {inner : List Char} (hne : name ≠ [])
    (hname : ∀ c ∈ name, ¬isBlank c) : IsTrimmed (name ++ braced inner) := by
  have hbrace : IsTrimmed ['}'] := by
    refine Text.isTrimmed_of_forall fun c hc => ?_
    cases List.mem_singleton.mp hc
    decide
  have hends := (Text.isTrimmed_of_forall hname).append hne hbrace nofun ('{' :: inner)
  rwa [List.append_assoc] at hends

theorem rewritten_localized (first : Bool) (hname : FieldName name)
    (hentries : ∀ entry ∈ entries, IsEntry entry) (hsome : languagesOf entries ≠ []) :
    Rewritten first (name ++ braced ([','].intercalate entries))
      (partText [.field (String.ofList name), .locales (languagesOf entries)])
      [.field (String.ofList name), .locales (languagesOf entries)] := by
  let written := (languagesOf entries).map String.toList
  have htext : partText [.field (String.ofList name), .locales (languagesOf entries)] =
      name ++ braced ([','].intercalate written) := by
    simp only [partText, List.flatMap_cons, List.flatMap_nil, List.append_nil, toList_text_locales]
    simp [Segment.text, written]
  rw [htext]
  refine ⟨?_, by simp [hname.nonempty], ?_, ?_⟩
  · have hpart : PartText first (name ++ braced ([','].intercalate written)) _ :=
      .localized hname (isEntry_of_mem_written hentries) (by rwa [languagesOf_written])
    rwa [languagesOf_written] at hpart
  · exact isTrimmed_append_braced hname.nonempty fun c hc =>
      not_isBlank_of_isNameChar (hname.chars c hc)
  · intro c hc
    simp only [braced, List.mem_append, List.mem_cons, List.cons_append, List.not_mem_nil,
      or_false] at hc ⊢
    rcases hc with hc | rfl | hc | rfl
    · exact .inl (.inl hc)
    · exact .inr (.inr (.inr (.inl rfl)))
    · rcases mem_of_mem_written hc with hold | rfl
      · exact .inl (.inr (.inr (.inl hold)))
      · exact .inr (.inr (.inr (.inr (.inr rfl))))
    · exact .inr (.inr (.inr (.inr (.inl rfl))))

theorem PartText.rewritten (h : PartText first cs segments) :
    Rewritten first cs (partText segments) segments := by
  cases h with
  | index hfirst hform =>
    subst hfirst
    exact rewritten_index hform
  | field hname => exact rewritten_field first hname
  | localized hname hentries hsome => exact rewritten_localized first hname hentries hsome

-- ---------------------------------------------------------------------------
-- Paths written
-- ---------------------------------------------------------------------------

/-- A step with what divides it from the step before it. -/
def spaced (segment : Segment) : List Char :=
  segment.joint.toList ++ segment.text.toList

theorem toList_pathText (step : Segment) (rest : List Segment) :
    (pathText (step :: rest)).toList = step.text.toList ++ rest.flatMap spaced := by
  have hfold : ∀ text : String,
      (rest.foldl (fun text segment => text ++ segment.joint ++ segment.text) text).toList =
        text.toList ++ rest.flatMap spaced := by
    induction rest with
    | nil => simp
    | cons next rest ih =>
      intro text
      rw [List.foldl_cons, ih]
      simp [spaced]
  exact hfold step.text

/-- A point divides a part from the part before it, and nothing the steps of one part. -/
theorem PartText.flatMap_spaced (h : PartText first cs segments) :
    segments.flatMap spaced = '.' :: partText segments := by
  rcases h.segments_cases with ⟨position, -, -, rfl⟩ | ⟨name, rfl⟩ | ⟨name, languages, -, rfl⟩
  · simp [spaced, partText, Segment.joint]
  · simp [spaced, partText, Segment.joint]
  · simp [spaced, partText, Segment.joint]

/-- The parts of a path written: they stand for the same steps and bring no new marks. -/
theorem PartsText.exists_written (h : PartsText first parts path) :
    ∃ written, PartsText first written path ∧ path.flatMap spaced = written.flatMap ('.' :: ·) ∧
      (parts ≠ [] → written ≠ []) ∧
      ∀ w ∈ written, (w ≠ [] ∧ IsTrimmed w) ∧
        ∀ c ∈ w, (∃ part ∈ parts, c ∈ part) ∨ IsWritten c := by
  induction h with
  | nil => exact ⟨[], .nil, rfl, fun hne => absurd rfl hne, nofun⟩
  | @cons first part parts segments rest hpart _ ih =>
    obtain ⟨written, hwritten, htext, -, hall⟩ := ih
    have hfirst := hpart.rewritten
    refine ⟨partText segments :: written, .cons ?_ hwritten, ?_, nofun, ?_⟩
    · rw [Text.trimmed_of_isTrimmed hfirst.trimmed]
      exact hfirst.part
    · rw [List.flatMap_append, hpart.flatMap_spaced, htext, List.flatMap_cons]
    · rw [List.forall_mem_cons]
      refine ⟨⟨⟨hfirst.nonempty, hfirst.trimmed⟩, fun c hc => ?_⟩, fun w hw => ⟨(hall w hw).1, ?_⟩⟩
      · exact (hfirst.chars c hc).imp_left fun hold =>
          ⟨part, List.mem_cons_self, Text.mem_of_mem_trimmed hold⟩
      · intro c hc
        exact ((hall w hw).2 c hc).imp_left fun ⟨part, hpart, hold⟩ =>
          ⟨part, List.mem_cons_of_mem _ hpart, hold⟩

/-- A path written stands for the same steps, and marks of its own are points alone. -/
theorem PathText.written (h : PathText cs path) :
    PathText (pathText path).toList path ∧
      ((pathText path).toList ≠ [] ∧ IsTrimmed (pathText path).toList) ∧
      ∀ c ∈ (pathText path).toList, c ∈ cs ∨ c = '.' ∨ IsWritten c := by
  obtain ⟨hne, hparts, h⟩ := h
  rename_i parts
  have hsome : parts ≠ [] := by
    rintro rfl
    exact hne rfl
  obtain ⟨name, rest, rfl⟩ := h.startsWithField hsome
  obtain ⟨written, hwritten, htext, hnonempty, hall⟩ := h.exists_written
  have hpath : (pathText (.field name :: rest)).toList = ['.'].intercalate written := by
    have hcons : '.' :: (pathText (.field name :: rest)).toList =
        '.' :: ['.'].intercalate written := by
      rw [Text.cons_intercalate (hnonempty hsome), ← htext, toList_pathText, List.flatMap_cons]
      simp [spaced, Segment.joint]
    exact (List.cons_eq_cons.mp hcons).2
  have hne : ['.'].intercalate written ≠ [] :=
    Text.intercalate_ne_nil (hnonempty hsome) fun w hw => (hall w hw).1.1
  rw [hpath]
  refine ⟨.parts hne ?_ hwritten, ⟨hne, Text.isTrimmed_intercalate fun w hw => (hall w hw).1⟩, ?_⟩
  · intro w hw hpoint
    rcases (hall w hw).2 '.' hpoint with ⟨part, hpart, hold⟩ | hpoint
    · exact hparts part hpart hold
    · exact absurd hpoint (by decide)
  · intro c hc
    rcases Text.mem_of_mem_intercalate hc with rfl | ⟨w, hw, hc⟩
    · exact .inr (.inl rfl)
    · rcases (hall w hw).2 c hc with ⟨part, hpart, hold⟩ | hwritten
      · exact .inl (Text.mem_intercalate_of_mem hpart hold)
      · exact .inr (.inr hwritten)

-- ---------------------------------------------------------------------------
-- Rules written
-- ---------------------------------------------------------------------------

theorem TargetText.chars {target : String} {kind : ValueKind} (h : TargetText cs target kind) :
    target.toList ≠ [] ∧ ∀ c ∈ target.toList, isTargetChar c := by
  cases h with
  | plain hne hname =>
    rw [String.toList_ofList]
    exact ⟨hne, hname⟩
  | withKind kind hne hname hgap hleft hright =>
    rw [String.toList_ofList]
    exact ⟨hne, hname⟩

theorem isTargetChar_of_mem_name (kind : ValueKind) : ∀ c ∈ kind.name.toList, isTargetChar c := by
  have hall : kind.name.toList.all isTargetChar = true := by cases kind <;> decide
  exact List.all_eq_true.mp hall

def targetText (target : String) (kind : ValueKind) : List Char :=
  target.toList ++ braced kind.name.toList

/-- A target is written with its kind, whether the kind was given or not. -/
theorem TargetText.written {target : String} {kind : ValueKind} (h : TargetText cs target kind) :
    TargetText (targetText target kind) target kind ∧
      (targetText target kind ≠ [] ∧ IsTrimmed (targetText target kind)) ∧
      ∀ c ∈ targetText target kind, isTargetChar c ∨ IsWritten c := by
  obtain ⟨hne, hchars⟩ := h.chars
  refine ⟨?_, ⟨by simp [targetText, hne], ?_⟩, ?_⟩
  · have hblank : Blank [] := nofun
    have htarget := TargetText.withKind kind hne hchars hblank hblank hblank
    rwa [List.append_nil, List.nil_append, List.append_nil, String.ofList_toList] at htarget
  · exact isTrimmed_append_braced hne fun c hc hblank =>
      not_isTargetChar_of_isBlank hblank (hchars c hc)
  · intro c hc
    simp only [targetText, braced, List.mem_append, List.mem_cons, List.cons_append,
      List.not_mem_nil, or_false] at hc
    rcases hc with hc | rfl | hc | rfl
    · exact .inl (hchars c hc)
    · exact .inr (by decide)
    · exact .inl (isTargetChar_of_mem_name kind c hc)
    · exact .inr (by decide)

theorem toList_text (rule : Rule) :
    rule.text.toList = (pathText rule.path).toList ++ ':' :: targetText rule.target rule.kind := by
  simp [Rule.text, targetText, braced]

/-- A rule written is read as the same rule, and brings no mark but its points and its colon. -/
theorem RuleText.written {rule : Rule} (h : RuleText cs rule) :
    RuleText rule.text.toList rule ∧ (rule.text.toList ≠ [] ∧ IsTrimmed rule.text.toList) ∧
      ∀ c ∈ rule.text.toList, c ∈ cs ∨ c = '.' ∨ c = ':' ∨ isTargetChar c ∨ IsWritten c := by
  obtain ⟨hsource, hpath, htarget⟩ := h
  rename_i source target
  obtain ⟨hpath, ⟨hpathNe, hpathTrimmed⟩, hpathChars⟩ := hpath.written
  obtain ⟨htarget, ⟨htargetNe, htargetTrimmed⟩, htargetChars⟩ := htarget.written
  rw [toList_text]
  refine ⟨.rule ?_ ?_ ?_, ⟨by simp, ?_⟩, ?_⟩
  · intro hcolon
    rcases hpathChars ':' hcolon with hold | hpoint | hwritten
    · exact hsource (Text.mem_of_mem_trimmed hold)
    · exact absurd hpoint (by decide)
    · exact absurd hwritten (by decide)
  · rwa [Text.trimmed_of_isTrimmed hpathTrimmed]
  · rwa [Text.trimmed_of_isTrimmed htargetTrimmed]
  · have hends := hpathTrimmed.append hpathNe htargetTrimmed htargetNe [':']
    rwa [List.append_assoc] at hends
  · intro c hc
    rcases List.mem_append.mp hc with hc | hc
    · rcases hpathChars c hc with hold | rfl | hwritten
      · exact .inl (List.mem_append_left _ (Text.mem_of_mem_trimmed hold))
      · exact .inr (.inl rfl)
      · exact .inr (.inr (.inr (.inr hwritten)))
    · rcases List.mem_cons.mp hc with rfl | hc
      · exact .inr (.inr (.inl rfl))
      · exact .inr (.inr (.inr (htargetChars c hc)))

-- ---------------------------------------------------------------------------
-- Compiled rules
-- ---------------------------------------------------------------------------

/-- A rule as it is compiled from a text that was written: its text is read as the rule, is trimmed
and has no semicolon. -/
structure Rule.Reads (rule : Rule) : Prop where
  text : RuleText rule.text.toList rule
  nonempty : rule.text.toList ≠ []
  trimmed : IsTrimmed rule.text.toList
  semicolon : ';' ∉ rule.text.toList

theorem exists_ruleText_of_mem_compilePieces {rule : Rule} {index : Nat}
    {texts : List (List Char)} (h : .ok rule ∈ compilePieces index texts) :
    ∃ text ∈ texts, RuleText (trimmed text) rule := by
  induction texts generalizing index with
  | nil => cases h
  | cons text rest ih =>
    rw [compilePieces, List.mem_append, Option.mem_toList, compilePiece] at h
    rcases h with hpiece | hrest
    · obtain ⟨-, hpiece⟩ := Option.ite_none_left_eq_some.mp hpiece
      have hread := Except.mapError_eq_ok_iff.mp (Option.some_inj.mp hpiece)
      exact ⟨text, List.mem_cons_self, readRule_eq_ok_iff.mp hread⟩
    · obtain ⟨other, hother, hrule⟩ := ih hrest
      exact ⟨other, List.mem_cons_of_mem _ hother, hrule⟩

theorem reads_of_mem_rules {text : String} {rule : Rule} (h : rule ∈ (compile text).rules) :
    rule.WellFormed ∧ rule.Reads := by
  obtain ⟨outcome, houtcome, hrule⟩ := List.mem_filterMap.mp h
  cases outcome with
  | error diagnostic => cases hrule
  | ok found =>
    cases hrule
    obtain ⟨piece, hpiece, hread⟩ := exists_ruleText_of_mem_compilePieces houtcome
    obtain ⟨htext, ⟨hne, htrimmed⟩, hchars⟩ := hread.written
    refine ⟨hread.wellFormed, htext, hne, htrimmed, fun hsemicolon => ?_⟩
    rcases hchars ';' hsemicolon with hold | hnew
    · exact Text.notMem_of_mem_pieces hpiece (Text.mem_of_mem_trimmed hold)
    · exact absurd hnew (by decide)

/-- Texts of rules, one after another, are read as these rules. -/
theorem compilePieces_texts {rules : List Rule} (h : ∀ rule ∈ rules, rule.Reads) (index : Nat) :
    compilePieces index (rules.map fun rule => rule.text.toList) = rules.map .ok := by
  induction rules generalizing index with
  | nil => rfl
  | cons rule rest ih =>
    obtain ⟨hrule, hrest⟩ := List.forall_mem_cons.mp h
    have hpiece : compilePiece index rule.text.toList = some (.ok rule) := by
      simp only [compilePiece, Text.trimmed_of_isTrimmed hrule.trimmed, hrule.nonempty, if_false,
        readRule_eq_ok_iff.mpr hrule.text]
      rfl
    rw [List.map_cons, compilePieces, hpiece, ih hrest]
    rfl

theorem compile_texts {rules : List Rule} (h : ∀ rule ∈ rules, rule.Reads) :
    compile (String.intercalate ";" (rules.map Rule.text)) = ⟨rules, []⟩ := by
  have houtcomes : compilePieces 0
      (pieces ';' (String.intercalate ";" (rules.map Rule.text)).toList) = rules.map .ok := by
    by_cases hne : rules = []
    · subst hne
      rfl
    · have hpieces : pieces ';' (String.intercalate ";" (rules.map Rule.text)).toList =
          rules.map fun rule => rule.text.toList := by
        rw [Text.pieces_eq_iff]
        refine ⟨by simpa using hne, ?_, ?_⟩
        · intro part hpart
          obtain ⟨rule, hrule, rfl⟩ := List.mem_map.mp hpart
          exact (h rule hrule).semicolon
        · rw [String.toList_intercalate, List.map_map]
          rfl
      rw [hpieces, compilePieces_texts h]
  simp only [compile, houtcomes, List.filterMap_map, Function.comp_def]
  simp

/-- Compiled rules are well formed, the text of each is read as the rule, and their texts, put
together again, compile to the same rules with nothing dropped. -/
theorem compile_texts_of_compiled (text : String) :
    let rules := (compile text).rules
    (∀ rule ∈ rules, rule.WellFormed ∧ Rule.ofText rule.text = .ok rule) ∧
      compile (String.intercalate ";" (rules.map Rule.text)) = ⟨rules, []⟩ := by
  intro rules
  refine ⟨fun rule hrule => ?_, compile_texts fun rule hrule => (reads_of_mem_rules hrule).2⟩
  obtain ⟨hwellFormed, hreads⟩ := reads_of_mem_rules hrule
  refine ⟨hwellFormed, ?_⟩
  rw [Rule.ofText, Except.mapError_eq_ok_iff, readRule_eq_ok_iff]
  exact hreads.text

end Promotion.Mapping
