import Promotion.Proofs.Cutting
import Promotion.Proofs.Slugs

/-!
# Names in slugs

What a slug keeps of a name are its runs of ASCII letters and digits, in lower case and with single
hyphens between them (`Slug.runs`). The text is then cut at 200 characters and loses the hyphen that
the cut may have left at its end. Texts of this form are left as they are
(`Slug.Squeezed.squeeze_eq`), so that the slug of a slug is the same.
-/

namespace Promotion

namespace Slug

variable {hyphened : Bool} {cs trail : List Char} {n : ℕ}

-- ---------------------------------------------------------------------------
-- Squeezed texts
-- ---------------------------------------------------------------------------

/-- The letters and digits of slugs. -/
def IsBody (c : Char) : Prop :=
  ('a' ≤ c ∧ c ≤ 'z') ∨ ('0' ≤ c ∧ c ≤ '9')

instance : DecidablePred IsBody := fun c =>
  inferInstanceAs (Decidable (('a' ≤ c ∧ c ≤ 'z') ∨ ('0' ≤ c ∧ c ≤ '9')))

theorem isBody_iff {c : Char} : IsBody c ↔ Text.isLower c ∨ Text.isDigit c := by
  simp [IsBody, Text.isLower, Text.isDigit, Char.le_def, UInt32.le_iff_toNat_le]

theorem IsBody.isAlphanumeric {c : Char} (h : IsBody c) : Text.isAlphanumeric c := by
  rcases isBody_iff.mp h with hlower | hdigit
  · simp [Text.isAlphanumeric, hlower]
  · simp [Text.isAlphanumeric, hdigit]

theorem IsBody.lower_eq {c : Char} (h : IsBody c) : Text.lower c = c := by
  have hupper : Text.isUpper c = false := by
    rcases isBody_iff.mp h with hlower | hdigit
    · simp [Text.isLower, Text.isUpper] at hlower ⊢
      omega
    · simp [Text.isDigit, Text.isUpper] at hdigit ⊢
      omega
  rw [Text.lower, hupper]
  exact if_neg Bool.false_ne_true

theorem IsBody.ne_hyphen {c : Char} (h : IsBody c) : c ≠ '-' := by
  rintro rfl
  exact absurd h (by decide)

theorem isBody_lower {c : Char} (h : Text.isAlphanumeric c) : IsBody (Text.lower c) := by
  rcases allowed_lower h with hlower | hdigit | hhyphen
  · exact .inl hlower
  · exact .inr hdigit
  · by_cases hupper : Text.isUpper c
    · have hcode := Text.toNat_lower_of_isUpper hupper
      rw [hhyphen] at hcode
      have hrange : 65 ≤ c.toNat ∧ c.toNat ≤ 90 := by simpa [Text.isUpper] using hupper
      have hyphenCode : '-'.toNat = 45 := rfl
      omega
    · rw [Text.lower, if_neg hupper] at hhyphen
      rw [hhyphen] at h
      exact absurd h (by decide)

/-- Runs of letters and digits in lower case with single hyphens between them, and maybe one behind
the last. There is one before the first only if none is out of place there. -/
inductive Squeezed : Bool → List Char → Prop where
  | nil {hyphened : Bool} : Squeezed hyphened []
  | body {hyphened : Bool} {c : Char} {cs : List Char} (hbody : IsBody c)
      (rest : Squeezed false cs) : Squeezed hyphened (c :: cs)
  | hyphen {cs : List Char} (rest : Squeezed true cs) : Squeezed false ('-' :: cs)

theorem squeezed_squeeze (hyphened : Bool) (cs : List Char) :
    Squeezed hyphened (squeeze hyphened cs) := by
  induction cs generalizing hyphened with
  | nil => exact .nil
  | cons c cs ih =>
    unfold squeeze
    split
    · rename_i hc
      exact .body (isBody_lower hc) (ih false)
    · cases hyphened with
      | true => exact ih true
      | false => exact .hyphen (ih true)

theorem Squeezed.squeeze_eq (h : Squeezed hyphened cs) : squeeze hyphened cs = cs := by
  induction h with
  | nil => rfl
  | body hbody rest ih => rw [squeeze, if_pos hbody.isAlphanumeric, hbody.lower_eq, ih]
  | hyphen rest ih =>
    have hnot : Text.isAlphanumeric '-' = false := by decide
    rw [squeeze, hnot, ih]
    rfl

theorem Squeezed.take (h : Squeezed hyphened cs) (n : ℕ) : Squeezed hyphened (cs.take n) := by
  induction h generalizing n with
  | nil =>
    rw [List.take_nil]
    exact .nil
  | body hbody rest ih =>
    cases n with
    | zero => exact .nil
    | succ n => exact .body hbody (ih n)
  | hyphen rest ih =>
    cases n with
    | zero => exact .nil
    | succ n => exact .hyphen (ih n)

-- ---------------------------------------------------------------------------
-- Hyphens at the end
-- ---------------------------------------------------------------------------

theorem withoutHyphens_concat (cs : List Char) :
    withoutHyphens (cs ++ ['-']) = withoutHyphens cs := by
  simp [withoutHyphens]

theorem withoutHyphens_of_getLast? (h : cs.getLast? ≠ some '-') : withoutHyphens cs = cs := by
  have hhead : ∀ c ∈ cs.reverse.head?, ¬(c == '-') := by
    intro c hc
    rw [List.head?_reverse] at hc
    simpa using fun heq : c = '-' => h (heq ▸ hc)
  rw [withoutHyphens, Text.dropWhile_of_head? hhead, List.reverse_reverse]

theorem getLast?_withoutHyphens (cs : List Char) : (withoutHyphens cs).getLast? ≠ some '-' := by
  intro h
  rw [withoutHyphens, List.getLast?_reverse] at h
  exact Text.not_of_mem_head?_dropWhile '-' h rfl

/-- A squeezed text ends with one hyphen at most. -/
theorem Squeezed.getLast?_ne (h : Squeezed hyphened (cs ++ ['-'])) : cs.getLast? ≠ some '-' := by
  induction cs generalizing hyphened with
  | nil => simp
  | cons c cs ih =>
    cases h with
    | body hbody rest =>
      cases cs with
      | nil => simpa using hbody.ne_hyphen
      | cons d cs =>
        rw [List.getLast?_cons_cons]
        exact ih rest
    | hyphen rest =>
      cases cs with
      | nil => cases rest with
        | body hbody _ => exact absurd rfl hbody.ne_hyphen
      | cons d cs =>
        rw [List.getLast?_cons_cons]
        exact ih rest

theorem Squeezed.withoutHyphens_eq (h : Squeezed hyphened cs) :
    withoutHyphens cs = if cs.getLast? = some '-' then cs.dropLast else cs := by
  split
  · rename_i hlast
    obtain ⟨front, rfl⟩ := List.getLast?_eq_some_iff.mp hlast
    rw [withoutHyphens_concat, withoutHyphens_of_getLast? h.getLast?_ne, List.dropLast_concat]
  · rename_i hlast
    exact withoutHyphens_of_getLast? hlast

theorem Squeezed.withoutHyphens_eq_nil_iff (h : Squeezed true cs) :
    withoutHyphens cs = [] ↔ cs = [] := by
  constructor
  · intro hnil
    cases h with
    | nil => rfl
    | @body _ c rest hbody _ =>
      rw [withoutHyphens, List.reverse_eq_nil_iff, List.dropWhile_eq_nil_iff] at hnil
      have hc := hnil c (List.mem_reverse.mpr List.mem_cons_self)
      exact absurd (beq_iff_eq.mp hc) hbody.ne_hyphen
  · rintro rfl
    rfl

-- ---------------------------------------------------------------------------
-- Runs
-- ---------------------------------------------------------------------------

/-- The pieces of a text between all characters but ASCII letters and digits. -/
def fragments (cs : List Char) : List (List Char) :=
  cs.splitOnP fun c => !Text.isAlphanumeric c

/-- Of some fragments those that are not empty, in lower case. -/
def lowerRuns (fragments : List (List Char)) : List (List Char) :=
  (fragments.filter fun fragment => !fragment.isEmpty).map (·.map Text.lower)

/-- The runs of ASCII letters and digits of a text, in lower case. -/
def runs (cs : List Char) : List (List Char) :=
  lowerRuns (fragments cs)

theorem exists_fragments_eq_cons (cs : List Char) : ∃ first rest, fragments cs = first :: rest :=
  List.exists_cons_of_ne_nil (List.splitOnP_ne_nil _ cs)

theorem fragments_of_isAlphanumeric {c : Char} {first : List Char} {rest : List (List Char)}
    (hc : Text.isAlphanumeric c) (h : fragments cs = first :: rest) :
    fragments (c :: cs) = (c :: first) :: rest := by
  unfold fragments at h ⊢
  rw [List.splitOnP_cons_eq_if_modifyHead, h, hc]
  rfl

theorem fragments_of_not_isAlphanumeric {c : Char} (hc : ¬Text.isAlphanumeric c) :
    fragments (c :: cs) = [] :: fragments cs := by
  unfold fragments
  rw [List.splitOnP_cons_eq_if_modifyHead, if_pos (by simpa using hc)]

theorem isAlphanumeric_of_mem_fragments {fragment : List Char} (h : fragment ∈ fragments cs) :
    ∀ c ∈ fragment, Text.isAlphanumeric c := by
  induction cs generalizing fragment with
  | nil =>
    obtain rfl : fragment = [] := by simpa [fragments] using h
    exact nofun
  | cons d cs ih =>
    obtain ⟨first, rest, hcs⟩ := exists_fragments_eq_cons cs
    by_cases hd : Text.isAlphanumeric d
    · rw [fragments_of_isAlphanumeric hd hcs] at h
      rw [hcs] at ih
      rcases List.mem_cons.mp h with rfl | hrest
      · exact List.forall_mem_cons.mpr ⟨hd, ih List.mem_cons_self⟩
      · exact ih (List.mem_cons_of_mem _ hrest)
    · rw [fragments_of_not_isAlphanumeric hd] at h
      rcases List.mem_cons.mp h with rfl | hrest
      · exact nofun
      · exact ih hrest

theorem isBody_of_mem_runs {run : List Char} (h : run ∈ runs cs) :
    run ≠ [] ∧ ∀ c ∈ run, IsBody c := by
  obtain ⟨fragment, hfragment, rfl⟩ := List.mem_map.mp h
  obtain ⟨hmem, hne⟩ := List.mem_filter.mp hfragment
  refine ⟨by simpa using hne, ?_⟩
  intro c hc
  obtain ⟨d, hd, rfl⟩ := List.mem_map.mp hc
  exact isBody_lower (isAlphanumeric_of_mem_fragments hmem d hd)

theorem intercalate_cons (run : List Char) (others : List (List Char)) :
    ['-'].intercalate (run :: others) = run ++ others.flatMap ('-' :: ·) := by
  cases others with
  | nil => simp
  | cons next others =>
    have hothers := @Text.cons_intercalate '-' (next :: others) nofun
    rw [← hothers, List.intercalate_cons_cons, List.append_assoc]
    rfl

/-- Squeezing leaves the runs with hyphens between them, and a hyphen behind the last if other
characters follow it. Behind a letter or digit, the first fragment goes on with its run. -/
theorem exists_squeeze_eq (cs : List Char) :
    (∃ trail, (trail = [] ∨ trail = ['-']) ∧ (runs cs = [] → trail = []) ∧
        squeeze true cs = ['-'].intercalate (runs cs) ++ trail) ∧
      ∃ first rest trail, fragments cs = first :: rest ∧ (trail = [] ∨ trail = ['-']) ∧
        squeeze false cs =
          first.map Text.lower ++ (lowerRuns rest).flatMap ('-' :: ·) ++ trail := by
  induction cs with
  | nil => exact ⟨⟨[], .inl rfl, fun _ => rfl, rfl⟩, [], [], [], rfl, .inl rfl, rfl⟩
  | cons c cs ih =>
    obtain ⟨⟨trail, htrail, hnone, houtside⟩, first, rest, trail', hcs, htrail', hinside⟩ := ih
    by_cases hc : Text.isAlphanumeric c
    · have hfragments := fragments_of_isAlphanumeric hc hcs
      have hstep (hyphened : Bool) : squeeze hyphened (c :: cs) =
          (c :: first).map Text.lower ++ (lowerRuns rest).flatMap ('-' :: ·) ++ trail' := by
        rw [squeeze, if_pos hc, hinside]
        rfl
      have hruns : runs (c :: cs) = (c :: first).map Text.lower :: lowerRuns rest := by
        rw [runs, hfragments]
        rfl
      refine ⟨⟨trail', htrail', ?_, ?_⟩, c :: first, rest, trail', hfragments, htrail', hstep false⟩
      · rw [hruns]
        exact nofun
      · rw [hruns, intercalate_cons]
        exact hstep true
    · have hfragments : fragments (c :: cs) = [] :: fragments cs :=
        fragments_of_not_isAlphanumeric hc
      have hruns : runs (c :: cs) = runs cs := by
        rw [runs, hfragments]
        rfl
      have hstep : squeeze false (c :: cs) = '-' :: (['-'].intercalate (runs cs) ++ trail) := by
        rw [squeeze, if_neg hc, if_neg Bool.false_ne_true, houtside]
      refine ⟨⟨trail, htrail, hruns ▸ hnone, ?_⟩, [], fragments cs, ?_⟩
      · rw [squeeze, if_neg hc, if_pos rfl, hruns, houtside]
      · by_cases hnil : runs cs = []
        · refine ⟨['-'], hfragments, .inr rfl, ?_⟩
          rw [hstep, hnone hnil, ← runs, hnil]
          rfl
        · refine ⟨trail, hfragments, htrail, ?_⟩
          rw [hstep, ← List.cons_append, Text.cons_intercalate hnil]
          rfl

/-- Whether a hyphen is left at the end makes no difference once the hyphens there are gone. -/
theorem withoutHyphens_take_append (htrail : trail = [] ∨ trail = ['-']) (cs : List Char) (n : ℕ) :
    withoutHyphens ((cs ++ trail).take n) = withoutHyphens (cs.take n) := by
  rcases htrail with rfl | rfl
  · rw [List.append_nil]
  · rcases Nat.lt_or_ge cs.length n with hlt | hle
    · have hlong : (cs ++ ['-']).length ≤ n := by
        rw [List.length_append]
        exact hlt
      rw [List.take_of_length_le hlong, withoutHyphens_concat, List.take_of_length_le hlt.le]
    · rw [List.take_append_of_le_length hle]

-- ---------------------------------------------------------------------------
-- Slugs of names
-- ---------------------------------------------------------------------------

theorem squeezed_intercalate_runs (cs : List Char) :
    Squeezed true (['-'].intercalate (runs cs)) := by
  obtain ⟨⟨trail, -, -, heq⟩, -⟩ := exists_squeeze_eq cs
  have hsqueezed := squeezed_squeeze true cs
  rw [heq] at hsqueezed
  have htake := hsqueezed.take (['-'].intercalate (runs cs)).length
  rwa [List.take_left] at htake

/-- A squeezed text without a hyphen at its end is made of its runs. -/
theorem Squeezed.intercalate_runs (h : Squeezed true cs) (hlast : cs.getLast? ≠ some '-') :
    ['-'].intercalate (runs cs) = cs := by
  obtain ⟨⟨trail, htrail, -, heq⟩, -⟩ := exists_squeeze_eq cs
  rw [h.squeeze_eq] at heq
  rcases htrail with rfl | rfl
  · rw [← List.append_nil (['-'].intercalate _), ← heq]
  · rw [heq, List.getLast?_concat] at hlast
    exact absurd rfl hlast

theorem toList_ofName (name : String) :
    (ofName name).toList =
      withoutHyphens ((['-'].intercalate (runs name.toList)).take maxLength) := by
  obtain ⟨⟨trail, htrail, -, heq⟩, -⟩ := exists_squeeze_eq name.toList
  rw [ofName, String.toList_ofList, heq, withoutHyphens_take_append htrail]

theorem squeezed_ofName (name : String) : Squeezed true (ofName name).toList := by
  have hcut := (squeezed_intercalate_runs name.toList).take maxLength
  rw [toList_ofName, hcut.withoutHyphens_eq]
  split
  · rw [List.dropLast_eq_take]
    exact hcut.take _
  · exact hcut

theorem getLast?_ofName (name : String) : (ofName name).toList.getLast? ≠ some '-' := by
  rw [toList_ofName]
  exact getLast?_withoutHyphens _

/-- A slug of a name is its own slug. -/
theorem ofName_ofName (name : String) : ofName (ofName name) = ofName name := by
  have hlength : (ofName name).toList.length ≤ maxLength := by
    rw [String.length_toList]
    exact length_ofName_le name
  rw [ofName, (squeezed_ofName name).squeeze_eq, List.take_of_length_le hlength,
    withoutHyphens_of_getLast? (getLast?_ofName name), String.ofList_toList]

theorem squeeze_eq_nil_iff : squeeze true cs = [] ↔ ∀ c ∈ cs, ¬Text.isAlphanumeric c := by
  induction cs with
  | nil => exact iff_of_true rfl nofun
  | cons c cs ih =>
    rw [squeeze, List.forall_mem_cons]
    split
    · rename_i hc
      exact iff_of_false nofun fun h => h.1 hc
    · rename_i hc
      rw [if_pos rfl, ih]
      exact (and_iff_right hc).symm

theorem ofName_eq_empty_iff (name : String) :
    ofName name = "" ↔ ∀ c ∈ name.toList, ¬Text.isAlphanumeric c := by
  have hcut := (squeezed_squeeze true name.toList).take maxLength
  have hmax : maxLength ≠ 0 := by decide
  rw [← String.toList_eq_nil_iff, ofName, String.toList_ofList, hcut.withoutHyphens_eq_nil_iff,
    List.take_eq_nil_iff, squeeze_eq_nil_iff, or_iff_right hmax]

/-- The slug of a name is made of runs of lower-case letters and digits with single hyphens between
them, of 200 characters at most. It is empty for the names without an ASCII letter or digit, and the
slug of a slug is the same. It is the name's own runs in lower case, joined by hyphens, cut at 200
characters and without the hyphen that may then be the last character. -/
theorem ofName_in_normal_form (name : String) :
    (∃ parts : List (List Char), (ofName name).toList = ['-'].intercalate parts ∧
        ∀ part ∈ parts, part ≠ [] ∧
          ∀ c ∈ part, ('a' ≤ c ∧ c ≤ 'z') ∨ ('0' ≤ c ∧ c ≤ '9')) ∧
      (ofName name).length ≤ 200 ∧
      (ofName name = "" ↔ ¬∃ c ∈ name.toList, Text.isAlphanumeric c) ∧
      ofName (ofName name) = ofName name ∧
      let cut := (['-'].intercalate (runs name.toList)).take 200
      (ofName name).toList = if cut.getLast? = some '-' then cut.dropLast else cut := by
  refine ⟨⟨runs (ofName name).toList, ?_, fun part => isBody_of_mem_runs⟩,
    length_ofName_le name, ?_, ofName_ofName name, ?_⟩
  · exact ((squeezed_ofName name).intercalate_runs (getLast?_ofName name)).symm
  · rw [ofName_eq_empty_iff]
    simp only [not_exists, not_and]
  · intro cut
    have hcut : Squeezed true cut := (squeezed_intercalate_runs name.toList).take 200
    exact (toList_ofName name).trans hcut.withoutHyphens_eq

example : runs "  Größe -- 10% ".toList = ["gr".toList, "e".toList, "10".toList] ∧
    ofName "  Größe -- 10% " = "gr-e-10" := by
  decide +kernel

end Slug

end Promotion
