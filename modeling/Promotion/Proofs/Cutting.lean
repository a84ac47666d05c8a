import Mathlib.Data.List.Basic
import Mathlib.Data.List.TakeWhile
import Promotion.Text.Blank
import Promotion.Text.Split

/-!
# Texts cut and trimmed

What trimming and cutting leave of a text, and how the text is made of it again. A text trimmed has
no blank at its ends (`IsTrimmed`), and blanks around it are all that trimming takes away. A text is
cut at every mark in one way only (`pieces_eq_iff`), and at its first mark in one way
(`cutFirst_eq_some_iff`).
-/

namespace Promotion.Text

-- ---------------------------------------------------------------------------
-- The longest run of characters of a kind
-- ---------------------------------------------------------------------------

section
variable {p : Char → Bool} {run rest : List Char}

theorem dropWhile_of_head? (h : ∀ c ∈ rest.head?, ¬p c) : rest.dropWhile p = rest := by
  cases rest with
  | nil => rfl
  | cons c cs => exact List.dropWhile_cons_of_neg (h c rfl)

theorem takeWhile_of_head? (h : ∀ c ∈ rest.head?, ¬p c) : rest.takeWhile p = [] := by
  cases rest with
  | nil => rfl
  | cons c cs => exact List.takeWhile_cons_of_neg (h c rfl)

/-- A run of characters of a kind ends where the first of another kind stands. -/
theorem takeWhile_append_of_run (hrun : ∀ c ∈ run, p c) (hrest : ∀ c ∈ rest.head?, ¬p c) :
    (run ++ rest).takeWhile p = run := by
  rw [List.takeWhile_append_of_pos hrun, takeWhile_of_head? hrest, List.append_nil]

theorem dropWhile_append_of_run (hrun : ∀ c ∈ run, p c) (hrest : ∀ c ∈ rest.head?, ¬p c) :
    (run ++ rest).dropWhile p = rest := by
  rw [List.dropWhile_append_of_pos hrun, dropWhile_of_head? hrest]

theorem not_of_mem_head?_dropWhile {cs : List Char} : ∀ c ∈ (cs.dropWhile p).head?, ¬p c := by
  intro c hc
  have hnot := List.head?_dropWhile_not p cs
  rw [Option.mem_def.mp hc] at hnot
  simpa using hnot

end

-- ---------------------------------------------------------------------------
-- Blanks at the ends
-- ---------------------------------------------------------------------------

/-- A text with nothing but blanks. -/
def Blank (cs : List Char) : Prop :=
  ∀ c ∈ cs, isBlank c

/-- A text without a blank at either end. -/
structure IsTrimmed (cs : List Char) : Prop where
  head : ∀ c ∈ cs.head?, ¬isBlank c
  last : ∀ c ∈ cs.getLast?, ¬isBlank c

section
variable {before cs after : List Char}

theorem isTrimmed_nil : IsTrimmed [] :=
  ⟨nofun, nofun⟩

/-- Texts put together have the ends of the first and the last. -/
theorem IsTrimmed.append {last : List Char} (hcs : IsTrimmed cs) (hne : cs ≠ [])
    (hlast : IsTrimmed last) (hlastNe : last ≠ []) (mid : List Char) :
    IsTrimmed (cs ++ mid ++ last) := by
  refine ⟨?_, ?_⟩
  · rw [List.append_assoc, List.head?_append_of_ne_nil _ hne]
    exact hcs.head
  · rw [List.getLast?_append_of_ne_nil _ hlastNe]
    exact hlast.last

/-- A text without any blank. -/
theorem isTrimmed_of_forall (h : ∀ c ∈ cs, ¬isBlank c) : IsTrimmed cs :=
  ⟨fun c hc => h c (List.mem_of_mem_head? hc), fun c hc => h c (List.mem_of_getLast? hc)⟩

/-- Trimming takes the blanks around a text away. -/
theorem trimmed_append (hbefore : Blank before) (hcs : IsTrimmed cs) (hafter : Blank after) :
    trimmed (before ++ cs ++ after) = cs := by
  rw [List.append_assoc, trimmed, List.dropWhile_append_of_pos hbefore]
  by_cases hne : cs = []
  · subst hne
    rw [List.nil_append, List.dropWhile_eq_nil_iff.mpr hafter]
    rfl
  · have hhead : ∀ c ∈ (cs ++ after).head?, ¬isBlank c := by
      rw [List.head?_append_of_ne_nil _ hne]
      exact hcs.head
    have hlast : ∀ c ∈ cs.reverse.head?, ¬isBlank c := by
      rw [List.head?_reverse]
      exact hcs.last
    have hreverse : ∀ c ∈ after.reverse, isBlank c := by
      intro c hc
      exact hafter c (List.mem_reverse.mp hc)
    rw [dropWhile_of_head? hhead, trimmedEnd, List.reverse_append,
      dropWhile_append_of_run hreverse hlast, List.reverse_reverse]

theorem trimmed_of_isTrimmed (h : IsTrimmed cs) : trimmed cs = cs := by
  have hblank : Blank [] := nofun
  have happend := trimmed_append hblank h hblank
  rwa [List.nil_append, List.append_nil] at happend

/-- What trimming takes away are blanks. -/
theorem exists_eq_append_trimmed (cs : List Char) :
    ∃ before after, Blank before ∧ Blank after ∧ cs = before ++ trimmed cs ++ after := by
  let rest := cs.dropWhile isBlank
  refine ⟨cs.takeWhile isBlank, (rest.reverse.takeWhile isBlank).reverse, ?_, ?_, ?_⟩
  · exact fun c hc => List.mem_takeWhile_imp hc
  · exact fun c hc => List.mem_takeWhile_imp (List.mem_reverse.mp hc)
  · have hrest : rest = trimmedEnd rest ++ (rest.reverse.takeWhile isBlank).reverse := by
      rw [trimmedEnd, ← List.reverse_append, List.takeWhile_append_dropWhile, List.reverse_reverse]
    calc cs = cs.takeWhile isBlank ++ rest := List.takeWhile_append_dropWhile.symm
      _ = cs.takeWhile isBlank ++
          (trimmedEnd rest ++ (rest.reverse.takeWhile isBlank).reverse) := by rw [← hrest]
      _ = cs.takeWhile isBlank ++ trimmed cs ++ (rest.reverse.takeWhile isBlank).reverse :=
        (List.append_assoc ..).symm

theorem isTrimmed_trimmed (cs : List Char) : IsTrimmed (trimmed cs) := by
  refine ⟨?_, ?_⟩
  · intro c hc
    -- the blanks taken from the end leave the first character where it is
    obtain ⟨rest, hrest⟩ : ∃ rest, cs.dropWhile isBlank = trimmed cs ++ rest :=
      ⟨((cs.dropWhile isBlank).reverse.takeWhile isBlank).reverse, by
        rw [trimmed, trimmedEnd, ← List.reverse_append, List.takeWhile_append_dropWhile,
          List.reverse_reverse]⟩
    have hfirst : c ∈ (cs.dropWhile isBlank).head? := by
      rw [hrest, List.head?_append, Option.mem_def.mp hc]
      rfl
    exact not_of_mem_head?_dropWhile c hfirst
  · rw [trimmed, trimmedEnd, List.getLast?_reverse]
    exact not_of_mem_head?_dropWhile

theorem trimmed_eq_nil_iff : trimmed cs = [] ↔ Blank cs := by
  constructor
  · intro h
    obtain ⟨before, after, hbefore, hafter, hcs⟩ := exists_eq_append_trimmed cs
    rw [h, List.append_nil] at hcs
    rw [hcs]
    exact List.forall_mem_append.mpr ⟨hbefore, hafter⟩
  · intro h
    have hblank : Blank [] := nofun
    have happend := trimmed_append h isTrimmed_nil hblank
    rwa [List.append_nil, List.append_nil] at happend

theorem mem_of_mem_trimmed {c : Char} (h : c ∈ trimmed cs) : c ∈ cs := by
  obtain ⟨before, after, -, -, hcs⟩ := exists_eq_append_trimmed cs
  rw [hcs]
  simp [h]

end

-- ---------------------------------------------------------------------------
-- Marks
-- ---------------------------------------------------------------------------

section
variable {mark : Char} {cs before after : List Char}

theorem pieces_eq_splitOn (mark : Char) (cs : List Char) : pieces mark cs = cs.splitOn mark := by
  induction cs with
  | nil => rfl
  | cons c cs ih =>
    rw [pieces, ih, List.splitOn_cons_eq_if_modifyHead]
    by_cases hc : c = mark
    · simp [hc]
    · rw [if_neg hc, if_neg (by simpa using hc)]
      cases hsplit : cs.splitOn mark with
      | nil => exact absurd hsplit (List.splitOn_ne_nil mark cs)
      | cons p ps => rfl

/-- A mark ends the pieces before it and starts those behind it. -/
theorem pieces_append (mark : Char) (before after : List Char) :
    pieces mark (before ++ mark :: after) = pieces mark before ++ pieces mark after := by
  simp only [pieces_eq_splitOn]
  exact List.splitOnP_append_cons before after (beq_self_eq_true mark)

/-- There is one piece more than there are marks. -/
theorem length_pieces (mark : Char) (cs : List Char) :
    (pieces mark cs).length = cs.count mark + 1 := by
  rw [pieces_eq_splitOn]
  induction cs with
  | nil => rfl
  | cons c cs ih =>
    rw [List.splitOn_cons_eq_if_modifyHead, List.count_cons]
    split
    · rw [List.length_cons, ih]
    · rw [List.length_modifyHead, ih, Nat.add_zero]

theorem intercalate_pieces (mark : Char) (cs : List Char) :
    [mark].intercalate (pieces mark cs) = cs := by
  rw [pieces_eq_splitOn, List.intercalate_splitOn]

theorem notMem_of_mem_pieces {p : List Char} (h : p ∈ pieces mark cs) : mark ∉ p := by
  induction cs generalizing p with
  | nil => simp_all [pieces]
  | cons c cs ih =>
    unfold pieces at h
    split at h
    · rcases List.mem_cons.mp h with rfl | hrest
      · exact List.not_mem_nil
      · exact ih hrest
    · rename_i hc
      split at h
      · rw [List.mem_singleton.mp h, List.mem_singleton]
        exact Ne.symm hc
      · rename_i first rest hpieces
        rw [hpieces] at ih
        rcases List.mem_cons.mp h with rfl | hrest
        · rw [List.mem_cons, not_or]
          exact ⟨Ne.symm hc, ih List.mem_cons_self⟩
        · exact ih (List.mem_cons_of_mem _ hrest)

/-- The pieces of a text are the parts without a mark that make it with marks between them. -/
theorem pieces_eq_iff {parts : List (List Char)} :
    pieces mark cs = parts ↔
      parts ≠ [] ∧ (∀ part ∈ parts, mark ∉ part) ∧ [mark].intercalate parts = cs := by
  constructor
  · rintro rfl
    refine ⟨?_, fun part => notMem_of_mem_pieces, intercalate_pieces mark cs⟩
    rw [pieces_eq_splitOn]
    exact List.splitOn_ne_nil mark cs
  · rintro ⟨hne, hparts, rfl⟩
    rw [pieces_eq_splitOn, List.splitOn_intercalate mark hparts hne]

/-- A text of parts has the characters of its parts, and the mark if there are several. -/
theorem mem_of_mem_intercalate {c : Char} {parts : List (List Char)}
    (h : c ∈ [mark].intercalate parts) : c = mark ∨ ∃ part ∈ parts, c ∈ part := by
  induction parts with
  | nil => cases h
  | cons part rest ih =>
    cases rest with
    | nil =>
      rw [List.intercalate_singleton] at h
      exact .inr ⟨part, List.mem_cons_self, h⟩
    | cons next rest =>
      rw [List.intercalate_cons_cons, List.append_assoc, List.mem_append, List.mem_append,
        List.mem_singleton] at h
      rcases h with hpart | hmark | hrest
      · exact .inr ⟨part, List.mem_cons_self, hpart⟩
      · exact .inl hmark
      · rcases ih hrest with hmark | ⟨other, hother, hc⟩
        · exact .inl hmark
        · exact .inr ⟨other, List.mem_cons_of_mem _ hother, hc⟩

theorem mem_intercalate_of_mem {c : Char} {part : List Char} {parts : List (List Char)}
    (hpart : part ∈ parts) (hc : c ∈ part) : c ∈ [mark].intercalate parts := by
  induction parts with
  | nil => cases hpart
  | cons first rest ih =>
    cases rest with
    | nil => rwa [List.intercalate_singleton, ← List.mem_singleton.mp hpart]
    | cons next rest =>
      rw [List.intercalate_cons_cons, List.append_assoc, List.mem_append]
      rcases List.mem_cons.mp hpart with rfl | hrest
      · exact .inl hc
      · exact .inr (List.mem_append_right _ (ih hrest))

theorem mem_of_mem_pieces {c : Char} {p : List Char} (hp : p ∈ pieces mark cs) (hc : c ∈ p) :
    c ∈ cs := by
  rw [← intercalate_pieces mark cs]
  exact mem_intercalate_of_mem hp hc

theorem intercalate_ne_nil {parts : List (List Char)} (hne : parts ≠ [])
    (hparts : ∀ part ∈ parts, part ≠ []) : [mark].intercalate parts ≠ [] := by
  obtain ⟨part, rest, rfl⟩ := List.exists_cons_of_ne_nil hne
  obtain ⟨c, part, rfl⟩ := List.exists_cons_of_ne_nil (hparts part List.mem_cons_self)
  exact List.ne_nil_of_mem (mem_intercalate_of_mem List.mem_cons_self List.mem_cons_self)

theorem isTrimmed_intercalate {parts : List (List Char)}
    (hparts : ∀ part ∈ parts, part ≠ [] ∧ IsTrimmed part) :
    IsTrimmed ([mark].intercalate parts) := by
  induction parts with
  | nil => exact isTrimmed_nil
  | cons part rest ih =>
    obtain ⟨⟨hne, htrimmed⟩, hrest⟩ := List.forall_mem_cons.mp hparts
    cases rest with
    | nil => rwa [List.intercalate_singleton]
    | cons next rest =>
      rw [List.intercalate_cons_cons]
      exact htrimmed.append hne (ih hrest)
        (intercalate_ne_nil nofun fun part hpart => (hrest part hpart).1) [mark]

/-- Marks between parts are marks before all parts but for the first mark. -/
theorem cons_intercalate {parts : List (List Char)} (hne : parts ≠ []) :
    mark :: [mark].intercalate parts = parts.flatMap (mark :: ·) := by
  induction parts with
  | nil => exact absurd rfl hne
  | cons part rest ih =>
    cases rest with
    | nil => simp
    | cons next rest =>
      rw [List.intercalate_cons_cons, List.flatMap_cons, ← ih nofun]
      simp

/-- A text is cut at its first mark only. -/
theorem cutFirst_eq_some_iff :
    cutFirst mark cs = some (before, after) ↔ cs = before ++ mark :: after ∧ mark ∉ before := by
  induction cs generalizing before with
  | nil => simp [cutFirst]
  | cons c cs ih =>
    unfold cutFirst
    by_cases hc : c = mark
    · subst hc
      cases before with
      | nil => simp [eq_comm]
      | cons b before =>
        simp only [if_true, Option.some.injEq, Prod.mk.injEq, List.cons_append, List.cons.injEq,
          List.mem_cons, not_or]
        exact iff_of_false nofun fun h => h.2.1 h.1.1
    · rw [if_neg hc]
      cases before with
      | nil => simp [hc]
      | cons b before =>
        simp only [Option.map_eq_some_iff, Prod.mk.injEq, List.cons.injEq, List.cons_append,
          List.mem_cons, not_or]
        constructor
        · rintro ⟨⟨first, second⟩, hcut, ⟨rfl, rfl⟩, rfl⟩
          obtain ⟨rfl, hnot⟩ := ih.mp hcut
          exact ⟨⟨rfl, rfl⟩, Ne.symm hc, hnot⟩
        · rintro ⟨⟨rfl, hcs⟩, -, hnot⟩
          exact ⟨(before, after), ih.mpr ⟨hcs, hnot⟩, ⟨rfl, rfl⟩, rfl⟩

end

end Promotion.Text
