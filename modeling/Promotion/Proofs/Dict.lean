import Promotion.Dict

/-!
# Dictionaries: storing, taking out, order

What is found under a key after `insert` and `erase`, for entries in any order, and that both keep
entries in order. Entries in order are determined by what is found under each key (`Sorted.ext`).
-/

namespace Promotion

namespace Dict

variable {α : Type u} {β : Type v} {d : Dict α} {key other : String} {value : α}

-- ---------------------------------------------------------------------------
-- Looking up
-- ---------------------------------------------------------------------------

@[simp] theorem get?_nil : get? ([] : Dict α) key = none := rfl

theorem get?_cons (k : String) (v : α) (d : Dict α) :
    get? ((k, v) :: d) key = if key = k then some v else d.get? key := by
  unfold get?
  rw [List.lookup_cons]
  by_cases h : key = k
  · simp [h]
  · rw [if_neg h, beq_false_of_ne h]

theorem get?_eq_none_iff : d.get? key = none ↔ key ∉ d.keys := by
  induction d with
  | nil => simp [keys]
  | cons entry d ih =>
    obtain ⟨k, v⟩ := entry
    rw [get?_cons]
    by_cases h : key = k
    · simp [h, keys]
    · rw [if_neg h, ih]
      simp [keys, h]

@[simp] theorem get?_insert_self : (d.insert key value).get? key = some value := by
  induction d with
  | nil => simp [insert, get?_cons]
  | cons entry d ih =>
    obtain ⟨k, v⟩ := entry
    unfold insert
    split
    · simp [get?_cons]
    · split
      · simp [get?_cons]
      · rename_i hne
        rw [get?_cons, if_neg hne, ih]

theorem get?_insert_of_ne (h : other ≠ key) : (d.insert key value).get? other = d.get? other := by
  induction d with
  | nil => simp [insert, get?_cons, h]
  | cons entry d ih =>
    obtain ⟨k, v⟩ := entry
    unfold insert
    split
    · rw [get?_cons, if_neg h]
    · split
      · rename_i heq
        subst heq
        rw [get?_cons, get?_cons, if_neg h, if_neg h]
      · rw [get?_cons, get?_cons, ih]

@[simp] theorem get?_erase_self : (d.erase key).get? key = none := by
  rw [get?_eq_none_iff]
  simp [erase, keys]

theorem get?_erase_of_ne (h : other ≠ key) : (d.erase key).get? other = d.get? other := by
  induction d with
  | nil => rfl
  | cons entry d ih =>
    obtain ⟨k, v⟩ := entry
    by_cases hk : k = key
    · have hskip : erase ((k, v) :: d) key = erase d key := by simp [erase, hk]
      rw [hskip, ih, get?_cons, if_neg (fun heq => h (heq.trans hk))]
    · have hkeep : erase ((k, v) :: d) key = (k, v) :: erase d key := by simp [erase, hk]
      rw [hkeep, get?_cons, get?_cons, ih]

theorem mem_of_get? (h : d.get? key = some value) : (key, value) ∈ d := by
  obtain ⟨before, after, hd, -⟩ := List.lookup_eq_some_iff.mp h
  rw [hd]
  exact List.mem_append_right _ List.mem_cons_self

theorem exists_get?_of_mem_keys (h : key ∈ d.keys) : ∃ value, d.get? key = some value := by
  cases hfound : d.get? key with
  | none => exact absurd h (get?_eq_none_iff.mp hfound)
  | some value => exact ⟨value, rfl⟩

theorem get?_append (d e : Dict α) (key : String) :
    get? (d ++ e) key = (d.get? key).or (e.get? key) :=
  List.lookup_append

theorem get?_map (f : String → α → β) (d : Dict α) (key : String) :
    get? (d.map fun (k, v) => (k, f k v)) key = (d.get? key).map (f key) := by
  induction d with
  | nil => rfl
  | cons entry d ih =>
    obtain ⟨k, v⟩ := entry
    rw [List.map_cons, get?_cons, get?_cons, ih]
    by_cases h : key = k
    · rw [if_pos h, if_pos h, h]
      rfl
    · rw [if_neg h, if_neg h]

/-- What was stored last under a key is what is found there. -/
theorem get?_foldl_insert (entries : List (String × α)) (d : Dict α) (key : String) :
    get? (entries.foldl (fun d (k, v) => d.insert k v) d) key =
      ((entries.filter (·.1 = key)).getLast?.map (·.2)).or (d.get? key) := by
  induction entries generalizing d with
  | nil => rfl
  | cons entry entries ih =>
    obtain ⟨k, v⟩ := entry
    rw [List.foldl_cons, ih (d.insert k v)]
    by_cases h : k = key
    · rw [List.filter_cons_of_pos (by simpa using h), List.getLast?_cons, h, get?_insert_self]
      cases (entries.filter (·.1 = key)).getLast? <;> rfl
    · rw [List.filter_cons_of_neg (by simpa using h), get?_insert_of_ne (Ne.symm h)]

theorem get?_ofList (entries : List (String × α)) (key : String) :
    (ofList entries).get? key = (entries.filter (·.1 = key)).getLast?.map (·.2) := by
  rw [ofList, get?_foldl_insert, get?_nil, Option.or_none]

/-- Where no key is stored twice, the order of storing does not matter. -/
theorem get?_ofList_of_nodup {entries : List (String × α)} (h : (entries.map (·.1)).Nodup)
    (key : String) : (ofList entries).get? key = get? entries key := by
  rw [get?_ofList]
  induction entries with
  | nil => rfl
  | cons entry entries ih =>
    obtain ⟨k, v⟩ := entry
    obtain ⟨hk, hrest⟩ := List.nodup_cons.mp h
    rw [get?_cons]
    by_cases hkey : key = k
    · subst hkey
      have hnone : entries.filter (·.1 = key) = [] := by
        rw [List.filter_eq_nil_iff]
        intro entry hentry heq
        exact hk (List.mem_map.mpr ⟨entry, hentry, of_decide_eq_true heq⟩)
      rw [List.filter_cons_of_pos (by simp), hnone, if_pos rfl]
      rfl
    · rw [List.filter_cons_of_neg (by simpa [eq_comm] using hkey), ih hrest, if_neg hkey]

-- ---------------------------------------------------------------------------
-- Order
-- ---------------------------------------------------------------------------

theorem mem_keys_insert : other ∈ (d.insert key value).keys ↔ other = key ∨ other ∈ d.keys := by
  by_cases h : other = key
  · subst h
    have hfound : ¬ other ∉ (d.insert other value).keys := by
      rw [← get?_eq_none_iff, get?_insert_self]
      exact nofun
    exact iff_of_true (Decidable.not_not.mp hfound) (.inl rfl)
  · have hsame : other ∉ (d.insert key value).keys ↔ other ∉ d.keys := by
      rw [← get?_eq_none_iff, ← get?_eq_none_iff, get?_insert_of_ne h]
    rw [← Decidable.not_iff_not, hsame, not_or]
    exact ⟨fun hnot => ⟨h, hnot⟩, And.right⟩

/-- An entry of `d.insert key value` is the new one or has a key of `d`. -/
private theorem forall_mem_insert {bound : String} (hkey : bound < key)
    (hd : ∀ entry ∈ d, bound < entry.1) : ∀ entry ∈ d.insert key value, bound < entry.1 := by
  intro entry hentry
  have hmem : entry.1 ∈ (d.insert key value).keys := List.mem_map_of_mem hentry
  rcases mem_keys_insert.mp hmem with heq | hold
  · rw [heq]
    exact hkey
  · obtain ⟨found, hfound, heq⟩ := List.mem_map.mp hold
    exact heq ▸ hd found hfound

theorem Sorted.insert (h : d.Sorted) : (d.insert key value).Sorted := by
  induction d with
  | nil => exact List.pairwise_singleton _ _
  | cons entry d ih =>
    obtain ⟨k, v⟩ := entry
    obtain ⟨hbelow, hrest⟩ := List.pairwise_cons.mp h
    unfold Dict.insert
    split
    · rename_i hlt
      refine List.pairwise_cons.mpr ⟨?_, h⟩
      intro later hlater
      rcases List.mem_cons.mp hlater with rfl | hlater
      · exact hlt
      · exact String.lt_trans hlt (hbelow later hlater)
    · split
      · rename_i heq
        subst heq
        exact List.pairwise_cons.mpr ⟨hbelow, hrest⟩
      · rename_i hnlt hne
        have hlt : k < key := by
          by_cases hlt : k < key
          · exact hlt
          · exact absurd (String.le_antisymm hlt hnlt) hne
        exact List.pairwise_cons.mpr ⟨forall_mem_insert hlt hbelow, ih hrest⟩

theorem Sorted.keys (h : d.Sorted) : d.keys.Pairwise (· < ·) :=
  List.pairwise_map.mpr h

theorem Sorted.mapValues {f : α → β} (h : d.Sorted) : (d.mapValues f).Sorted :=
  List.pairwise_map.mpr h

theorem sorted_ofList (entries : List (String × α)) : (ofList entries).Sorted :=
  List.foldlRecOn entries _ List.Pairwise.nil fun _ h _ _ => Sorted.insert h

theorem Sorted.erase (h : d.Sorted) : (d.erase key).Sorted :=
  List.Pairwise.filter _ h

theorem Sorted.mem_iff_get? (h : d.Sorted) : (key, value) ∈ d ↔ d.get? key = some value := by
  refine ⟨?_, mem_of_get?⟩
  induction d with
  | nil => exact nofun
  | cons entry d ih =>
    obtain ⟨k, v⟩ := entry
    obtain ⟨hbelow, hrest⟩ := List.pairwise_cons.mp h
    intro hmem
    rw [get?_cons]
    rcases List.mem_cons.mp hmem with heq | hlater
    · cases heq
      rw [if_pos rfl]
    · have hlt : k < key := hbelow _ hlater
      have hne : key ≠ k := by
        rintro rfl
        exact String.lt_irrefl key hlt
      rw [if_neg hne]
      exact ih hrest hlater

/-- The last of the entries with a property has the greatest of their keys. -/
theorem Sorted.le_of_getLast?_filter {p : String × α → Bool} {last : String × α} (h : d.Sorted)
    (hlast : (d.filter p).getLast? = some last) : ∀ entry ∈ d, p entry → entry.1 ≤ last.1 := by
  intro entry hentry hp
  obtain ⟨before, hbefore⟩ := List.getLast?_eq_some_iff.mp hlast
  have hpairwise : (before ++ [last]).Pairwise (·.1 < ·.1) := hbefore ▸ List.Pairwise.filter p h
  have hmem : entry ∈ before ++ [last] := hbefore ▸ List.mem_filter.mpr ⟨hentry, hp⟩
  rcases List.mem_append.mp hmem with hearlier | hsame
  · have hlt := (List.pairwise_append.mp hpairwise).2.2 entry hearlier last List.mem_cons_self
    exact String.not_lt.mp (String.lt_asymm hlt)
  · obtain rfl := List.mem_singleton.mp hsame
    exact String.le_refl _

/-- Every entry stored is one of those that were to be stored. -/
theorem mem_of_mem_ofList {entries : List (String × α)} {entry : String × α}
    (h : entry ∈ ofList entries) : entry ∈ entries := by
  obtain ⟨key, value⟩ := entry
  rw [(sorted_ofList entries).mem_iff_get?, get?_ofList, Option.map_eq_some_iff] at h
  obtain ⟨⟨k, v⟩, hlast, rfl⟩ := h
  obtain ⟨hmem, hkey⟩ := List.mem_filter.mp (List.mem_of_getLast? hlast)
  obtain rfl : k = key := by simpa using hkey
  exact hmem

theorem Sorted.nodup_keys (h : d.Sorted) : d.keys.Nodup := by
  refine List.Pairwise.imp ?_ h.keys
  rintro key _ hlt rfl
  exact String.lt_irrefl key hlt

theorem Sorted.nodup (h : d.Sorted) : d.Nodup :=
  List.Pairwise.of_map (·.1) (fun _ _ hne heq => hne (congrArg (·.1) heq)) h.nodup_keys

/-- What is found under the keys makes up the whole of a dictionary. -/
theorem Sorted.ext {d e : Dict α} (hd : d.Sorted) (he : e.Sorted)
    (hget : ∀ key, d.get? key = e.get? key) : d = e := by
  have hmem : ∀ entry : String × α, entry ∈ d ↔ entry ∈ e := by
    rintro ⟨key, value⟩
    rw [hd.mem_iff_get?, he.mem_iff_get?, hget]
  refine List.Perm.eq_of_pairwise ?_ hd he ((List.perm_ext_iff_of_nodup hd.nodup he.nodup).mpr hmem)
  intro a b _ _ hab hba
  exact absurd hba (String.lt_asymm hab)

/-- Storing the entries of a dictionary one after the other gives the dictionary. -/
theorem Sorted.ofList_eq (h : d.Sorted) : ofList d = d :=
  (sorted_ofList d).ext h (get?_ofList_of_nodup h.nodup_keys)

-- ---------------------------------------------------------------------------
-- Laying one over another
-- ---------------------------------------------------------------------------

/-- The entries of two dictionaries. Under a key of both the value is that of `upper`. -/
def overlay (d upper : Dict α) : Dict α :=
  upper.foldr (fun (key, value) d => d.insert key value) d

theorem get?_overlay (d upper : Dict α) (key : String) :
    (d.overlay upper).get? key = (upper.get? key).or (d.get? key) := by
  induction upper with
  | nil => rfl
  | cons entry upper ih =>
    obtain ⟨k, v⟩ := entry
    change get? ((d.overlay upper).insert k v) key = _
    rw [get?_cons]
    by_cases h : key = k
    · rw [if_pos h, h, get?_insert_self]
      rfl
    · rw [if_neg h, get?_insert_of_ne h, ih]

theorem Sorted.overlay (h : d.Sorted) (upper : Dict α) : (d.overlay upper).Sorted :=
  List.foldrRecOn upper _ h fun _ h _ _ => Sorted.insert h

end Dict

end Promotion
