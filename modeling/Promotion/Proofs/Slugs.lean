import Mathlib.Data.Fintype.EquivFin
import Promotion.Proofs.DiscountLines
import Promotion.Proofs.Numeral

/-!
# The slugs of one update

Slugs are made in three ways that can meet in one text: of a promotion's name, of an effect's index
where the name has no letter or digit, and by numbers at the end, of an item or of a slug that was
taken. What keeps them apart is the claim alone (`claim_notMem`). What keeps them short is the cut
at 200 characters, to which the numbers can add no more than their digits (`Fits`).
-/

namespace Promotion

namespace Slug

-- ---------------------------------------------------------------------------
-- Numbers at the end
-- ---------------------------------------------------------------------------

theorem toList_numbered (slug : String) (n : Nat) :
    (numbered slug n).toList = slug.toList ++ '-' :: Text.numeral n := by
  simp [numbered]

theorem length_numbered (slug : String) (n : Nat) :
    (numbered slug n).length = slug.length + 1 + (Text.numeral n).length := by
  have hhyphen : "-".length = 1 := rfl
  simp [numbered, hhyphen]

theorem numbered_injective (slug : String) : Function.Injective (numbered slug) := by
  intro m n h
  rw [← String.toList_inj, toList_numbered, toList_numbered] at h
  have hnumeral := List.append_cancel_left h
  simp only [List.cons.injEq, true_and] at hnumeral
  exact Text.numeral_injective hnumeral

theorem numbered_ne (slug : String) (n : Nat) : numbered slug n ≠ slug := by
  intro h
  have hlength := length_numbered slug n
  rw [h] at hlength
  omega

-- ---------------------------------------------------------------------------
-- Claims
-- ---------------------------------------------------------------------------

/-- All numbers before the one found are taken. It is free unless the tries have run out. -/
theorem exists_firstFree (claimed : List String) (slug : String) (tries n : Nat) :
    ∃ more ≤ tries, firstFree claimed slug tries n = numbered slug (n + more) ∧
      (∀ less < more, numbered slug (n + less) ∈ claimed) ∧
      (more < tries → numbered slug (n + more) ∉ claimed) := by
  induction tries generalizing n with
  | zero => exact ⟨0, Nat.le_refl 0, rfl, nofun, nofun⟩
  | succ tries ih =>
    unfold firstFree
    split
    · rename_i htaken
      obtain ⟨more, hle, hfound, hbefore, hfree⟩ := ih (n + 1)
      have hnext : n + 1 + more = n + (more + 1) := by omega
      rw [hnext] at hfound hfree
      refine ⟨more + 1, by omega, hfound, ?_, fun hlt => hfree (by omega)⟩
      intro less hless
      cases less with
      | zero => exact htaken
      | succ less =>
        rw [show n + (less + 1) = n + 1 + less by omega]
        exact hbefore less (by omega)
    · rename_i hfree
      exact ⟨0, Nat.zero_le _, rfl, nofun, fun _ => hfree⟩

/-- A slug and numbered ones that are all claimed are no more than there are claims. -/
theorem lt_length_of_claimed {claimed : List String} {slug : String} {n tried : Nat}
    (hslug : slug ∈ claimed) (hnumbered : ∀ less < tried, numbered slug (n + less) ∈ claimed) :
    tried < claimed.length := by
  have hnodup : (slug :: (List.range tried).map fun less => numbered slug (n + less)).Nodup := by
    refine List.nodup_cons.mpr ⟨?_, List.nodup_range.map ?_⟩
    · intro hmem
      obtain ⟨less, -, heq⟩ := List.mem_map.mp hmem
      exact numbered_ne slug _ heq
    · intro a b heq
      have := numbered_injective slug heq
      omega
  have hsubset :
      (slug :: (List.range tried).map fun less => numbered slug (n + less)) ⊆ claimed := by
    refine List.cons_subset.mpr ⟨hslug, ?_⟩
    intro name hmem
    obtain ⟨less, hless, rfl⟩ := List.mem_map.mp hmem
    exact hnumbered less (List.mem_range.mp hless)
  have hlength := (List.subperm_of_subset hnodup hsubset).length_le
  simpa [Nat.succ_le_iff] using hlength

/-- A claimed slug is the one wanted or a numbered one. Its number grows no larger than the count of
claims and one, so it cannot leave the range of the counter before the effects do. -/
theorem claim_cases (claimed : List String) (slug : String) :
    (claim claimed slug = slug ∧ slug ∉ claimed) ∨
      ∃ n, 2 ≤ n ∧ n ≤ claimed.length + 1 ∧ claim claimed slug = numbered slug n ∧
        numbered slug n ∉ claimed := by
  unfold claim
  split
  · rename_i htaken
    obtain ⟨more, -, hfound, hbefore, hfree⟩ := exists_firstFree claimed slug claimed.length 2
    have hmore := lt_length_of_claimed htaken hbefore
    exact .inr ⟨2 + more, by omega, by omega, hfound, hfree hmore⟩
  · rename_i hfree
    exact .inl ⟨rfl, hfree⟩

theorem claim_notMem (claimed : List String) (slug : String) : claim claimed slug ∉ claimed := by
  rcases claim_cases claimed slug with ⟨heq, hfree⟩ | ⟨n, -, -, heq, hfree⟩
  · rwa [heq]
  · rwa [heq]

-- ---------------------------------------------------------------------------
-- The marker
-- ---------------------------------------------------------------------------

theorem marker_isPrefixOf_append (body : String) :
    marker.toList.isPrefixOf (marker ++ body).toList := by
  rw [List.isPrefixOf_iff_prefix, String.toList_append]
  exact List.prefix_append _ _

theorem marker_isPrefixOf_numbered {slug : String} (h : marker.toList.isPrefixOf slug.toList)
    (n : Nat) : marker.toList.isPrefixOf (numbered slug n).toList := by
  rw [List.isPrefixOf_iff_prefix] at h ⊢
  rw [toList_numbered]
  exact h.trans (List.prefix_append _ _)

theorem marker_isPrefixOf_ofPromotion (name : String) (index : Nat) :
    marker.toList.isPrefixOf (ofPromotion name index).toList := by
  simp only [ofPromotion]
  split
  · exact marker_isPrefixOf_numbered (marker_isPrefixOf_append "effect") index
  · exact marker_isPrefixOf_append _

theorem marker_isPrefixOf_claim {slug : String} (h : marker.toList.isPrefixOf slug.toList)
    (claimed : List String) : marker.toList.isPrefixOf (claim claimed slug).toList := by
  rcases claim_cases claimed slug with ⟨heq, -⟩ | ⟨n, -, -, heq, -⟩
  · rwa [heq]
  · rw [heq]
    exact marker_isPrefixOf_numbered h n

-- ---------------------------------------------------------------------------
-- Characters
-- ---------------------------------------------------------------------------

/-- The characters of slugs. -/
def Allowed (c : Char) : Prop :=
  ('a' ≤ c ∧ c ≤ 'z') ∨ ('0' ≤ c ∧ c ≤ '9') ∨ c = '-'

instance : DecidablePred Allowed := fun c =>
  inferInstanceAs (Decidable (('a' ≤ c ∧ c ≤ 'z') ∨ ('0' ≤ c ∧ c ≤ '9') ∨ c = '-'))

theorem allowed_iff {c : Char} :
    Allowed c ↔ (97 ≤ c.toNat ∧ c.toNat ≤ 122) ∨ (48 ≤ c.toNat ∧ c.toNat ≤ 57) ∨ c = '-' := by
  simp [Allowed, Char.le_def, UInt32.le_iff_toNat_le]

theorem allowed_of_isDigit {c : Char} (h : Text.isDigit c) : Allowed c :=
  allowed_iff.mpr (.inr (.inl (Text.isDigit_iff.mp h)))

theorem allowed_lower {c : Char} (h : Text.isAlphanumeric c) : Allowed (Text.lower c) := by
  by_cases hupper : Text.isUpper c
  · have hrange : 65 ≤ c.toNat ∧ c.toNat ≤ 90 := by simpa [Text.isUpper] using hupper
    have hlower := Text.toNat_lower_of_isUpper hupper
    apply allowed_iff.mpr
    omega
  · rw [Text.lower, if_neg hupper]
    simp only [Text.isAlphanumeric, hupper, Bool.or_false, Bool.or_eq_true] at h
    rcases h with hlower | hdigit
    · have hrange : 97 ≤ c.toNat ∧ c.toNat ≤ 122 := by simpa [Text.isLower] using hlower
      exact allowed_iff.mpr (.inl hrange)
    · exact allowed_of_isDigit hdigit

theorem allowed_of_mem_squeeze {hyphened : Bool} {cs : List Char} {c : Char}
    (h : c ∈ squeeze hyphened cs) : Allowed c := by
  induction cs generalizing hyphened with
  | nil => cases h
  | cons d cs ih =>
    unfold squeeze at h
    split at h
    · rename_i hd
      rcases List.mem_cons.mp h with rfl | hrest
      · exact allowed_lower hd
      · exact ih hrest
    · split at h
      · exact ih h
      · rcases List.mem_cons.mp h with rfl | hrest
        · exact .inr (.inr rfl)
        · exact ih hrest

theorem withoutHyphens_sublist (cs : List Char) : (withoutHyphens cs).Sublist cs := by
  have hreverse := (List.dropWhile_sublist (· == '-') (l := cs.reverse)).reverse
  rwa [List.reverse_reverse] at hreverse

theorem allowed_of_mem_ofName {name : String} {c : Char} (h : c ∈ (ofName name).toList) :
    Allowed c := by
  rw [ofName, String.toList_ofList] at h
  exact allowed_of_mem_squeeze (List.mem_of_mem_take ((withoutHyphens_sublist _).mem h))

theorem length_ofName_le (name : String) : (ofName name).length ≤ maxLength := by
  rw [ofName, String.length_ofList]
  exact (withoutHyphens_sublist _).length_le.trans (List.length_take_le _ _)

-- ---------------------------------------------------------------------------
-- Slugs that fit
-- ---------------------------------------------------------------------------

/-- A slug as the shop takes it, of at most `bound` characters. -/
structure Fits (bound : Nat) (slug : String) : Prop where
  marked : marker.toList.isPrefixOf slug.toList
  allowed : ∀ c ∈ slug.toList, Allowed c
  length_le : slug.length ≤ bound

namespace Fits

variable {bound : Nat} {slug : String}

theorem mono {larger : Nat} (h : Fits bound slug) (hle : bound ≤ larger) : Fits larger slug :=
  ⟨h.marked, h.allowed, h.length_le.trans hle⟩

theorem marker_append {body : String} (hallowed : ∀ c ∈ body.toList, Allowed c)
    (hlength : body.length ≤ bound) : Fits (10 + bound) (marker ++ body) where
  marked := marker_isPrefixOf_append body
  allowed := by
    have hmarker : ∀ c ∈ marker.toList, Allowed c := by simp [marker, Allowed]
    rw [String.toList_append]
    exact List.forall_mem_append.mpr ⟨hmarker, hallowed⟩
  length_le := by
    have hmarker : marker.length = 10 := by decide
    rw [String.length_append]
    omega

/-- A number adds its digits and a hyphen. -/
theorem numbered {n digits : Nat} (h : Fits bound slug) (hpos : 0 < digits) (hn : n < 10 ^ digits) :
    Fits (bound + 1 + digits) (Slug.numbered slug n) where
  marked := marker_isPrefixOf_numbered h.marked n
  allowed := by
    have hhyphen : Allowed '-' := by decide
    have hdigits : ∀ c ∈ Text.numeral n, Allowed c :=
      fun c hc => allowed_of_isDigit (Text.isDigit_of_mem_numeral hc)
    rw [toList_numbered]
    exact List.forall_mem_append.mpr ⟨h.allowed, List.forall_mem_cons.mpr ⟨hhyphen, hdigits⟩⟩
  length_le := by
    have hdigits : (Text.numeral n).length ≤ digits :=
      (Nat.length_toDigits_le_iff (by decide) hpos).mpr hn
    have := h.length_le
    rw [length_numbered]
    omega

/-- A name is cut at 200 characters, and an index below 2 ^ 31 has ten digits at most. -/
theorem ofPromotion (name : String) {index : Nat} (hindex : index < 2 ^ 31) :
    Fits 210 (Slug.ofPromotion name index) := by
  simp only [Slug.ofPromotion]
  split
  · have hword : Fits (10 + 6) (marker ++ "effect") := marker_append (by simp [Allowed]) (by decide)
    have hnumber : Fits (10 + 6 + 1 + 10) (Slug.numbered (marker ++ "effect") index) :=
      hword.numbered (by decide) (by omega)
    exact hnumber.mono (by decide)
  · exact marker_append (fun _ => allowed_of_mem_ofName) (length_ofName_le name)

theorem claim {claimed : List String} (h : Fits bound slug) (hclaimed : claimed.length < 2 ^ 31) :
    Fits (bound + 1 + 10) (Slug.claim claimed slug) := by
  rcases claim_cases claimed slug with ⟨heq, -⟩ | ⟨n, -, hn, heq, -⟩
  · rw [heq]
    exact h.mono (by omega)
  · rw [heq]
    exact h.numbered (by decide) (by omega)

end Fits

end Slug

namespace Settings

variable {settings : Settings} {currency : String} {items : List SessionItem} {index : Nat}
  {claimed : List String} {effects : List Effect}

/-- Whatever the kind of discount and the slugs before it, its slug starts with the marker. -/
theorem marker_isPrefixOf_of_discountLine? {effect : Effect} {line : Action} {slug : String}
    (h : settings.discountLine? currency items index claimed effect = some (line, slug)) :
    Slug.marker.toList.isPrefixOf slug.toList := by
  obtain ⟨_, _, _, _, _, wanted, -, -, rfl, name, hwanted⟩ := exists_wanted_of_discountLine? h
  apply Slug.marker_isPrefixOf_claim
  rcases hwanted with rfl | ⟨position, -, rfl⟩
  · exact Slug.marker_isPrefixOf_ofPromotion name index
  · exact Slug.marker_isPrefixOf_numbered (Slug.marker_isPrefixOf_ofPromotion name index) position

/-- Its slug fits, too: a position below 2 ^ 64 has twenty digits at most. -/
theorem fits_of_discountLine? {effect : Effect} {line : Action} {slug : String}
    (h : settings.discountLine? currency items index claimed effect = some (line, slug))
    (hindex : index < 2 ^ 31) (hclaimed : claimed.length < 2 ^ 31)
    (hitems : items.length < 2 ^ 64) : Slug.Fits 256 slug := by
  obtain ⟨_, _, _, _, _, wanted, -, -, rfl, name, hwanted⟩ := exists_wanted_of_discountLine? h
  have hname := Slug.Fits.ofPromotion name hindex
  have hfits : Slug.Fits (210 + 1 + 20) wanted := by
    rcases hwanted with rfl | ⟨position, hposition, rfl⟩
    · exact hname.mono (by decide)
    · exact hname.numbered (by decide) (by omega)
  exact (hfits.claim hclaimed).mono (by decide)

/-- The slugs of discounts are apart from each other and from those claimed before, and all of them
fit. -/
theorem slugs_discountLines (hclaimed : claimed.Nodup) (hcount : claimed.length ≤ index)
    (hindex : index + effects.length < 2 ^ 31) (hitems : items.length < 2 ^ 64) :
    (claimed ++ (settings.discountLines currency items index claimed effects).map (·.2)).Nodup ∧
      ∀ line ∈ settings.discountLines currency items index claimed effects,
        Slug.Fits 256 line.2 := by
  -- every effect claims one slug at most, so that the claims stay behind the index
  induction effects generalizing index claimed with
  | nil => simpa [discountLines] using hclaimed
  | cons effect rest ih =>
    rw [List.length_cons] at hindex
    unfold discountLines
    cases hline : settings.discountLine? currency items index claimed effect with
    | none => simpa using ih hclaimed (by omega) (by omega)
    | some line =>
      have hfits := fits_of_discountLine? hline (by omega) (by omega) hitems
      obtain ⟨_, _, _, _, _, wanted, -, -, hslug, -⟩ := exists_wanted_of_discountLine? hline
      have hfree : line.2 ∉ claimed := hslug ▸ Slug.claim_notMem claimed wanted
      have hnext : (claimed ++ [line.2]).Nodup := by
        simpa [List.nodup_append, hclaimed] using fun slug hmem => ne_of_mem_of_not_mem hmem hfree
      have hbehind : (claimed ++ [line.2]).length ≤ index + 1 := by simpa using hcount
      obtain ⟨hnodup, hrest⟩ := ih hnext hbehind (by omega)
      refine ⟨by simpa using hnodup, ?_⟩
      exact List.forall_mem_cons.mpr ⟨hfits, hrest⟩

/-- The slugs of the lines that an update adds differ from each other, start with the marker of
promotions, are made of lower-case letters, digits and hyphens, and are 2 to 256 characters long.
The names of promotions may be anything. -/
theorem slugs_distinct_and_valid (settings : Settings) (cart : Cart) (session : Session)
    (effects : List Effect) (hitems : session.items.length < 2 ^ 64)
    (heffects : effects.length < 2 ^ 31) :
    let slugs := (settings.cartUpdate cart session effects).actions.filterMap Action.slug?
    slugs.Nodup ∧
      ∀ slug ∈ slugs,
        "promotion-".toList <+: slug.toList ∧
          (∀ c ∈ slug.toList, ('a' ≤ c ∧ c ≤ 'z') ∨ ('0' ≤ c ∧ c ≤ '9') ∨ c = '-') ∧
          2 ≤ slug.length ∧ slug.length ≤ 256 := by
  intro slugs
  obtain ⟨hnodup, hfits⟩ := @slugs_discountLines settings cart.currency session.items 0 [] effects
    List.nodup_nil (Nat.le_refl 0) (by omega) hitems
  have hslugs : slugs = _ := filterMap_slug?_cartUpdate
  rw [hslugs]
  refine ⟨hnodup, ?_⟩
  intro slug hmem
  obtain ⟨line, hline, rfl⟩ := List.mem_map.mp hmem
  have h := hfits line hline
  have hmarked := List.isPrefixOf_iff_prefix.mp h.marked
  have hlong : 10 ≤ line.2.length := by
    have hmarker : Slug.marker.toList.length = 10 := by decide
    rw [← String.length_toList, ← hmarker]
    exact hmarked.length_le
  exact ⟨hmarked, h.allowed, by omega, h.length_le⟩

/-- Three discounts that want one slug, one of which is named like the slug that another gets, and
two whose names have no letter or digit, beside one that is named like their slugs. -/
theorem slugs_distinct_and_valid_of_lookalikes :
    let settings : Settings :=
      ⟨⟨.variantSku, '_'⟩, .halfEven, "en", none, none, [], [], [], ⟨"line", "cart", "customer"⟩⟩
    let cart : Cart := ⟨"cart-1", none, none, ⟨"EUR", 0⟩, [], [], none⟩
    let item : SessionItem := ⟨"Mug", "mug", 1, .ofInt 5, []⟩
    let session : Session := ⟨"", .opened, [], none, [item, item, item], []⟩
    let off (name : String) : Effect := .setDiscount ⟨name, .ofInt 1⟩
    let effects : List Effect :=
      [off "10% off 2", off "10% OFF", off "10 off", .setDiscountPerItem ⟨"10 off", .ofInt 1, 2⟩,
        off "Effect 5!", off "夏季促销", off "ß"]
    let slugs := (settings.cartUpdate cart session effects).actions.filterMap Action.slug?
    (session.items.length < 2 ^ 64 ∧ effects.length < 2 ^ 31) ∧
      slugs = ["promotion-10-off-2", "promotion-10-off", "promotion-10-off-3",
        "promotion-10-off-2-2", "promotion-effect-5", "promotion-effect-5-2", "promotion-effect-6"] ∧
      slugs.Nodup ∧
      ∀ slug ∈ slugs,
        "promotion-".toList <+: slug.toList ∧
          (∀ c ∈ slug.toList, ('a' ≤ c ∧ c ≤ 'z') ∨ ('0' ≤ c ∧ c ≤ '9') ∨ c = '-') ∧
          2 ≤ slug.length ∧ slug.length ≤ 256 := by
  intro settings cart item session off effects slugs
  have hitems : session.items.length < 2 ^ 64 := by decide
  have heffects : effects.length < 2 ^ 31 := by decide
  have hslugs : slugs = ["promotion-10-off-2", "promotion-10-off", "promotion-10-off-3",
      "promotion-10-off-2-2", "promotion-effect-5", "promotion-effect-5-2",
      "promotion-effect-6"] := by
    decide +kernel
  exact ⟨⟨hitems, heffects⟩, hslugs, slugs_distinct_and_valid settings cart session effects hitems
    heffects⟩

end Settings

end Promotion
