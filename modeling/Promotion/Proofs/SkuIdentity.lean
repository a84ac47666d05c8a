import Promotion.Proofs.Numeral
import Promotion.Sku

/-!
# SKUs taken back to what they were made of

Where a SKU is made of a product and a variant, the separator is a character like any other: it may
be a digit, and a product's id may have it too. The SKU is therefore cut at the last separator, and
the two directions fail in different places. A line item comes back from its SKU exactly if the
separator is none of the variant's digits, or, without a variant, is not in the product's id
(`decode_encode_iff`). A SKU comes back from its identity exactly if it has no separator or its last
part is a numeral (`encode_decode_iff`).
-/

namespace Promotion

-- ---------------------------------------------------------------------------
-- The last mark
-- ---------------------------------------------------------------------------

namespace Text

theorem cutLast_eq_none_iff {mark : Char} {cs : List Char} :
    cutLast mark cs = none ↔ mark ∉ cs := by
  induction cs with
  | nil => simp [cutLast]
  | cons c cs ih =>
    rw [cutLast, List.mem_cons, not_or, ← ih]
    cases cutLast mark cs with
    | none => simp [eq_comm]
    | some parts => simp

/-- The part after the last mark has no mark. -/
theorem eq_append_of_cutLast {mark : Char} {cs before after : List Char}
    (h : cutLast mark cs = some (before, after)) :
    cs = before ++ mark :: after ∧ mark ∉ after := by
  induction cs generalizing before with
  | nil => cases h
  | cons c cs ih =>
    unfold cutLast at h
    cases hrest : cutLast mark cs with
    | some parts =>
      rw [hrest] at h
      cases h
      obtain ⟨rfl, hafter⟩ := ih hrest
      exact ⟨rfl, hafter⟩
    | none =>
      rw [hrest] at h
      obtain ⟨hc, h⟩ := Option.ite_none_right_eq_some.mp h
      cases h
      exact ⟨by rw [hc]; rfl, cutLast_eq_none_iff.mp hrest⟩

theorem cutLast_append_cons {mark : Char} {after : List Char} (h : mark ∉ after)
    (before : List Char) : cutLast mark (before ++ mark :: after) = some (before, after) := by
  induction before with
  | nil =>
    rw [List.nil_append, cutLast, cutLast_eq_none_iff.mpr h]
    simp
  | cons c before ih => rw [List.cons_append, cutLast, ih]

theorem exists_last_of_mem {mark : Char} {cs : List Char} (h : mark ∈ cs) :
    ∃ before after, cs = before ++ mark :: after ∧ mark ∉ after := by
  cases hcut : cutLast mark cs with
  | none => exact absurd h (cutLast_eq_none_iff.mp hcut)
  | some parts => exact ⟨_, _, eq_append_of_cutLast hcut⟩

/-- There is one part after the last mark only. -/
theorem exists_last_iff {mark : Char} {before after : List Char} {P : List Char → Prop}
    (h : mark ∉ after) :
    (∃ first last, before ++ mark :: after = first ++ mark :: last ∧ mark ∉ last ∧ P last) ↔
      P after := by
  constructor
  · rintro ⟨first, last, heq, hlast, hP⟩
    have hcut := cutLast_append_cons h before
    rw [heq, cutLast_append_cons hlast] at hcut
    cases hcut
    exact hP
  · intro hP
    exact ⟨before, after, rfl, h, hP⟩

end Text

-- ---------------------------------------------------------------------------
-- Decoding
-- ---------------------------------------------------------------------------

/-- The fields of a line item that an identity gives. -/
def Identity.reference : Identity → ItemReference
  | sku s => ⟨"", none, some s⟩
  | product id => ⟨id, none, none⟩
  | variant id variantId => ⟨id, some variantId, none⟩

namespace SkuResolver

variable {separator : Char} {sku : String} {before after : List Char}

theorem decode_of_decode? {r : SkuResolver} {identity : Identity}
    (h : r.decode? sku = .ok identity) : r.decode sku = identity := by
  simp only [decode, h]

theorem decode?_of_notMem (h : separator ∉ sku.toList) :
    decode? ⟨.productAndVariant, separator⟩ sku = .ok (.product sku) := by
  simp only [decode?, Text.cutLast_eq_none_iff.mpr h]

/-- A SKU with a number after its last separator. -/
theorem decode?_of_readNatural {id : Nat} (hsku : sku.toList = before ++ separator :: after)
    (hlast : separator ∉ after) (hid : Text.readNatural Text.maxNatural64 after = .ok id) :
    decode? ⟨.productAndVariant, separator⟩ sku = .ok (.variant (String.ofList before) id) := by
  simp only [decode?, hsku, Text.cutLast_append_cons hlast, hid]

/-- A SKU with anything else after its last separator. -/
theorem decode_of_readNatural_error {fault : Text.NumeralFault}
    (hsku : sku.toList = before ++ separator :: after) (hlast : separator ∉ after)
    (hfault : Text.readNatural Text.maxNatural64 after = .error fault) :
    decode ⟨.productAndVariant, separator⟩ sku = .product (String.ofList before) := by
  simp only [decode, decode?, hsku, Text.cutLast_append_cons hlast, hfault]

/-- The product is what stands before the last separator, whatever stands after it. -/
theorem decode_of_last (hsku : sku.toList = before ++ separator :: after)
    (hlast : separator ∉ after) :
    (∃ id, decode ⟨.productAndVariant, separator⟩ sku = .variant (String.ofList before) id) ∨
      decode ⟨.productAndVariant, separator⟩ sku = .product (String.ofList before) := by
  cases hread : Text.readNatural Text.maxNatural64 after with
  | ok id => exact .inl ⟨id, decode_of_decode? (decode?_of_readNatural hsku hlast hread)⟩
  | error fault => exact .inr (decode_of_readNatural_error hsku hlast hread)

-- ---------------------------------------------------------------------------
-- There and back
-- ---------------------------------------------------------------------------

/-- When a SKU stands for an identity: if only `P` makes it, and where `P` holds the SKU is read. -/
theorem decode_iff_of {r : SkuResolver} {identity : Identity} {P : Prop}
    (honly : r.decode sku = identity → P) (hread : P → r.decode? sku = .ok identity) :
    (r.decode sku = identity ↔ P) ∧ (r.decode? sku = .ok identity ↔ P) := by
  refine ⟨⟨honly, ?_⟩, ⟨?_, hread⟩⟩
  · intro hP
    exact decode_of_decode? (hread hP)
  · intro h
    exact honly (decode_of_decode? h)

/-- The SKU of a line item stands for that line item exactly if the separator is none of the digits
of its variant, or, for one without variant, is not in its product's id. Reading the SKU does not
fail then. -/
theorem decode_encode_iff (separator : Char) (productId : String) (sku : Option String) {id : Nat}
    (hid : id ≤ Text.maxNatural64) :
    let r : SkuResolver := ⟨.productAndVariant, separator⟩
    (∃ code, r.encode ⟨productId, some id, sku⟩ = some code ∧
      (r.decode code = .variant productId id ↔ separator ∉ Text.numeral id) ∧
      (r.decode? code = .ok (.variant productId id) ↔ separator ∉ Text.numeral id)) ∧
    ∃ code, r.encode ⟨productId, none, sku⟩ = some code ∧
      (r.decode code = .product productId ↔ separator ∉ productId.toList) ∧
      (r.decode? code = .ok (.product productId) ↔ separator ∉ productId.toList) := by
  intro r
  refine ⟨⟨_, rfl, decode_iff_of ?_ ?_⟩, ⟨_, rfl, decode_iff_of ?_ decode?_of_notMem⟩⟩
  · intro heq hmem
    -- the last separator is one of the digits, and all before it counts as the product's id
    obtain ⟨before, after, hdigits, hlast⟩ := Text.exists_last_of_mem hmem
    have hcode : (String.ofList (productId.toList ++ separator :: Text.numeral id)).toList =
        (productId.toList ++ separator :: before) ++ separator :: after := by
      simp [hdigits]
    rcases decode_of_last hcode hlast with ⟨other, hdecode⟩ | hdecode
    · have hlonger := hdecode.symm.trans heq
      simp [← String.toList_inj] at hlonger
    · cases hdecode.symm.trans heq
  · intro hnumeral
    have hcode : (String.ofList (productId.toList ++ separator :: Text.numeral id)).toList =
        productId.toList ++ separator :: Text.numeral id := String.toList_ofList
    have hread := decode?_of_readNatural hcode hnumeral (Text.readNatural_numeral hid)
    rwa [String.ofList_toList] at hread
  · intro heq hmem
    obtain ⟨before, after, hcut, hlast⟩ := Text.exists_last_of_mem hmem
    rcases decode_of_last hcut hlast with ⟨other, hdecode⟩ | hdecode
    · cases hdecode.symm.trans heq
    · have hshorter := hdecode.symm.trans heq
      simp [← String.toList_inj, hcut] at hshorter

/-- A separator that is a digit, and is in the product's id too: the variant 12 has no such digit,
and the product alone is cut in two. -/
theorem decode_encode_iff_digit_separator :
    let r : SkuResolver := ⟨.productAndVariant, '7'⟩
    12 ≤ Text.maxNatural64 ∧
      r.encode ⟨"shirt-77", some 12, none⟩ = some "shirt-77712" ∧
      r.decode "shirt-77712" = .variant "shirt-77" 12 ∧
      r.decode? "shirt-77712" = .ok (.variant "shirt-77" 12) ∧
      r.encode ⟨"shirt-77", none, none⟩ = some "shirt-77" ∧
      r.decode "shirt-77" ≠ .product "shirt-77" := by
  intro r
  have hid : 12 ≤ Text.maxNatural64 := by decide
  have hencoded : r.encode ⟨"shirt-77", some 12, none⟩ = some "shirt-77712" := by decide +kernel
  have hplain : r.encode ⟨"shirt-77", none, none⟩ = some "shirt-77" := rfl
  obtain ⟨⟨code, hcode, hdecode, hread⟩, plain, hsame, hproduct, -⟩ :=
    decode_encode_iff '7' "shirt-77" none hid
  cases hcode.symm.trans hencoded
  cases hsame.symm.trans hplain
  refine ⟨hid, hencoded, hdecode.mpr (by decide), hread.mpr (by decide), hplain, ?_⟩
  rw [Ne, hproduct]
  decide +kernel

/-- Of the SKUs that the engine may name, exactly those come back from their identity that have no
separator, or whose part after the last separator is the numeral of a number. -/
theorem encode_decode_iff (separator : Char) (sku : String) :
    let r : SkuResolver := ⟨.productAndVariant, separator⟩
    ∃ code, r.encode (r.decode sku).reference = some code ∧
      (code = sku ↔
        separator ∉ sku.toList ∨
          ∃ product variant, sku.toList = product ++ separator :: variant ∧ separator ∉ variant ∧
            Text.IsNumeral Text.maxNatural64 variant) := by
  intro r
  by_cases hmem : separator ∈ sku.toList
  · obtain ⟨before, after, hsku, hlast⟩ := Text.exists_last_of_mem hmem
    rw [or_iff_right (not_not_intro hmem)]
    simp only [hsku, Text.exists_last_iff hlast, ← String.toList_inj]
    cases hread : Text.readNatural Text.maxNatural64 after with
    | ok id =>
      have hdecode : r.decode sku = .variant (String.ofList before) id :=
        decode_of_decode? (decode?_of_readNatural hsku hlast hread)
      rw [hdecode]
      refine ⟨_, rfl, ?_⟩
      rw [← Text.numeral_eq_iff_of_readNatural hread]
      simp [Identity.reference, r]
    | error fault =>
      have hdecode : r.decode sku = .product (String.ofList before) :=
        decode_of_readNatural_error hsku hlast hread
      rw [hdecode]
      refine ⟨_, rfl, iff_of_false ?_ ?_⟩
      · simp [Identity.reference]
      · intro hnumeral
        obtain ⟨id, hid, rfl⟩ := Text.isNumeral_iff.mp hnumeral
        rw [Text.readNatural_numeral hid] at hread
        cases hread
  · have hdecode : r.decode sku = .product sku := decode_of_decode? (decode?_of_notMem hmem)
    rw [hdecode]
    exact ⟨sku, rfl, iff_of_true rfl (.inl hmem)⟩

end SkuResolver

end Promotion
