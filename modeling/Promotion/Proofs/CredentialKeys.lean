import Promotion.Proofs.ByteOrder
import Promotion.Proofs.RoutingTable
import Promotion.Proofs.Spellings

/-!
# Keys of credentials that become one

Keys that are normalized to one code are merged: the credentials of the key that comes last in the
order of bytes stay, and those of the others are gone (`EngineConfig.merged_credentials`). A key in
small letters comes after every other spelling of it, so that its credentials are the ones that
stay.
-/

namespace Promotion

namespace EngineConfig

variable {config : EngineConfig} {code key other : String}

/-- Of the keys that are normalized to a code, the greatest in the order of bytes. -/
structure IsLastSpelling (config : EngineConfig) (code key : String) : Prop where
  listed : key ∈ config.credentials.keys
  code_eq : currencyCode key = code
  greatest : ∀ other ∈ config.credentials.keys, currencyCode other = code →
    Text.bytes other ≤ Text.bytes key

theorem IsLastSpelling.unique (h : config.IsLastSpelling code key)
    (h' : config.IsLastSpelling code other) : key = other :=
  String.le_antisymm
    (Text.bytes_le_bytes_iff.mp (h'.greatest key h.listed h.code_eq))
    (Text.bytes_le_bytes_iff.mp (h.greatest other h'.listed h'.code_eq))

/-- A code keeps the credentials of its last spelling. -/
theorem exists_isLastSpelling (hsorted : config.credentials.Sorted)
    (hcode : code ∈ config.normalized.credentials.keys) :
    ∃ key c, config.IsLastSpelling code key ∧ config.credentials.get? key = some c ∧
      config.normalized.credentials.get? code = some c := by
  obtain ⟨c, hfound⟩ := Dict.exists_get?_of_mem_keys hcode
  have hlast := hfound
  rw [get?_normalized, Option.map_eq_some_iff] at hlast
  obtain ⟨⟨key, c'⟩, hlast, rfl⟩ := hlast
  obtain ⟨hmem, hkey⟩ := List.mem_filter.mp (List.mem_of_getLast? hlast)
  refine ⟨key, c', ⟨List.mem_map_of_mem hmem, by simpa using hkey, ?_⟩,
    hsorted.mem_iff_get?.mp hmem, hfound⟩
  intro other hother hcode
  obtain ⟨entry, hentry, rfl⟩ := List.mem_map.mp hother
  exact Text.bytes_le_bytes_iff.mpr
    (hsorted.le_of_getLast?_filter hlast entry hentry (decide_eq_true hcode))

theorem IsLastSpelling.get?_normalized (h : config.IsLastSpelling code key)
    (hsorted : config.credentials.Sorted) :
    config.normalized.credentials.get? code = config.credentials.get? key := by
  have hcode : code ∈ config.normalized.credentials.keys :=
    mem_keys_normalized.mpr ⟨key, h.listed, h.code_eq⟩
  obtain ⟨last, c, hlast, hc, hfound⟩ := exists_isLastSpelling hsorted hcode
  rw [h.unique hlast, hc, hfound]

theorem currencyCode_eq_of_sameLetters (h : Text.SameLetters key other) :
    currencyCode other = currencyCode key :=
  Text.upper_eq_of_sameLetters h.trim

/-- A spelling with capitals is replaced by the one in small letters. -/
theorem not_isLastSpelling_of_sameLetters (hkey : key ∈ config.credentials.keys)
    (hsmall : Text.InSmallLetters key) (hsame : Text.SameLetters key other) (hne : other ≠ key) :
    ¬config.IsLastSpelling code other := by
  intro hlast
  have hcode : currencyCode key = code :=
    (currencyCode_eq_of_sameLetters hsame).symm.trans hlast.code_eq
  have hle := Text.bytes_le_bytes_iff.mp (hlast.greatest key hkey hcode)
  exact String.not_lt.mpr hle ((hsame.eq_or_lt hsmall).resolve_left hne)

theorem isLastSpelling_of_inSmallLetters (hkey : key ∈ config.credentials.keys)
    (hsmall : Text.InSmallLetters key)
    (hall : ∀ other ∈ config.credentials.keys,
      currencyCode other = currencyCode key → Text.SameLetters key other) :
    config.IsLastSpelling (currencyCode key) key := by
  refine ⟨hkey, rfl, fun other hother hcode => Text.bytes_le_bytes_iff.mpr ?_⟩
  rcases (hall other hother hcode).eq_or_lt hsmall with rfl | hlt
  · exact String.le_refl _
  · exact String.not_lt.mp (String.lt_asymm hlt)

theorem fallbackCurrency_normalized (config : EngineConfig) :
    config.normalized.fallbackCurrency = config.fallbackCurrency.bind fun fallback =>
      if Text.isBlankText fallback then none else some (currencyCode fallback) := by
  cases hfallback : config.fallbackCurrency with
  | none => simp [normalized, hfallback]
  | some fallback =>
    have hblank : currencyCode fallback = "" ↔ Text.isBlankText fallback :=
      Text.upper_eq_empty_iff.trans Text.trim_eq_empty_iff
    by_cases h : Text.isBlankText fallback
    · simp [normalized, hfallback, hblank.mpr h, h]
    · simp [normalized, hfallback, Option.filter, mt hblank.mp h, h]

/-- The codes of normalized credentials are the trimmed keys in capitals, and each has the
credentials of the last key in the order of bytes that is brought to it. Of the spellings of one key
that differ only in the case of ASCII letters the one in small letters replaces all others: none of
these is the last, and where no other keys are brought to its code its credentials are kept. A
fallback is trimmed and in capitals too, and none if it is blank. -/
theorem merged_credentials (config : EngineConfig) (hsorted : config.credentials.Sorted) :
    let normalized := config.normalized
    (∀ code, code ∈ normalized.credentials.keys ↔
        ∃ key ∈ config.credentials.keys, currencyCode key = code) ∧
      (∀ code ∈ normalized.credentials.keys, ∃ key c, config.IsLastSpelling code key ∧
        config.credentials.get? key = some c ∧ normalized.credentials.get? code = some c) ∧
      (∀ key ∈ config.credentials.keys, Text.InSmallLetters key →
        (∀ other, Text.SameLetters key other →
          currencyCode other = currencyCode key ∧
            (other ≠ key → ¬config.IsLastSpelling (currencyCode key) other)) ∧
        ((∀ other ∈ config.credentials.keys,
            currencyCode other = currencyCode key → Text.SameLetters key other) →
          normalized.credentials.get? (currencyCode key) = config.credentials.get? key)) ∧
      normalized.fallbackCurrency = config.fallbackCurrency.bind fun fallback =>
        if Text.isBlankText fallback then none else some (currencyCode fallback) := by
  intro normalized
  refine ⟨fun code => mem_keys_normalized, fun code hcode => exists_isLastSpelling hsorted hcode,
    fun key hkey hsmall => ⟨fun other hsame => ?_, fun hall => ?_⟩,
    fallbackCurrency_normalized config⟩
  · exact ⟨currencyCode_eq_of_sameLetters hsame,
      not_isLastSpelling_of_sameLetters hkey hsmall hsame⟩
  · exact (isLastSpelling_of_inSmallLetters hkey hsmall hall).get?_normalized hsorted

/-- Credentials of a file under `EUR` and of a variable under `eur`, beside a dotless letter that
becomes a capital `I`. -/
theorem merged_credentials_of_variable :
    let config : EngineConfig :=
      { credentials :=
          [("EUR", ⟨"file", "https://one.test"⟩), ("eur", ⟨"variable", "https://two.test"⟩),
            ("inr", ⟨"third", "https://three.test"⟩), ("ınr", ⟨"fourth", "https://four.test"⟩)]
        fallbackCurrency := some " " }
    let normalized := config.normalized
    config.credentials.Sorted ∧
      normalized.credentials.get? "EUR" = some ⟨"variable", "https://two.test"⟩ ∧
      (∃ key, config.IsLastSpelling "INR" key ∧
        config.credentials.get? key = normalized.credentials.get? "INR") ∧
      normalized.fallbackCurrency = none := by
  intro config normalized
  have hsorted : config.credentials.Sorted := by
    unfold Dict.Sorted
    decide
  obtain ⟨hkeys, hlast, hspellings, hfallback⟩ := merged_credentials config hsorted
  obtain ⟨-, heur⟩ := hspellings "eur" (by decide) (by decide)
  have hlisted : "inr" ∈ config.credentials.keys := by decide
  have hcode : currencyCode "inr" = "INR" := by decide
  obtain ⟨key, c, hkey, hc, hfound⟩ := hlast "INR" ((hkeys "INR").mpr ⟨"inr", hlisted, hcode⟩)
  refine ⟨hsorted, ?_, ⟨key, hkey, hc.trans hfound.symm⟩, hfallback⟩
  exact heur (by decide)

end EngineConfig

end Promotion
