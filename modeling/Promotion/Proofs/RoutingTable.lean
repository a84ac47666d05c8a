import Promotion.Engine.Routing
import Promotion.Proofs.Dict
import Promotion.Proofs.UpperCase

/-!
# Routing tables

A table of credentials is normalized, checked and then looked up in. Normalizing trims codes and
brings them to capitals, checking looks the fallback up as it stands, and routing brings the
currency that is asked for to capitals and leaves the blanks around it. The three agree because
upper case is final: a code that was normalized is found by its own text, so that every currency of
the table is served by its own credentials, and all others by those of the fallback
(`Routing.resolve_of_validate`).
-/

namespace Promotion

-- ---------------------------------------------------------------------------
-- Normalizing and checking
-- ---------------------------------------------------------------------------

namespace EngineConfig

variable {config : EngineConfig}

/-- A normalized code is asked for as it stands. -/
theorem upper_currencyCode (key : String) : Text.upper (currencyCode key) = currencyCode key :=
  Text.upper_upper (Text.trim key)

/-- Of the entries that are normalized to one code the last one counts. -/
theorem get?_normalized (config : EngineConfig) (code : String) :
    config.normalized.credentials.get? code =
      (config.credentials.filter (currencyCode ·.1 = code)).getLast?.map (·.2) := by
  simp only [normalized, Dict.get?_ofList, List.filter_map, List.getLast?_map, Option.map_map,
    Function.comp_def]

theorem mem_keys_normalized {code : String} :
    code ∈ config.normalized.credentials.keys ↔
      ∃ key ∈ config.credentials.keys, currencyCode key = code := by
  have hkey : code ∉ config.normalized.credentials.keys ↔
      ∀ entry ∈ config.credentials, ¬currencyCode entry.1 = code := by
    rw [← Dict.get?_eq_none_iff, get?_normalized]
    simp
  rw [← Decidable.not_iff_not, hkey]
  simp [Dict.keys]

theorem blankEntry?_eq_none_iff :
    config.blankEntry? = none ↔ ∀ entry ∈ config.credentials,
      ¬Text.isBlankText entry.2.apiKey ∧ ¬Text.isBlankText entry.2.basePath := by
  unfold blankEntry?
  rw [List.findSome?_eq_none_iff]
  refine forall₂_congr fun (currency, c) _ => ?_
  by_cases hkey : Text.isBlankText c.apiKey
  · simp [hkey]
  · by_cases hpath : Text.isBlankText c.basePath <;> simp [hkey, hpath]

/-- What is checked: that no credentials are blank, and that the fallback has some. -/
theorem validate_eq_ok_iff :
    config.validate = .ok () ↔
      (∀ entry ∈ config.credentials,
        ¬Text.isBlankText entry.2.apiKey ∧ ¬Text.isBlankText entry.2.basePath) ∧
      ∀ fallback, config.fallbackCurrency = some fallback →
        ∃ c, config.credentials.get? fallback = some c := by
  rw [← blankEntry?_eq_none_iff, validate]
  cases config.blankEntry? with
  | some error => simp
  | none =>
    cases config.fallbackCurrency with
    | none => simp
    | some fallback =>
      cases hfound : config.credentials.get? fallback <;> simp [Dict.contains, hfound]

end EngineConfig

-- ---------------------------------------------------------------------------
-- Routing
-- ---------------------------------------------------------------------------

/-- The credentials that an entry of the table gives a currency. -/
def CredentialsConfig.belongingTo (c : CredentialsConfig) (currency : String) : Credentials :=
  ⟨currency, c.apiKey, c.basePath⟩

namespace EngineConfig

variable {config : EngineConfig} {currency : String}

/-- The entry of the table for a key, with the key. -/
def listed? (config : EngineConfig) (key : String) : Option (String × CredentialsConfig) :=
  (config.credentials.get? key).map (key, ·)

/-- The entry that a currency is served by: its own one, or else that of the fallback. -/
def server? (config : EngineConfig) (currency : String) : Option (String × CredentialsConfig) :=
  (config.listed? (Text.upper currency)).or (config.fallbackCurrency.bind config.listed?)

theorem listed?_eq_some_iff {key : String} {entry : String × CredentialsConfig} :
    config.listed? key = some entry ↔
      config.credentials.get? key = some entry.2 ∧ key = entry.1 := by
  rw [listed?, Option.map_eq_some_iff]
  constructor
  · rintro ⟨c, hc, rfl⟩
    exact ⟨hc, rfl⟩
  · rintro ⟨hc, rfl⟩
    exact ⟨entry.2, hc, rfl⟩

theorem server?_of_own {c : CredentialsConfig}
    (hown : config.credentials.get? (Text.upper currency) = some c) :
    config.server? currency = some (Text.upper currency, c) := by
  rw [server?, listed?, hown]
  rfl

theorem server?_of_not_own (hown : Text.upper currency ∉ config.credentials.keys) :
    config.server? currency = config.fallbackCurrency.bind config.listed? := by
  rw [server?, listed?, Dict.get?_eq_none_iff.mpr hown]
  rfl

theorem get?_of_server? {entry : String × CredentialsConfig}
    (h : config.server? currency = some entry) :
    config.credentials.get? entry.1 = some entry.2 := by
  rcases Option.or_eq_some_iff.mp h with hown | ⟨-, hfallback⟩
  · obtain ⟨hfound, hkey⟩ := listed?_eq_some_iff.mp hown
    exact hkey ▸ hfound
  · obtain ⟨fallback, -, hentry⟩ := Option.bind_eq_some_iff.mp hfallback
    obtain ⟨hfound, hkey⟩ := listed?_eq_some_iff.mp hentry
    exact hkey ▸ hfound

end EngineConfig

namespace Routing

variable {config : EngineConfig} {currency : String}

theorem currencies_ofConfig (config : EngineConfig) :
    (ofConfig config).currencies = config.credentials.keys :=
  List.map_map

theorem get?_credentials_ofConfig (config : EngineConfig) (key : String) :
    (ofConfig config).credentials.get? key =
      (config.credentials.get? key).map (·.belongingTo key) :=
  Dict.get?_map (fun key c => CredentialsConfig.belongingTo c key) config.credentials key

/-- A currency gets the credentials of the entry that serves it. -/
theorem resolve_ofConfig (config : EngineConfig) (currency : String) :
    (ofConfig config).resolve currency =
      match config.server? currency with
      | some (key, c) => .ok (c.belongingTo key)
      | none => .error (.unrouted (Text.upper currency)) := by
  have hfallback : (ofConfig config).fallback = config.fallbackCurrency := rfl
  simp only [resolve, EngineConfig.server?, EngineConfig.listed?, get?_credentials_ofConfig,
    hfallback]
  cases config.credentials.get? (Text.upper currency) with
  | some c => rfl
  | none =>
    cases config.fallbackCurrency with
    | none => rfl
    | some fallback =>
      cases hfound : config.credentials.get? fallback <;> simp [EngineConfig.listed?, hfound]

theorem resolve_ofConfig_eq_ok_iff {credentials : Credentials} :
    (ofConfig config).resolve currency = .ok credentials ↔
      ∃ entry, config.server? currency = some entry ∧
        credentials = entry.2.belongingTo entry.1 := by
  rw [resolve_ofConfig]
  cases config.server? currency with
  | none => simp
  | some entry => simp [eq_comm]

/-- Where the fallback has an entry, it serves every currency without one. -/
theorem resolve_of_fallback {fallback : String} {c : CredentialsConfig}
    (hown : Text.upper currency ∉ config.credentials.keys)
    (hfallback : config.fallbackCurrency = some fallback)
    (hfound : config.credentials.get? fallback = some c) :
    (ofConfig config).resolve currency = .ok (c.belongingTo fallback) := by
  have hserver : config.server? currency = some (fallback, c) := by
    rw [EngineConfig.server?_of_not_own hown, hfallback]
    exact EngineConfig.listed?_eq_some_iff.mpr ⟨hfound, rfl⟩
  exact resolve_ofConfig_eq_ok_iff.mpr ⟨_, hserver, rfl⟩

theorem resolve_of_no_fallback (hown : Text.upper currency ∉ config.credentials.keys)
    (hnone : config.fallbackCurrency = none) :
    (ofConfig config).resolve currency = .error (.unrouted (Text.upper currency)) := by
  rw [resolve_ofConfig, EngineConfig.server?_of_not_own hown, hnone]
  rfl

/-- After normalizing, the code of every entry is served by the last entry with this code. -/
theorem resolve_normalized {key : String} (hkey : key ∈ config.credentials.keys) :
    ∃ entry, (config.credentials.filter
        (EngineConfig.currencyCode ·.1 = EngineConfig.currencyCode key)).getLast? = some entry ∧
      (ofConfig config.normalized).resolve (EngineConfig.currencyCode key) =
        .ok (entry.2.belongingTo (EngineConfig.currencyCode key)) := by
  have hlisted : EngineConfig.currencyCode key ∈ config.normalized.credentials.keys :=
    EngineConfig.mem_keys_normalized.mpr ⟨key, hkey, rfl⟩
  have hfound := EngineConfig.get?_normalized config (EngineConfig.currencyCode key)
  cases hlast : (config.credentials.filter
      (EngineConfig.currencyCode ·.1 = EngineConfig.currencyCode key)).getLast? with
  | none =>
    rw [hlast] at hfound
    exact absurd hlisted (Dict.get?_eq_none_iff.mp hfound)
  | some entry =>
    -- the code is in capitals, so that asking for it is looking it up
    rw [hlast, ← EngineConfig.upper_currencyCode key] at hfound
    have hserver := EngineConfig.server?_of_own hfound
    rw [EngineConfig.upper_currencyCode key] at hserver
    exact ⟨entry, rfl, resolve_ofConfig_eq_ok_iff.mpr ⟨_, hserver, rfl⟩⟩

/-- A table that passes the check routes as it says. A currency is served by its own credentials, or
else by those of the fallback, which is then sure to have some; without a fallback it is not served.
No credentials that are given are blank. And where the table was normalized before, every currency
that is listed is served by its own credentials, those of the last entry whose code it is, in
whatever letters and between whatever blanks the entry and the fallback were written. -/
theorem resolve_of_validate (config : EngineConfig) :
    (config.validate = .ok () → ∀ currency,
      let code := Text.upper currency
      let resolved := (ofConfig config).resolve currency
      (∀ c, config.credentials.get? code = some c → resolved = .ok (c.belongingTo code)) ∧
      (code ∉ config.credentials.keys → ∀ fallback, config.fallbackCurrency = some fallback →
        ∃ c, config.credentials.get? fallback = some c ∧
          resolved = .ok (c.belongingTo fallback)) ∧
      (code ∉ config.credentials.keys → config.fallbackCurrency = none →
        resolved = .error (.unrouted code)) ∧
      ∀ credentials, resolved = .ok credentials →
        ¬Text.isBlankText credentials.apiKey ∧ ¬Text.isBlankText credentials.basePath) ∧
    let normalized := ofConfig config.normalized
    (∀ key ∈ config.credentials.keys, EngineConfig.currencyCode key ∈ normalized.currencies) ∧
      ∀ currency ∈ normalized.currencies, ∃ entry,
        (config.credentials.filter (EngineConfig.currencyCode ·.1 = currency)).getLast? =
            some entry ∧
          normalized.resolve currency = .ok (entry.2.belongingTo currency) := by
  refine ⟨?_, ?_⟩
  · intro hvalid currency code resolved
    obtain ⟨hfilled, hserved⟩ := EngineConfig.validate_eq_ok_iff.mp hvalid
    refine ⟨?_, ?_, fun hown hnone => resolve_of_no_fallback hown hnone, ?_⟩
    · intro c hown
      exact resolve_ofConfig_eq_ok_iff.mpr ⟨_, EngineConfig.server?_of_own hown, rfl⟩
    · intro hown fallback hfallback
      obtain ⟨c, hc⟩ := hserved fallback hfallback
      exact ⟨c, hc, resolve_of_fallback hown hfallback hc⟩
    · intro credentials hresolved
      obtain ⟨entry, hserver, rfl⟩ := resolve_ofConfig_eq_ok_iff.mp hresolved
      exact hfilled entry (Dict.mem_of_get? (EngineConfig.get?_of_server? hserver))
  · intro normalized
    have hlisted : ∀ currency, currency ∈ normalized.currencies ↔
        ∃ key ∈ config.credentials.keys, EngineConfig.currencyCode key = currency := by
      intro currency
      rw [currencies_ofConfig, EngineConfig.mem_keys_normalized]
    refine ⟨fun key hkey => (hlisted _).mpr ⟨key, hkey, rfl⟩, ?_⟩
    intro currency hcurrency
    obtain ⟨key, hkey, rfl⟩ := (hlisted currency).mp hcurrency
    exact resolve_normalized hkey

/-- Two entries and a fallback in mixed letters and between blanks, normalized before the check. -/
theorem resolve_of_validate_of_mixed_letters :
    let config : EngineConfig :=
      { credentials := [("  eur", ⟨"key-1", "https://one.test"⟩),
          ("Usd ", ⟨"key-2", "https://two.test"⟩)]
        fallbackCurrency := some "eUr " }
    let normalized := ofConfig config.normalized
    config.normalized.validate = .ok () ∧
      normalized.resolve "gbp" = .ok ⟨"EUR", "key-1", "https://one.test"⟩ ∧
      ∀ currency ∈ normalized.currencies, ∃ entry ∈ config.credentials,
        normalized.resolve currency = .ok (entry.2.belongingTo currency) := by
  intro config normalized
  have hvalid : config.normalized.validate = .ok () := by decide
  obtain ⟨-, hfallback, -⟩ := (resolve_of_validate config.normalized).1 hvalid "gbp"
  obtain ⟨c, hc, hresolve⟩ := hfallback (by decide) "EUR" (by decide)
  have heq : some c = some ⟨"key-1", "https://one.test"⟩ := hc.symm.trans (by decide)
  obtain ⟨-, -, hlisted⟩ := resolve_of_validate config
  refine ⟨hvalid, ?_, ?_⟩
  · cases heq
    exact hresolve
  · intro currency hcurrency
    obtain ⟨entry, hentry, hown⟩ := hlisted currency hcurrency
    exact ⟨entry, List.mem_of_mem_filter (List.mem_of_getLast? hentry), hown⟩

end Routing

end Promotion
