import Promotion.Proofs.Interleaving
import Promotion.Proofs.RoutingTable

/-!
# Credentials that calls share

A new cart has a session in every currency of the table and in its own. Each currency is called
with the credentials of the entry that serves it, so that two calls use the same credentials exactly
where one entry serves both currencies. In a table of capitals there is one such pair at most: a
cart's currency without credentials is served by the fallback's, which serve the fallback as well
(`Processor.credentials_of_new_cart`).
-/

namespace Promotion

-- ---------------------------------------------------------------------------
-- The entries that serve currencies
-- ---------------------------------------------------------------------------

theorem CredentialsConfig.belongingTo_inj {entry other : String × CredentialsConfig} :
    entry.2.belongingTo entry.1 = other.2.belongingTo other.1 ↔ entry = other := by
  obtain ⟨key, apiKey, basePath⟩ := entry
  obtain ⟨otherKey, otherApiKey, otherBasePath⟩ := other
  simp [belongingTo]

namespace EngineConfig

variable {config : EngineConfig} {own one other : String}

/-- The codes of a table are in capitals, as normalizing leaves them. -/
def InCapitals (config : EngineConfig) : Prop :=
  ∀ key ∈ config.credentials.keys, Text.upper key = key

theorem inCapitals_normalized (config : EngineConfig) : config.normalized.InCapitals := by
  intro key hkey
  obtain ⟨written, -, rfl⟩ := mem_keys_normalized.mp hkey
  exact upper_currencyCode written

/-- The currencies are `own`, which has no credentials, and the fallback, whose credentials serve
both. -/
def ServedByFallback (config : EngineConfig) (own one other : String) : Prop :=
  own ∉ config.credentials.keys ∧ ∃ fallback ∈ config.credentials.keys,
    config.fallbackCurrency = some fallback ∧
      (one = own ∧ other = fallback ∨ one = fallback ∧ other = own)

/-- In a table of capitals a currency of the table is served by its own entry. -/
theorem InCapitals.server?_of_mem_keys (h : config.InCapitals) {key : String}
    (hkey : key ∈ config.credentials.keys) : ∃ c, config.server? key = some (key, c) := by
  obtain ⟨c, hc⟩ := Dict.exists_get?_of_mem_keys hkey
  rw [← h key hkey] at hc
  have hserver := server?_of_own hc
  rw [h key hkey] at hserver
  exact ⟨c, hserver⟩

/-- The entry that serves a currency has its key, unless it is the fallback's and the currency has
none. -/
theorem InCapitals.key_of_server? (h : config.InCapitals) (hown : Text.upper own = own)
    {currency : String} (hcurrency : currency = own ∨ currency ∈ config.credentials.keys)
    {entry : String × CredentialsConfig} (hserver : config.server? currency = some entry) :
    entry.1 = currency ∨ (currency = own ∧ own ∉ config.credentials.keys ∧
      config.fallbackCurrency = some entry.1) := by
  by_cases hkey : currency ∈ config.credentials.keys
  · obtain ⟨c, hc⟩ := h.server?_of_mem_keys hkey
    cases hserver.symm.trans hc
    exact .inl rfl
  · obtain rfl := hcurrency.resolve_right hkey
    have hunlisted : Text.upper currency ∉ config.credentials.keys := by rwa [hown]
    rw [server?_of_not_own hunlisted] at hserver
    obtain ⟨fallback, hfallback, hentry⟩ := Option.bind_eq_some_iff.mp hserver
    obtain ⟨-, hfound⟩ := listed?_eq_some_iff.mp hentry
    exact .inr ⟨rfl, hkey, hfound ▸ hfallback⟩

theorem InCapitals.servedByFallback_of_server?_eq (h : config.InCapitals)
    (hown : Text.upper own = own) (hone : one = own ∨ one ∈ config.credentials.keys)
    (hother : other = own ∨ other ∈ config.credentials.keys) (hne : one ≠ other)
    {entry : String × CredentialsConfig} (hserver : config.server? one = some entry)
    (hsame : config.server? other = some entry) : config.ServedByFallback own one other := by
  have hlisted : entry.1 ∈ config.credentials.keys :=
    List.mem_map_of_mem (Dict.mem_of_get? (get?_of_server? hserver))
  rcases h.key_of_server? hown hone hserver with hkey | ⟨rfl, hunserved, hfallback⟩
  · rcases h.key_of_server? hown hother hsame with hsameKey | ⟨rfl, hunserved, hfallback⟩
    · exact absurd (hkey.symm.trans hsameKey) hne
    · exact ⟨hunserved, entry.1, hlisted, hfallback, .inr ⟨hkey.symm, rfl⟩⟩
  · rcases h.key_of_server? hown hother hsame with hsameKey | ⟨rfl, -, -⟩
    · exact ⟨hunserved, entry.1, hlisted, hfallback, .inl ⟨rfl, hsameKey.symm⟩⟩
    · exact absurd rfl hne

/-- The fallback serves itself and a currency without credentials. -/
theorem InCapitals.server?_of_servedByFallback (h : config.InCapitals)
    (hown : Text.upper own = own) (hserved : config.ServedByFallback own one other) :
    ∃ entry, config.server? one = some entry ∧ config.server? other = some entry := by
  obtain ⟨hunserved, fallback, hlisted, hfallback, hpair⟩ := hserved
  obtain ⟨c, hc⟩ := h.server?_of_mem_keys hlisted
  have hunlisted : Text.upper own ∉ config.credentials.keys := by rwa [hown]
  have hserver : config.server? own = some (fallback, c) := by
    rw [server?_of_not_own hunlisted, hfallback]
    exact listed?_eq_some_iff.mpr ⟨get?_of_server? hc, rfl⟩
  rcases hpair with ⟨rfl, rfl⟩ | ⟨rfl, rfl⟩
  · exact ⟨_, hserver, hc⟩
  · exact ⟨_, hc, hserver⟩

end EngineConfig

-- ---------------------------------------------------------------------------
-- The attempts of a run
-- ---------------------------------------------------------------------------

/-- An attempt is one of those that a run starts with, or made again after one of them. -/
theorem Timeline.exists_first_of_mem_exchanges {σ : Type} {engine : Engine σ}
    {policy : RetryPolicy} {state : σ} {queue : List Attempt} {made : Attempt × Answer}
    (h : made ∈ Timeline.exchanges engine policy state queue) :
    ∃ first ∈ queue, first.index = made.1.index ∧ first.call = made.1.call := by
  induction state, queue using Timeline.run_induction engine policy with
  | nil state =>
    rw [exchanges_nil] at h
    cases h
  | again state attempt queue next hagain ih =>
    rw [exchanges_cons_again queue hagain] at h
    rcases List.mem_cons.mp h with rfl | hlater
    · exact ⟨attempt, List.mem_cons_self, rfl, rfl⟩
    · obtain ⟨first, hfirst, hsame⟩ := ih hlater
      rcases List.mem_cons.mp ((enqueue_perm next queue).mem_iff.mp hfirst) with rfl | hqueue
      · obtain ⟨-, hindex, hcall, -⟩ := again?_eq_some hagain
        exact ⟨attempt, List.mem_cons_self, hindex.symm.trans hsame.1, hcall.symm.trans hsame.2⟩
      · exact ⟨first, List.mem_cons_of_mem _ hqueue, hsame⟩
  | done state attempt queue hdone ih =>
    rw [exchanges_cons_done queue hdone] at h
    rcases List.mem_cons.mp h with rfl | hlater
    · exact ⟨attempt, List.mem_cons_self, rfl, rfl⟩
    · obtain ⟨first, hfirst, hsame⟩ := ih hlater
      exact ⟨first, List.mem_cons_of_mem _ hfirst, hsame⟩

-- ---------------------------------------------------------------------------
-- The calls of a new cart
-- ---------------------------------------------------------------------------

/-- Credentials of one account of the engine, be it for one currency or for two. -/
def Credentials.SameAccount (one other : Credentials) : Prop :=
  one.apiKey = other.apiKey ∧ one.basePath = other.basePath

theorem Routing.mem_currenciesWith {config : EngineConfig} {own currency : String} :
    currency ∈ (ofConfig config).currenciesWith own ↔
      currency = own ∨ currency ∈ config.credentials.keys := by
  have hkeys : ((ofConfig config).credentials.mapValues fun _ => ()).keys =
      config.credentials.keys := by
    rw [← currencies_ofConfig]
    exact List.map_map
  rw [currenciesWith, Dict.mem_keys_insert, hkeys]

namespace Processor

variable {σ : Type} {engine : Engine σ} {state : σ} {processor : Processor} {config : EngineConfig}
  {task : Task} {cart : Cart}

/-- A call uses the credentials of the entry that serves its currency. -/
theorem mem_calls_of_routing (hrouting : processor.routing = .ofConfig config) {currency : String}
    {call : Call} :
    (currency, call) ∈ calls (processor.requests task) ↔
      currency ∈ processor.currencies task ∧
        ∃ entry, config.server? currency = some entry ∧
          call = ⟨entry.2.belongingTo entry.1, (processor.message task).1,
            (processor.message task).2⟩ := by
  rw [mem_calls, request, hrouting, Routing.resolve_ofConfig]
  refine and_congr_right fun _ => ?_
  cases config.server? currency with
  | none => simp [Except.map]
  | some entry => simp [Except.map, eq_comm]

/-- An attempt is one at the call of its currency. -/
theorem mem_calls_of_mem_exchanges {attempt : Exchange}
    (h : attempt ∈ processor.exchanges engine state task) :
    (attempt.currency, attempt.call) ∈ calls (processor.requests task) := by
  obtain ⟨made, hmade, hattempt⟩ := List.mem_filterMap.mp h
  obtain ⟨⟨currency, call⟩, hcall, rfl⟩ := Option.map_eq_some_iff.mp hattempt
  obtain ⟨first, hfirst, hindex, hsame⟩ := Timeline.exists_first_of_mem_exchanges hmade
  obtain ⟨⟨started, place⟩, hstarted, rfl⟩ := List.mem_map.mp hfirst
  obtain rfl : place = made.1.index := hindex
  obtain rfl : started = made.1.call := hsame
  have hplace := List.mk_mem_zipIdx_iff_getElem?.mp hstarted
  rw [List.getElem?_map, hcall] at hplace
  obtain rfl : call = made.1.call := Option.some.inj hplace
  exact List.mem_of_getElem? hcall

/-- Of two calls for a task each uses the credentials of the entry that serves its currency. -/
theorem credentials_eq_iff (hrouting : processor.routing = .ofConfig config)
    {one other : String × Call} (hone : one ∈ calls (processor.requests task))
    (hother : other ∈ calls (processor.requests task)) :
    one.2.credentials = other.2.credentials ↔ config.server? one.1 = config.server? other.1 := by
  obtain ⟨-, entry, hserver, hcall⟩ := (mem_calls_of_routing hrouting).mp hone
  obtain ⟨-, otherEntry, hotherServer, hotherCall⟩ := (mem_calls_of_routing hrouting).mp hother
  rw [hcall, hotherCall, hserver, hotherServer, Option.some.injEq]
  exact CredentialsConfig.belongingTo_inj

/-- Calls at one account use the same credentials, if no account is configured twice. -/
theorem credentials_eq_of_sameAccount (hrouting : processor.routing = .ofConfig config)
    (haccounts : (config.credentials.map (·.2)).Nodup)
    {one other : String × Call} (hone : one ∈ calls (processor.requests task))
    (hother : other ∈ calls (processor.requests task))
    (hsame : one.2.credentials.SameAccount other.2.credentials) :
    one.2.credentials = other.2.credentials := by
  obtain ⟨-, ⟨key, c⟩, hserver, hcall⟩ := (mem_calls_of_routing hrouting).mp hone
  obtain ⟨-, ⟨otherKey, otherC⟩, hotherServer, hotherCall⟩ :=
    (mem_calls_of_routing hrouting).mp hother
  rw [hcall, hotherCall] at hsame ⊢
  have hentry := Dict.mem_of_get? (EngineConfig.get?_of_server? hserver)
  have hotherEntry := Dict.mem_of_get? (EngineConfig.get?_of_server? hotherServer)
  obtain ⟨hkey, hpath⟩ := hsame
  have hc : c = otherC := by
    cases c
    cases otherC
    cases hkey
    cases hpath
    rfl
  cases List.inj_on_of_nodup_map haccounts hentry hotherEntry hc
  rfl

theorem mem_currencies_create (hrouting : processor.routing = .ofConfig config)
    {currency : String} :
    currency ∈ processor.currencies (.cart .create cart) ↔
      currency = Text.upper cart.currency ∨ currency ∈ config.credentials.keys := by
  rw [currencies, hrouting]
  exact Routing.mem_currenciesWith

/-- In a table of capitals the only calls of a new cart with the same credentials are those for the
fallback and for the cart's currency served by it. -/
theorem credentials_eq_iff_servedByFallback (hrouting : processor.routing = .ofConfig config)
    (hcapitals : config.InCapitals) {one other : String × Call}
    (hone : one ∈ calls (processor.requests (.cart .create cart)))
    (hother : other ∈ calls (processor.requests (.cart .create cart))) (hne : one.1 ≠ other.1) :
    one.2.credentials = other.2.credentials ↔
      config.ServedByFallback (Text.upper cart.currency) one.1 other.1 := by
  have hown := Text.upper_upper cart.currency
  obtain ⟨hlisted, entry, hserver, -⟩ := (mem_calls_of_routing hrouting).mp hone
  obtain ⟨hotherListed, -⟩ := (mem_calls_of_routing hrouting).mp hother
  rw [credentials_eq_iff hrouting hone hother]
  constructor
  · intro hsame
    exact hcapitals.servedByFallback_of_server?_eq hown
      ((mem_currencies_create hrouting).mp hlisted)
      ((mem_currencies_create hrouting).mp hotherListed) hne hserver (hsame.symm.trans hserver)
  · intro hserved
    obtain ⟨entry, hserver, hotherServer⟩ := hcapitals.server?_of_servedByFallback hown hserved
    exact hserver.trans hotherServer.symm

/-- Where the fallback serves the cart's currency, the same call is made for both. -/
theorem exists_call_of_servedByFallback (hrouting : processor.routing = .ofConfig config)
    (hcapitals : config.InCapitals) {one other : String}
    (hserved : config.ServedByFallback (Text.upper cart.currency) one other) :
    ∃ call, (one, call) ∈ calls (processor.requests (.cart .create cart)) ∧
      (other, call) ∈ calls (processor.requests (.cart .create cart)) := by
  obtain ⟨entry, hserver, hotherServer⟩ :=
    hcapitals.server?_of_servedByFallback (Text.upper_upper cart.currency) hserved
  obtain ⟨-, fallback, hlisted, -, hpair⟩ := hserved
  have hboth : one ∈ processor.currencies (.cart .create cart) ∧
      other ∈ processor.currencies (.cart .create cart) := by
    rw [mem_currencies_create hrouting, mem_currencies_create hrouting]
    rcases hpair with ⟨rfl, rfl⟩ | ⟨rfl, rfl⟩
    · exact ⟨.inl rfl, .inr hlisted⟩
    · exact ⟨.inr hlisted, .inl rfl⟩
  exact ⟨_, (mem_calls_of_routing hrouting).mpr ⟨hboth.1, entry, hserver, rfl⟩,
    (mem_calls_of_routing hrouting).mpr ⟨hboth.2, entry, hotherServer, rfl⟩⟩

/-- Two calls of a new cart use the same credentials exactly if one entry of the table serves both
currencies. In a table of capitals this is so in one case only: the cart's currency has no
credentials and is served by the fallback's, which serve the fallback, too. Then the two calls are
one call that is made twice. So, apart from attempts at the call for one currency and from this
pair, no two attempts use the same credentials, nor go to the same account where no account stands
under two currencies. -/
theorem credentials_of_new_cart (settings : Settings) (config : EngineConfig)
    (retry : RetryPolicy) (hsorted : config.credentials.Sorted) (cart : Cart) (engine : Engine σ)
    (state : σ) :
    let processor : Processor := ⟨settings, .ofConfig config, retry⟩
    let task : Task := .cart .create cart
    let calls := calls (processor.requests task)
    let attempts := processor.exchanges engine state task
    let own := Text.upper cart.currency
    (calls.map (·.1)).Nodup ∧
      (∀ attempt ∈ attempts, (attempt.currency, attempt.call) ∈ calls) ∧
      (∀ one ∈ calls, ∀ other ∈ calls,
        one.2.credentials = other.2.credentials ↔
          config.server? one.1 = config.server? other.1) ∧
      config.normalized.InCapitals ∧
      (config.InCapitals →
        (∀ one ∈ calls, ∀ other ∈ calls, one.1 ≠ other.1 →
          (one.2.credentials = other.2.credentials ↔
            config.ServedByFallback own one.1 other.1)) ∧
        (∀ one other, config.ServedByFallback own one other →
          ∃ call, (one, call) ∈ calls ∧ (other, call) ∈ calls) ∧
        ∀ one ∈ attempts, ∀ other ∈ attempts,
          one.call.credentials = other.call.credentials ∨
            (config.credentials.map (·.2)).Nodup ∧
              one.call.credentials.SameAccount other.call.credentials →
          one.currency = other.currency ∨
            config.ServedByFallback own one.currency other.currency) := by
  intro processor task calls attempts own
  have hrouting : processor.routing = .ofConfig config := rfl
  have hrouted : processor.routing.credentials.Sorted := List.pairwise_map.mpr hsorted
  have hnodup : (processor.currencies task).Nodup :=
    (pairwise_currencies hrouted task).imp String.ne_of_lt
  have hattempts : ∀ attempt ∈ attempts, (attempt.currency, attempt.call) ∈ calls :=
    fun attempt => mem_calls_of_mem_exchanges
  refine ⟨nodup_calls hnodup, hattempts, ?_, config.inCapitals_normalized, ?_⟩
  · intro one hone other hother
    exact credentials_eq_iff hrouting hone hother
  intro hcapitals
  refine ⟨?_, ?_, ?_⟩
  · intro one hone other hother hne
    exact credentials_eq_iff_servedByFallback hrouting hcapitals hone hother hne
  · intro one other hserved
    exact exists_call_of_servedByFallback hrouting hcapitals hserved
  · intro one hone other hother hsame
    have hcall := hattempts one hone
    have hotherCall := hattempts other hother
    have hshared : one.call.credentials = other.call.credentials := by
      rcases hsame with hsame | ⟨haccounts, hsame⟩
      · exact hsame
      · exact credentials_eq_of_sameAccount hrouting haccounts hcall hotherCall hsame
    by_cases hne : one.currency = other.currency
    · exact .inl hne
    · exact .inr
        ((credentials_eq_iff_servedByFallback hrouting hcapitals hcall hotherCall hne).mp hshared)

/-- Pounds have no credentials and are served by those of the euro, while the dollar has its own. -/
theorem credentials_of_new_cart_in_pounds :
    let settings : Settings :=
      ⟨⟨.variantSku, '_'⟩, .halfEven, "en", none, none, [], [], [], ⟨"line", "cart", "customer"⟩⟩
    let config : EngineConfig :=
      { credentials := [("EUR", ⟨"key-1", "https://one.test"⟩),
          ("USD", ⟨"key-2", "https://two.test"⟩)]
        fallbackCurrency := some "EUR" }
    let processor : Processor := ⟨settings, .ofConfig config, .never⟩
    let calls := calls
      (processor.requests (.cart .create ⟨"cart-1", none, none, ⟨"gbp", 0⟩, [], [], none⟩))
    (config.credentials.Sorted ∧ config.InCapitals ∧ config.ServedByFallback "GBP" "GBP" "EUR") ∧
      (∃ call, ("GBP", call) ∈ calls ∧ ("EUR", call) ∈ calls) ∧
      ∀ one ∈ calls, ∀ other ∈ calls, one.1 ≠ other.1 →
        (one.2.credentials = other.2.credentials ↔
          config.ServedByFallback "GBP" one.1 other.1) := by
  intro settings config processor calls
  have hsorted : config.credentials.Sorted := by
    unfold Dict.Sorted
    decide
  have hcapitals : config.InCapitals := by
    unfold EngineConfig.InCapitals
    decide
  have hserved : config.ServedByFallback "GBP" "GBP" "EUR" :=
    ⟨by decide, "EUR", by decide, rfl, .inl ⟨rfl, rfl⟩⟩
  obtain ⟨-, -, -, -, hshared⟩ := credentials_of_new_cart settings config .never hsorted
    ⟨"cart-1", none, none, ⟨"gbp", 0⟩, [], [], none⟩ (.recorded ⟨[], []⟩) ()
  have hown : Text.upper "gbp" = "GBP" := by decide
  simp only [Cart.currency, hown] at hshared
  obtain ⟨hpair, hmade, -⟩ := hshared hcapitals
  exact ⟨⟨hsorted, hcapitals, hserved⟩, hmade "GBP" "EUR" hserved, hpair⟩

/-- The calls of a new cart need not use different credentials, not even with a table that was
normalized and passes the check: the call for pounds uses those of the euro, where there is a call
for the euro. -/
theorem not_forall_nodup_credentials :
    ¬∀ (settings : Settings) (config : EngineConfig) (retry : RetryPolicy) (cart : Cart),
      config.normalized = config → config.validate = .ok () →
        ((calls ((⟨settings, .ofConfig config, retry⟩ : Processor).requests
          (.cart .create cart))).map (·.2.credentials)).Nodup := by
  intro h
  let settings : Settings :=
    ⟨⟨.variantSku, '_'⟩, .halfEven, "en", none, none, [], [], [], ⟨"line", "cart", "customer"⟩⟩
  let config : EngineConfig :=
    { credentials := [("EUR", ⟨"key", "https://engine.test"⟩)]
      fallbackCurrency := some "EUR" }
  have hnodup := h settings config .never ⟨"cart-1", none, none, ⟨"GBP", 0⟩, [], [], none⟩
    (by decide) (by decide)
  revert hnodup
  decide

end Processor

end Promotion
