import Promotion.Proofs.SeparateRules
import Promotion.Proofs.Spellings
import Promotion.Settings

/-!
# Loading settings

A configuration can be loaded exactly if the values that must not fail are valid
(`Settings.Valid`). Otherwise the first of them that is not decides the failure
(`FirstFault`). The mappings have no say in that: what is malformed in them is dropped and counted,
so that every piece that is not blank is either a rule of the settings or a diagnostic.
-/

namespace Promotion

-- ---------------------------------------------------------------------------
-- First faults
-- ---------------------------------------------------------------------------

/-- A result that fails with the first of some faults, and succeeds where there is none. -/
inductive FirstFault {ε α : Type} : Except ε α → List ε → Prop where
  | ok (value : α) : FirstFault (.ok value) []
  | error (fault : ε) (rest : List ε) : FirstFault (.error fault) (fault :: rest)

namespace FirstFault

variable {ε α β : Type} {result : Except ε α} {faults : List ε} {fault : ε}

/-- What goes on with a result finds its own faults after those of the result. -/
theorem bind {next : α → Except ε β} {later : List ε} (h : FirstFault result faults)
    (hnext : ∀ value, FirstFault (next value) later) :
    FirstFault (result >>= next) (faults ++ later) := by
  cases h with
  | ok value => exact hnext value
  | error fault rest => exact .error fault (rest ++ later)

theorem bind_ok (h : FirstFault result faults) (f : α → β) :
    FirstFault (result >>= fun value => .ok (f value)) faults := by
  have hbind := h.bind fun value => FirstFault.ok (ε := ε) (f value)
  rwa [List.append_nil] at hbind

theorem mapError {δ : Type} (h : FirstFault result faults) (f : ε → δ) :
    FirstFault (result.mapError f) (faults.map f) := by
  cases h with
  | ok value => exact .ok value
  | error fault rest => exact .error (f fault) (rest.map f)

theorem exists_ok_iff (h : FirstFault result faults) :
    (∃ value, result = .ok value) ↔ faults = [] := by
  cases h with
  | ok value => exact iff_of_true ⟨value, rfl⟩ rfl
  | error fault rest => exact iff_of_false (fun ⟨_, hok⟩ => nomatch hok) nofun

theorem eq_error_iff (h : FirstFault result faults) :
    result = .error fault ↔ faults.head? = some fault := by
  cases h with
  | ok value => exact iff_of_false nofun nofun
  | error first rest => rw [Except.error.injEq, List.head?_cons, Option.some_inj]

end FirstFault

-- ---------------------------------------------------------------------------
-- Rules and diagnostics
-- ---------------------------------------------------------------------------

namespace Mapping

/-- The number of pieces between semicolons that are not blank. -/
def filledPieces (text : String) : Nat :=
  (Text.pieces ';' text.toList).countP fun piece => !piece.all Text.isBlank

theorem length_compilePieces (index : Nat) (texts : List (List Char)) :
    (compilePieces index texts).length = texts.countP fun piece => !piece.all Text.isBlank := by
  induction texts generalizing index with
  | nil => rfl
  | cons piece texts ih =>
    have hblank : Text.trimmed piece = [] ↔ piece.all Text.isBlank := by
      rw [Text.trimmed_eq_nil_iff, List.all_eq_true]
      rfl
    rw [compilePieces, List.length_append, ih, List.countP_cons, Nat.add_comm]
    congr 1
    by_cases hpiece : Text.trimmed piece = []
    · simp [compilePiece, hpiece, hblank.mp hpiece]
    · simp [compilePiece, hpiece, mt hblank.mpr hpiece]

theorem length_ofOutcomes (outcomes : List (Except Diagnostic Rule)) :
    (Compiled.ofOutcomes outcomes).diagnostics.length +
      (Compiled.ofOutcomes outcomes).rules.length = outcomes.length := by
  induction outcomes with
  | nil => rfl
  | cons outcome rest ih =>
    rw [← List.singleton_append, ofOutcomes_append, List.length_append, List.length_append,
      List.length_append, ← ih]
    cases outcome <;> simp [Compiled.ofOutcomes] <;> omega

/-- Every piece that is not blank becomes a diagnostic or a rule. -/
theorem length_compile (text : String) :
    (compile text).diagnostics.length + (compile text).rules.length = filledPieces text := by
  rw [compile_eq, length_ofOutcomes, length_compilePieces, filledPieces]

end Mapping

-- ---------------------------------------------------------------------------
-- Settings
-- ---------------------------------------------------------------------------

namespace Settings

variable {config : PromotionConfig} {loaded : LoadedSettings}

/-- The values of a configuration that decide whether it can be loaded. -/
structure Valid (config : PromotionConfig) : Prop where
  policy : ∃ policy, IdentityPolicy.ofName config.skuType = .ok policy
  rounding : ∃ mode, RoundingMode.ofName config.roundingMode = .ok mode
  separator : ∃ c, config.skuSeparator.toList = [c]
  lineItem : ¬Text.isBlankText config.metadata.lineItem
  cart : ¬Text.isBlankText config.metadata.cart
  customer : ¬Text.isBlankText config.metadata.customer
  language : ¬Text.isBlankText config.language

/-- The fault of a value that must not be blank. -/
def blankFault (key value : String) : List SettingsFault :=
  if Text.isBlankText value then [.blank key] else []

/-- What is wrong with a configuration, in the order in which it is looked for. -/
def violations (config : PromotionConfig) : List SettingsFault :=
  (if (IdentityPolicy.ofName config.skuType).isOk then [] else [.identityPolicy config.skuType]) ++
    ((if (RoundingMode.ofName config.roundingMode).isOk then []
      else [.roundingMode (Text.upper (Text.trim config.roundingMode))]) ++
    ((if config.skuSeparator.toList.length = 1 then [] else [.separator config.skuSeparator]) ++
    ((blankFault "metadata.line_item_type_key" config.metadata.lineItem ++
      (blankFault "metadata.cart_type_key" config.metadata.cart ++
      blankFault "metadata.customer_type_key" config.metadata.customer)) ++
    blankFault "language" config.language)))

theorem isOk_iff {ε α : Type} {result : Except ε α} :
    result.isOk ↔ ∃ value, result = .ok value := by
  cases result with
  | ok value => exact iff_of_true rfl ⟨value, rfl⟩
  | error fault => exact iff_of_false nofun fun ⟨_, hok⟩ => nomatch hok

theorem blankFault_eq_nil_iff {key value : String} :
    blankFault key value = [] ↔ ¬Text.isBlankText value := by
  by_cases h : Text.isBlankText value <;> simp [blankFault, h]

theorem violations_eq_nil_iff : violations config = [] ↔ Valid config := by
  simp only [violations, List.append_eq_nil_iff, blankFault_eq_nil_iff, ite_eq_left_iff,
    List.cons_ne_nil, imp_false, not_not, isOk_iff, List.length_eq_one_iff]
  constructor
  · rintro ⟨hpolicy, hrounding, hseparator, ⟨hline, hcart, hcustomer⟩, hlanguage⟩
    exact ⟨hpolicy, hrounding, hseparator, hline, hcart, hcustomer, hlanguage⟩
  · rintro ⟨hpolicy, hrounding, hseparator, hline, hcart, hcustomer, hlanguage⟩
    exact ⟨hpolicy, hrounding, hseparator, ⟨hline, hcart, hcustomer⟩, hlanguage⟩

-- ---------------------------------------------------------------------------
-- Checks
-- ---------------------------------------------------------------------------

theorem firstFault_policy (name : String) :
    FirstFault (IdentityPolicy.ofName name)
      (if (IdentityPolicy.ofName name).isOk then [] else [.identityPolicy name]) := by
  unfold IdentityPolicy.ofName
  split <;> constructor

theorem firstFault_rounding (name : String) :
    FirstFault (RoundingMode.ofName name)
      (if (RoundingMode.ofName name).isOk then []
        else [.roundingMode (Text.upper (Text.trim name))]) := by
  unfold RoundingMode.ofName
  split <;> constructor

theorem firstFault_separator (text : String) :
    FirstFault (readSeparator text)
      (if text.toList.length = 1 then [] else [.separator text]) := by
  unfold readSeparator
  split
  · rename_i c htext
    rw [htext]
    exact .ok c
  · rename_i hother
    rw [if_neg fun hone => ?_]
    · exact .error _ _
    · obtain ⟨c, hc⟩ := List.length_eq_one_iff.mp hone
      exact hother c hc

theorem firstFault_nonBlank (key value : String) :
    FirstFault (readNonBlank key value) (blankFault key value) := by
  unfold readNonBlank blankFault
  by_cases h : Text.isBlankText value
  · rw [if_pos h, if_pos (Text.trim_eq_empty_iff.mpr h)]
    exact .error _ _
  · rw [if_neg h, if_neg (mt Text.trim_eq_empty_iff.mp h)]
    exact .ok _

theorem firstFault_metadata (types : MetadataTypes) :
    FirstFault (readMetadata types)
      (blankFault "metadata.line_item_type_key" types.lineItem ++
        (blankFault "metadata.cart_type_key" types.cart ++
        blankFault "metadata.customer_type_key" types.customer)) := by
  refine (firstFault_nonBlank _ _).bind fun lineItem => ?_
  refine (firstFault_nonBlank _ _).bind fun cart => ?_
  exact (firstFault_nonBlank _ _).bind_ok (MetadataTypes.mk lineItem cart)

theorem firstFault_read (config : PromotionConfig) :
    FirstFault (read config) (violations config) := by
  refine (firstFault_policy _).bind fun policy => ?_
  refine (firstFault_rounding _).bind fun rounding => ?_
  refine (firstFault_separator _).bind fun separator => ?_
  refine (firstFault_metadata _).bind fun metadata => ?_
  exact (firstFault_nonBlank _ _).bind_ok _

theorem firstFault_load (config : PromotionConfig) :
    FirstFault (load config) ((violations config).map Failure.configuration) := by
  unfold load
  have h := (firstFault_read config).mapError Failure.configuration
  exact h

theorem exists_load_iff : (∃ loaded, load config = .ok loaded) ↔ Valid config := by
  rw [(firstFault_load config).exists_ok_iff, List.map_eq_nil_iff, violations_eq_nil_iff]

-- ---------------------------------------------------------------------------
-- Mappings
-- ---------------------------------------------------------------------------

/-- What a configuration's mappings make of its settings. -/
structure HoldsMappings (config : PromotionConfig) (loaded : LoadedSettings) : Prop where
  cartRules : loaded.settings.cartRules = (Mapping.compile config.cartMapping).rules
  itemRules : loaded.settings.itemRules = (Mapping.compile config.cartItemMapping).rules
  customerRules : loaded.settings.customerRules = (Mapping.compile config.customerMapping).rules
  diagnostics : loaded.diagnostics =
    (Mapping.compile config.cartMapping).diagnostics ++
      (Mapping.compile config.cartItemMapping).diagnostics ++
      (Mapping.compile config.customerMapping).diagnostics
  tally : loaded.tally = droppedTally loaded.diagnostics.length

theorem holdsMappings_of_load (h : load config = .ok loaded) : HoldsMappings config loaded := by
  rw [load, Except.mapError_eq_ok_iff] at h
  simp only [read, bind, Except.bind_eq_ok_iff, Except.ok.injEq] at h
  obtain ⟨policy, -, rounding, -, separator, -, metadata, -, language, -, rfl⟩ := h
  exact ⟨rfl, rfl, rfl, rfl, rfl⟩

theorem HoldsMappings.length_diagnostics (h : HoldsMappings config loaded) :
    loaded.diagnostics.length + (loaded.settings.cartRules.length +
        loaded.settings.itemRules.length + loaded.settings.customerRules.length) =
      Mapping.filledPieces config.cartMapping + Mapping.filledPieces config.cartItemMapping +
        Mapping.filledPieces config.customerMapping := by
  rw [h.diagnostics, h.cartRules, h.itemRules, h.customerRules, List.length_append,
    List.length_append, ← Mapping.length_compile, ← Mapping.length_compile,
    ← Mapping.length_compile]
  omega

theorem count_droppedTally (count : Nat) (counter : Counter) :
    (droppedTally count).count counter = if counter = .rulesDropped then count else 0 := by
  by_cases hnone : count = 0
  · simp [droppedTally, hnone, Tally.count]
  · simp only [droppedTally, if_neg hnone, Tally.count, Nat.add_zero, eq_comm]

/-- By how much loading raises a counter. A failure comes with nothing counted. -/
def raised (counter : Counter) : Except Failure LoadedSettings → Nat
  | .ok loaded => loaded.tally.count counter
  | .error _ => 0

-- ---------------------------------------------------------------------------
-- Loading
-- ---------------------------------------------------------------------------

theorem load_eq_error_iff {failure : Failure} :
    load config = .error failure ↔
      ((violations config).map Failure.configuration).head? = some failure := by
  have h := firstFault_load config
  exact h.eq_error_iff

/-- The first value that is not valid decides the failure, which is fatal and counts nothing. -/
theorem load_of_not_valid (h : ¬Valid config) :
    ∃ fault, (violations config).head? = some fault ∧
      load config = .error (.configuration fault) ∧ (Failure.configuration fault).isFatal ∧
      ∀ counter, raised counter (load config) = 0 := by
  obtain ⟨fault, rest, hfaults⟩ := List.exists_cons_of_ne_nil (mt violations_eq_nil_iff.mp h)
  have hfirst : (violations config).head? = some fault := by rw [hfaults, List.head?_cons]
  have hload : load config = .error (.configuration fault) := by
    rw [load_eq_error_iff, List.head?_map, hfirst, Option.map_some]
  refine ⟨fault, hfirst, hload, rfl, fun counter => ?_⟩
  rw [hload, raised]

theorem raised_of_load (h : load config = .ok loaded) (counter : Counter) :
    raised counter (load config) =
      if counter = .rulesDropped then loaded.diagnostics.length else 0 := by
  rw [h, raised, (holdsMappings_of_load h).tally]
  exact count_droppedTally _ _

/-- The values of which there is one decide whether settings are loaded, and the first that is not
valid decides the failure. The mappings decide what is dropped, reported and counted. -/
theorem load_iff_valid (config : PromotionConfig) :
    ((∃ loaded, load config = .ok loaded) ↔ Valid config) ∧
      (¬Valid config → ∃ fault, (violations config).head? = some fault ∧
        load config = .error (.configuration fault) ∧ (Failure.configuration fault).isFatal ∧
        ∀ counter, raised counter (load config) = 0) ∧
      (∀ loaded, load config = .ok loaded →
        loaded.diagnostics =
            (Mapping.compile config.cartMapping).diagnostics ++
              (Mapping.compile config.cartItemMapping).diagnostics ++
              (Mapping.compile config.customerMapping).diagnostics ∧
          (∀ counter, raised counter (load config) =
            if counter = .rulesDropped then loaded.diagnostics.length else 0) ∧
          loaded.diagnostics.length + (loaded.settings.cartRules.length +
              loaded.settings.itemRules.length + loaded.settings.customerRules.length) =
            Mapping.filledPieces config.cartMapping +
              Mapping.filledPieces config.cartItemMapping +
              Mapping.filledPieces config.customerMapping) ∧
      ∀ (cart item customer : String) (failure : Failure),
        load
            { config with
              cartMapping := cart, cartItemMapping := item, customerMapping := customer } =
            .error failure ↔
          load config = .error failure := by
  refine ⟨exists_load_iff, load_of_not_valid, fun loaded hload => ?_, fun _ _ _ failure => ?_⟩
  · have hmappings := holdsMappings_of_load hload
    exact ⟨hmappings.diagnostics, raised_of_load hload, hmappings.length_diagnostics⟩
  · rw [load_eq_error_iff, load_eq_error_iff]
    rfl

/-- Of three faults the first is reported. Two of four pieces are dropped, one in each mapping. -/
theorem load_iff_valid_of_dropped_pieces :
    let faulty : PromotionConfig :=
      { skuSeparator := "::", metadata := { cart := " " }, language := "" }
    let sound : PromotionConfig :=
      { cartMapping := "color:Color; broken;; ", customerMapping := "name:Name;x3:First" }
    (¬Valid faulty ∧ load faulty = .error (.configuration (.separator "::"))) ∧
      ∃ loaded, load sound = .ok loaded ∧ raised .rulesDropped (load sound) = 2 ∧
        Mapping.filledPieces sound.cartMapping + Mapping.filledPieces sound.cartItemMapping +
          Mapping.filledPieces sound.customerMapping = 4 ∧
        loaded.settings.cartRules.length + loaded.settings.itemRules.length +
          loaded.settings.customerRules.length = 2 := by
  intro faulty sound
  obtain ⟨-, hfailed, -⟩ := load_iff_valid faulty
  obtain ⟨hiff, -, hloaded, -⟩ := load_iff_valid sound
  have hfaulty : ¬Valid faulty := mt violations_eq_nil_iff.mpr (by decide)
  have hfirst : (violations faulty).head? = some (.separator "::") := by decide
  have hpieces : Mapping.filledPieces sound.cartMapping +
      Mapping.filledPieces sound.cartItemMapping +
      Mapping.filledPieces sound.customerMapping = 4 := by decide
  obtain ⟨fault, hfault, hload, -⟩ := hfailed hfaulty
  obtain rfl : .separator "::" = fault := Option.some.inj (hfirst.symm.trans hfault)
  obtain ⟨loaded, hok⟩ := hiff.mpr (violations_eq_nil_iff.mp (by decide))
  obtain ⟨hdiagnostics, hraised, hlength⟩ := hloaded loaded hok
  have hdropped : loaded.diagnostics.length = 2 := by
    rw [hdiagnostics]
    decide
  refine ⟨⟨hfaulty, hload⟩, loaded, hok, ?_, hpieces, ?_⟩
  · rw [hraised, if_pos rfl, hdropped]
  · omega

end Settings

end Promotion
