import Promotion.Proofs.Emission
import Promotion.Proofs.SmallestUnits

/-!
# Counting effects

An entry of the engine's answer goes through two stages: it is read as an effect or refused, and the
effect is carried out on the cart or left out. Each stage raises a counter for what stops there, so
that in the end every entry that is no gap has raised one counter by one
(`Settings.counts_of_update`).
-/

namespace Promotion

-- ---------------------------------------------------------------------------
-- Tallies
-- ---------------------------------------------------------------------------

/-- The counters of effects: those carried out, by kind, and those left out, by reason. -/
def Counter.isOfEffects : Counter → Bool
  | applied _ | skipped _ => true
  | _ => false

/-- The elements of one sort are those of two others, where each of them is of one of these. -/
theorem countP_add_countP {α : Type} {p q r : α → Bool} {l : List α}
    (h : ∀ a, (p a).toNat + (q a).toNat = (r a).toNat) : l.countP p + l.countP q = l.countP r := by
  induction l with
  | nil => rfl
  | cons a l ih =>
    have hone : ∀ b : Bool, (if b then 1 else 0) = b.toNat := by decide
    rw [List.countP_cons, List.countP_cons, List.countP_cons, hone, hone, hone, ← ih, ← h a]
    omega

namespace Tally

variable {accept : Counter → Bool} {counter : Counter}

/-- By how much the counters of a sort were raised altogether. -/
def raised (tally : Tally) (accept : Counter → Bool) : Nat :=
  match tally with
  | [] => 0
  | (counter, amount) :: rest => (if accept counter then amount else 0) + raised rest accept

theorem raised_append (tally other : Tally) :
    (tally ++ other).raised accept = tally.raised accept + other.raised accept := by
  induction tally with
  | nil => simp [raised]
  | cons entry tally ih =>
    obtain ⟨counter, amount⟩ := entry
    rw [List.cons_append, raised, raised, ih, Nat.add_assoc]

theorem raised_one : (one counter).raised accept = if accept counter then 1 else 0 :=
  rfl

theorem count_eq_raised (tally : Tally) (counter : Counter) :
    tally.count counter = tally.raised (· = counter) := by
  induction tally with
  | nil => rfl
  | cons entry tally ih =>
    obtain ⟨first, amount⟩ := entry
    simp only [count, raised, ih, decide_eq_true_eq]

end Tally

-- ---------------------------------------------------------------------------
-- Entries
-- ---------------------------------------------------------------------------

namespace Effect

def kinds : List String :=
  ["setDiscount", "setDiscountPerItem", "addFreeItem", "addLoyaltyPoints", "deductLoyaltyPoints",
    "referralCreated", "acceptReferral", "rejectReferral", "acceptCoupon", "rejectCoupon",
    "showNotification"]

/-- The kind that an entry names, if the entry itself can be read. -/
def kindOf? (entry : Json) : Option String :=
  (Reader.effectEntry entry).toOption.map (·.1)

/-- The effect that an entry stands for, if its kind is known and its data fit the kind. -/
def recognized? (entry : Json) : Option Effect :=
  (Reader.effectEntry entry).toOption.bind fun (kind, data) =>
    (reader? kind).bind fun reader => (reader data).toOption

/-- An entry that can be read, of a kind that is not known. -/
def isUnknown (entry : Json) : Bool :=
  (kindOf? entry).any (· ∉ kinds)

/-- An entry that cannot be read, or whose data do not fit its kind. A gap is neither. -/
def isUnreadable (entry : Json) : Bool :=
  !entry.isNull &&
    match Reader.effectEntry entry with
    | .error _ => true
    | .ok (kind, data) => (reader? kind).any fun reader => !(reader data).isOk

theorem reader?_eq_none_iff {kind : String} : reader? kind = none ↔ kind ∉ kinds := by
  unfold reader?
  split <;> simp_all [kinds]

/-- An effect is of the kind that it was read for. -/
theorem kind_of_reader? {kind : String} {reader : Reader Effect} {data : Json} {effect : Effect}
    (hreader : reader? kind = some reader) (heffect : reader data = .ok effect) :
    effect.kind = kind := by
  have hmap : ∀ {α : Type} {read : Reader α} {f : α → Effect},
      read.map f data = .ok effect → ∃ value, effect = f value := by
    intro α read f h
    cases hread : read data with
    | error mismatch => simp [Reader.map, hread, Except.map] at h
    | ok value => exact ⟨value, by simpa [Reader.map, hread, Except.map, eq_comm] using h⟩
  unfold reader? at hreader
  split at hreader <;> first
    | cases hreader
      obtain ⟨value, rfl⟩ := hmap heffect
      rfl
    | cases hreader

/-- What reading makes of an entry: each is one of four things. -/
inductive Reading (entry : Json) : Prop
  | gap (hread : ofJson entry = .ok none) (hnull : entry.isNull)
      (hnone : recognized? entry = none) (hknown : ¬isUnknown entry)
      (hreadable : ¬isUnreadable entry)
  | effect (effect : Effect) (hread : ofJson entry = .ok (some effect)) (hnull : ¬entry.isNull)
      (hsome : recognized? entry = some effect) (hkind : kindOf? entry = some effect.kind)
      (hknown : ¬isUnknown entry) (hreadable : ¬isUnreadable entry)
  | unknown (failure : Failure) (hread : ofJson entry = .error failure) (hnull : ¬entry.isNull)
      (hcode : failure.code = "UnsupportedEffectKind") (hnone : recognized? entry = none)
      (hunknown : isUnknown entry) (hreadable : ¬isUnreadable entry)
  | unreadable (failure : Failure) (hread : ofJson entry = .error failure) (hnull : ¬entry.isNull)
      (hcode : failure.code = "MalformedEffect") (hnone : recognized? entry = none)
      (hknown : ¬isUnknown entry) (hunreadable : isUnreadable entry)

theorem reading (entry : Json) : Reading entry := by
  by_cases hnull : entry.isNull
  · have hentry : entry = .null := by
      cases entry with
      | null => rfl
      | _ => cases hnull
    subst hentry
    exact .gap rfl rfl rfl nofun nofun
  cases hentry : Reader.effectEntry entry with
  | error mismatch =>
    refine .unreadable (.malformedEffect "unknown" (.shape mismatch)) ?_ hnull rfl ?_ ?_ ?_
    · simp [ofJson, hnull, hentry]
    all_goals
      simp [recognized?, isUnknown, kindOf?, isUnreadable, hnull, hentry, Except.toOption]
  | ok named =>
    obtain ⟨kind, data⟩ := named
    cases hreader : reader? kind with
    | none =>
      have hunknown := reader?_eq_none_iff.mp hreader
      refine .unknown (.unsupportedEffect kind) ?_ hnull rfl ?_ ?_ ?_
      · simp [ofJson, hnull, hentry, hreader]
      all_goals
        simp [recognized?, isUnknown, kindOf?, isUnreadable, hentry, hreader, hunknown,
          Except.toOption]
    | some reader =>
      have hknown : kind ∈ kinds := by
        by_contra hunknown
        cases hreader.symm.trans (reader?_eq_none_iff.mpr hunknown)
      cases hdata : reader data with
      | ok effect =>
        refine .effect effect ?_ hnull ?_ ?_ ?_ ?_
        · simp [ofJson, hnull, hentry, hreader, hdata]
        all_goals
          simp [recognized?, isUnknown, kindOf?, isUnreadable, hentry, hreader, hknown, hdata,
            kind_of_reader? hreader hdata, Except.toOption, Except.isOk, Except.toBool]
      | error mismatch =>
        refine .unreadable (.malformedEffect kind (.shape mismatch)) ?_ hnull rfl ?_ ?_ ?_
        · simp [ofJson, hnull, hentry, hreader, hdata]
        all_goals
          simp [recognized?, isUnknown, kindOf?, isUnreadable, hnull, hentry, hreader, hknown,
            hdata, Except.toOption, Except.isOk, Except.toBool]

theorem kindOf?_of_recognized? {entry : Json} {effect : Effect}
    (h : recognized? entry = some effect) : kindOf? entry = some effect.kind := by
  cases reading entry with
  | effect read hread hnull hsome hkind =>
    cases h.symm.trans hsome
    exact hkind
  | gap hread hnull hnone => cases h.symm.trans hnone
  | unknown failure hread hnull hcode hnone => cases h.symm.trans hnone
  | unreadable failure hread hnull hcode hnone => cases h.symm.trans hnone

/-- An entry that is no gap is refused or recognized, and not both. -/
theorem one_of_not_isNull (entry : Json) :
    (isUnknown entry || isUnreadable entry).toNat + ((recognized? entry).any fun _ => true).toNat =
      (!entry.isNull).toNat := by
  cases reading entry <;> simp [*]

theorem ofEntries_cons (entry : Json) (rest : List Json) :
    ofEntries (entry :: rest) =
      match ofJson entry with
      | .ok (some effect) => (effect :: (ofEntries rest).1, (ofEntries rest).2)
      | .ok none => ofEntries rest
      | .error failure =>
        ((ofEntries rest).1, Tally.one (.skipped failure.code) ++ (ofEntries rest).2) := by
  cases hread : ofJson entry with
  | error failure => simp only [ofEntries, hread]
  | ok effect =>
    cases effect with
    | none => simp only [ofEntries, hread]
    | some effect => simp only [ofEntries, hread]

/-- The effects of a list of entries are those that are recognized, in order. -/
theorem ofEntries_fst (entries : List Json) :
    (ofEntries entries).1 = entries.filterMap recognized? := by
  induction entries with
  | nil => rfl
  | cons entry rest ih =>
    rw [ofEntries_cons, List.filterMap_cons]
    cases reading entry with
    | gap hread hnull hnone => simpa [hread, hnone] using ih
    | effect effect hread hnull hsome => simpa [hread, hsome] using ih
    | unknown failure hread hnull hcode hnone => simpa [hread, hnone] using ih
    | unreadable failure hread hnull hcode hnone => simpa [hread, hnone] using ih

/-- What reading counts: the entries of unknown kinds and those that are unreadable. -/
theorem raised_ofEntries (entries : List Json) (accept : Counter → Bool) :
    (ofEntries entries).2.raised accept = entries.countP fun entry =>
      isUnknown entry && accept (.skipped "UnsupportedEffectKind") ||
        isUnreadable entry && accept (.skipped "MalformedEffect") := by
  induction entries with
  | nil => rfl
  | cons entry rest ih =>
    rw [List.countP_cons, ← ih, ofEntries_cons]
    cases reading entry with
    | gap hread hnull hnone hknown hreadable => simp [hread, hknown, hreadable]
    | effect effect hread hnull hsome hkind hknown hreadable => simp [hread, hknown, hreadable]
    | unknown failure hread hnull hcode hnone hunknown hreadable =>
      simp [hread, Tally.raised_append, Tally.raised_one, hcode, hunknown, hreadable, Nat.add_comm]
    | unreadable failure hread hnull hcode hnone hknown hunreadable =>
      simp [hread, Tally.raised_append, Tally.raised_one, hcode, hknown, hunreadable, Nat.add_comm]

end Effect

-- ---------------------------------------------------------------------------
-- Effects of a cart
-- ---------------------------------------------------------------------------

/-- A discount on an item that the session does not have. -/
def Effect.lacksItem (items : List SessionItem) : Effect → Bool
  | setDiscountPerItem discount => items.length ≤ discount.position
  | _ => false

/-- The amount of a discount, on the cart or on an item. -/
def Effect.discountValue? : Effect → Option Decimal
  | setDiscount discount => some discount.value
  | setDiscountPerItem discount => some discount.value
  | _ => none

/-- The counter that is raised for an effect of some kind, by what came of it. -/
def Counter.ofResult {α : Type} (kind : String) : Except Failure α → Counter
  | .ok _ => applied kind
  | .error failure => skipped failure.code

namespace Settings

variable {settings : Settings} {currency : String} {items : List SessionItem}

/-- What a discount takes off, in smallest units. -/
def deductedUnits (settings : Settings) (currency : String) (value : Decimal) : Int :=
  let digits := fractionDigits currency
  (value.negate.roundTo settings.rounding digits).inUnits digits

/-- A discount whose smallest units do not fit 64 bits. -/
def overflows (settings : Settings) (currency : String) (effect : Effect) : Bool :=
  effect.discountValue?.any fun value =>
    settings.deductedUnits currency value < -2 ^ 63 ||
      2 ^ 63 ≤ settings.deductedUnits currency value

/-- The counter that an effect on a cart raises. -/
def counterOf (settings : Settings) (currency : String) (items : List SessionItem)
    (effect : Effect) : Counter :=
  if effect.lacksItem items then .skipped "MalformedEffect"
  else if settings.overflows currency effect then .skipped "MoneyOverflow"
  else .applied effect.kind

theorem overflows_iff {effect : Effect} {value : Decimal}
    (hvalue : effect.discountValue? = some value) :
    settings.overflows currency effect ↔
      ¬(-2 ^ 63 ≤ settings.deductedUnits currency value ∧
        settings.deductedUnits currency value < 2 ^ 63) := by
  rw [overflows, hvalue, Option.any_some, Bool.or_eq_true, decide_eq_true_eq, decide_eq_true_eq]
  omega

/-- The amount of a discount's line, where it fits. -/
theorem deduction_eq {effect : Effect} {value : Decimal}
    (hvalue : effect.discountValue? = some value) :
    settings.deduction currency value =
      if settings.overflows currency effect then .error (.overflow currency)
      else
        .ok ⟨"centPrecision", currency, settings.deductedUnits currency value,
          fractionDigits currency⟩ := by
  let units := settings.deductedUnits currency value
  have hcents : ((Money.of .decimal currency value).roundedWith settings.rounding).negate.cents =
      if -2 ^ 63 ≤ units ∧ units < 2 ^ 63 then .ok units else .error (.overflow currency) :=
    Money.cents_eq _
  rw [deduction, Money.toCents, hcents]
  by_cases hoverflows : settings.overflows currency effect
  · rw [if_neg ((overflows_iff hvalue).mp hoverflows), if_pos hoverflows]
    rfl
  · rw [if_pos (not_not.mp (hoverflows ∘ (overflows_iff hvalue).mpr)), if_neg hoverflows]
    rfl

/-- A discount's line can be made where its amount fits. -/
theorem ofResult_discountLine {effect : Effect} {value : Decimal}
    (hvalue : effect.discountValue? = some value) (kind name slug : String)
    (fields : List (String × Json)) (claimed : List String) :
    Counter.ofResult kind (settings.discountLine name value currency slug fields claimed) =
      if settings.overflows currency effect then .skipped "MoneyOverflow" else .applied kind := by
  have hline : Counter.ofResult kind
      (settings.discountLine name value currency slug fields claimed) =
        Counter.ofResult kind ((settings.deduction currency value).mapError .money) := by
    unfold discountLine deduction
    cases ((Money.of .decimal currency value).roundedWith settings.rounding).negate.toCents <;> rfl
  rw [hline, deduction_eq hvalue]
  split <;> rfl

theorem ofResult_addLine (kind : String) (draft : Draft)
    (line : Except Failure (Action × String)) :
    Counter.ofResult kind (addLine draft line) = Counter.ofResult kind line := by
  cases line <;> rfl

/-- What an effect counts depends neither on its place nor on the effects before it. -/
theorem ofResult_applyEffect (index : Nat) (draft : Draft) (effect : Effect) :
    Counter.ofResult effect.kind (settings.applyEffect currency items index draft effect) =
      settings.counterOf currency items effect := by
  cases effect with
  | setDiscount discount =>
    rw [applyEffect, addDiscount, ofResult_addLine]
    exact ofResult_discountLine rfl ..
  | setDiscountPerItem discount =>
    rw [applyEffect, addItemDiscount, counterOf, Effect.lacksItem]
    rcases Nat.lt_or_ge discount.position items.length with hlt | hge
    · rw [List.getElem?_eq_getElem hlt, if_neg (by simpa using hlt), ofResult_addLine]
      exact ofResult_discountLine rfl ..
    · rw [List.getElem?_eq_none hge, if_pos (by simpa using hge)]
      rfl
  | _ => rfl

/-- What carrying effects out counts: each effect once. -/
theorem raised_applyEffects (index : Nat) (draft : Draft) (effects : List Effect)
    (accept : Counter → Bool) :
    (settings.applyEffects currency items index draft effects).2.raised accept =
      effects.countP fun effect => accept (settings.counterOf currency items effect) := by
  induction effects generalizing index draft with
  | nil => rfl
  | cons effect rest ih =>
    rw [List.countP_cons, ← ofResult_applyEffect index draft effect, applyEffects]
    cases settings.applyEffect currency items index draft effect with
    | ok next =>
      rw [Tally.raised_append, Tally.raised_one, ih, Nat.add_comm]
      rfl
    | error failure =>
      rw [Tally.raised_append, Tally.raised_one, ih, Nat.add_comm]
      rfl

theorem isOfEffects_counterOf (effect : Effect) :
    (settings.counterOf currency items effect).isOfEffects = true := by
  unfold counterOf
  split
  · rfl
  · split <;> rfl

theorem counterOf_eq_applied_iff {effect : Effect} {kind : String} :
    settings.counterOf currency items effect = .applied kind ↔
      effect.kind = kind ∧ ¬effect.lacksItem items ∧ ¬settings.overflows currency effect := by
  unfold counterOf
  split
  · rename_i hlacks
    simp [hlacks]
  · rename_i hitem
    split
    · rename_i hoverflows
      simp [hoverflows]
    · rename_i hfits
      simp [hitem, hfits]

theorem counterOf_eq_skipped_iff {effect : Effect} {reason : String} :
    settings.counterOf currency items effect = .skipped reason ↔
      effect.lacksItem items ∧ "MalformedEffect" = reason ∨
        ¬effect.lacksItem items ∧ settings.overflows currency effect ∧
          "MoneyOverflow" = reason := by
  unfold counterOf
  split
  · rename_i hlacks
    simp [hlacks]
  · rename_i hitem
    split
    · rename_i hoverflows
      simp [hitem, hoverflows]
    · rename_i hfits
      simp [hitem, hfits]

-- ---------------------------------------------------------------------------
-- An update
-- ---------------------------------------------------------------------------

/-- What reading entries and carrying out their effects counts. -/
def updateTally (settings : Settings) (cart : Cart) (session : Session) (entries : List Json) :
    Tally :=
  let (effects, tally) := Effect.ofEntries entries
  tally ++ (settings.cartUpdate cart session effects).tally

theorem raised_updateTally (settings : Settings) (cart : Cart) (session : Session)
    (entries : List Json) (accept : Counter → Bool) :
    (settings.updateTally cart session entries).raised accept =
      (entries.countP fun entry =>
        Effect.isUnknown entry && accept (.skipped "UnsupportedEffectKind") ||
          Effect.isUnreadable entry && accept (.skipped "MalformedEffect")) +
      entries.countP fun entry => (Effect.recognized? entry).any fun effect =>
        accept (settings.counterOf cart.currency session.items effect) := by
  have happlied : (settings.cartUpdate cart session (Effect.ofEntries entries).1).tally =
      (settings.applyEffects cart.currency session.items 0 (settings.initialDraft cart)
        (Effect.ofEntries entries).1).2 := rfl
  rw [updateTally, Tally.raised_append, Effect.raised_ofEntries, happlied, raised_applyEffects,
    Effect.ofEntries_fst, List.countP_filterMap]
  refine congrArg (_ + ·) (List.countP_congr fun entry _ => ?_)
  cases Effect.recognized? entry <;> simp

/-- Every entry that is no gap raises one counter by one. An effect that is recognized counts as
carried out for its kind, unless its item is missing or its amount too great. Entries of a kind that
is not known are counted together, and so are those that cannot be read, with the discounts on items
that the session does not have. Of the other discounts, those whose amount does not fit 64 bits are
counted. -/
theorem counts_of_update (settings : Settings) (cart : Cart) (session : Session)
    (entries : List Json) :
    let tally := settings.updateTally cart session entries
    let lacksItem := Effect.lacksItem session.items
    let overflows := settings.overflows cart.currency
    tally.raised Counter.isOfEffects = entries.countP (!·.isNull) ∧
      (∀ kind, tally.count (.applied kind) = entries.countP fun entry =>
        Effect.kindOf? entry = some kind &&
          (Effect.recognized? entry).any fun effect => !lacksItem effect && !overflows effect) ∧
      tally.count (.skipped "UnsupportedEffectKind") = entries.countP Effect.isUnknown ∧
      tally.count (.skipped "MalformedEffect") =
        entries.countP Effect.isUnreadable +
          entries.countP (fun entry => (Effect.recognized? entry).any lacksItem) ∧
      tally.count (.skipped "MoneyOverflow") = entries.countP fun entry =>
        (Effect.recognized? entry).any fun effect => !lacksItem effect && overflows effect := by
  intro tally lacksItem overflows
  refine ⟨?_, ?_, ?_, ?_, ?_⟩
  · have hskipped : ∀ reason, (Counter.skipped reason).isOfEffects = true := fun _ => rfl
    rw [raised_updateTally]
    simp only [isOfEffects_counterOf, hskipped, Bool.and_true]
    exact countP_add_countP Effect.one_of_not_isNull
  · intro kind
    rw [Tally.count_eq_raised, raised_updateTally]
    simp only [reduceCtorEq, decide_false, Bool.and_false, Bool.or_false, List.countP_false,
      Function.const_apply, Nat.zero_add]
    refine List.countP_congr fun entry _ => ?_
    cases heffect : Effect.recognized? entry with
    | none => simp
    | some effect =>
      simp [Effect.kindOf?_of_recognized? heffect, counterOf_eq_applied_iff, lacksItem, overflows]
  · rw [Tally.count_eq_raised, raised_updateTally]
    simp [counterOf_eq_skipped_iff]
  · rw [Tally.count_eq_raised, raised_updateTally]
    simp [counterOf_eq_skipped_iff, lacksItem]
  · rw [Tally.count_eq_raised, raised_updateTally]
    simp [counterOf_eq_skipped_iff, lacksItem, overflows]

end Settings

end Promotion
