import Promotion.Proofs.EffectCounts
import Promotion.Proofs.Nearest

/-!
# One discount among the effects

A discount is met after some effects and before others. It either adds one line, with the amount
rounded as the settings say, or leaves the draft as it is and is counted as left out
(`Settings.discount_carried_out_or_left_out`).
-/

namespace Promotion

theorem Effect.isDiscount_of_discountValue? {effect : Effect} {value : Decimal}
    (h : effect.discountValue? = some value) : effect.isDiscount := by
  cases effect with
  | setDiscount discount => rfl
  | setDiscountPerItem discount => rfl
  | _ => cases h

namespace Settings

variable {settings : Settings} {currency : String} {items : List SessionItem} {index : Nat}
  {draft : Draft} {claimed : List String} {effect : Effect} {value : Decimal}

-- ---------------------------------------------------------------------------
-- Runs
-- ---------------------------------------------------------------------------

variable (settings currency items index draft)

/-- A run can be cut anywhere: the second part goes on with the draft and the numbers that the first
has reached. -/
theorem applyEffects_append (before after : List Effect) :
    settings.applyEffects currency items index draft (before ++ after) =
      let met := settings.applyEffects currency items index draft before
      let rest := settings.applyEffects currency items (index + before.length) met.1 after
      (rest.1, met.2 ++ rest.2) := by
  induction before generalizing index draft with
  | nil => rfl
  | cons first before ih =>
    have hindex : index + 1 + before.length = index + (first :: before).length := by
      rw [List.length_cons]
      omega
    simp only [List.cons_append, applyEffects]
    cases settings.applyEffect currency items index draft first with
    | ok next => simp only [ih, hindex, List.append_assoc]
    | error failure => simp only [ih, hindex, List.append_assoc]

/-- The last effect of a run changes what the others have left, and raises one counter. -/
theorem applyEffects_concat (before : List Effect) (effect : Effect) :
    settings.applyEffects currency items index draft (before ++ [effect]) =
      let met := settings.applyEffects currency items index draft before
      (settings.afterEffect currency items (index + before.length) met.1 effect,
        met.2 ++ Tally.one (settings.counterOf currency items effect)) := by
  rw [applyEffects_append]
  simp only [← ofResult_applyEffect (index + before.length)
    (settings.applyEffects currency items index draft before).1 effect, applyEffects, afterEffect]
  cases settings.applyEffect currency items (index + before.length)
    (settings.applyEffects currency items index draft before).1 effect <;> rfl

variable {settings currency items index draft}

-- ---------------------------------------------------------------------------
-- Lines
-- ---------------------------------------------------------------------------

theorem discountLine?_of_lacksItem (h : effect.lacksItem items) :
    settings.discountLine? currency items index claimed effect = none := by
  cases effect with
  | setDiscountPerItem discount =>
    have hge : items.length ≤ discount.position := by simpa [Effect.lacksItem] using h
    rw [discountLine?, List.getElem?_eq_none hge, Option.bind_none]
  | _ => cases h

/-- The line of a discount whose item is there is a single piece of its amount. -/
theorem exists_discountLine?_eq (hvalue : effect.discountValue? = some value)
    (hitem : ¬effect.lacksItem items) :
    ∃ name slug tax custom, settings.discountLine? currency items index claimed effect =
      (settings.deduction currency value).toOption.map fun money =>
        (.addCustomLineItem name 1 money slug tax custom, slug) := by
  cases effect with
  | setDiscount discount =>
    cases hvalue
    exact ⟨_, _, _, _, rfl⟩
  | setDiscountPerItem discount =>
    cases hvalue
    have hlt : discount.position < items.length := by simpa [Effect.lacksItem] using hitem
    rw [discountLine?, List.getElem?_eq_getElem hlt, Option.bind_some]
    exact ⟨_, _, _, _, rfl⟩
  | _ => cases hvalue

/-- A discount takes off the nearest number of smallest units. -/
theorem nearest_neg_deductedUnits (settings : Settings) (currency : String) (value : Decimal) :
    settings.rounding.Nearest (value.toRat * 10 ^ fractionDigits currency)
      (-settings.deductedUnits currency value) := by
  have hnearest := value.negate.nearest_inUnits_roundTo settings.rounding (fractionDigits currency)
  rw [← neg_neg (value.toRat * _), ← neg_mul, ← Decimal.toRat_negate]
  exact hnearest.neg

-- ---------------------------------------------------------------------------
-- One step
-- ---------------------------------------------------------------------------

variable (settings currency index draft)

theorem afterEffect_of_lacksItem (hvalue : effect.discountValue? = some value)
    (hlacks : effect.lacksItem items) :
    settings.afterEffect currency items index draft effect = draft := by
  rw [afterEffect_discount (Effect.isDiscount_of_discountValue? hvalue),
    discountLine?_of_lacksItem hlacks]

theorem afterEffect_of_overflows (hvalue : effect.discountValue? = some value)
    (hitem : ¬effect.lacksItem items) (hoverflows : settings.overflows currency effect) :
    settings.afterEffect currency items index draft effect = draft := by
  obtain ⟨name, slug, tax, custom, hline⟩ := exists_discountLine?_eq hvalue hitem
  rw [afterEffect_discount (Effect.isDiscount_of_discountValue? hvalue), hline,
    deduction_eq hvalue, if_pos hoverflows]
  rfl

theorem exists_afterEffect_eq (hvalue : effect.discountValue? = some value)
    (hitem : ¬effect.lacksItem items) (hfits : ¬settings.overflows currency effect) :
    ∃ name slug tax custom,
      settings.afterEffect currency items index draft effect =
        { draft with
          actions := draft.actions ++
            [.addCustomLineItem name 1
              ⟨"centPrecision", currency, settings.deductedUnits currency value,
                fractionDigits currency⟩ slug tax custom]
          slugs := draft.slugs ++ [slug] } := by
  obtain ⟨name, slug, tax, custom, hline⟩ := exists_discountLine?_eq hvalue hitem
  refine ⟨name, slug, tax, custom, ?_⟩
  rw [afterEffect_discount (Effect.isDiscount_of_discountValue? hvalue), hline,
    deduction_eq hvalue, if_neg hfits]
  rfl

variable {settings currency index draft}

/-- Wherever a discount is met, the update goes on with what it leaves. Its value in smallest units
is rounded to the nearest whole number `n`, and `-n` is the amount. If its item is missing, or else
if the amount does not fit 64 bits, it is counted as left out for that reason and the draft is the
one before it. Otherwise one line of that amount is added and its slug taken. -/
theorem discount_carried_out_or_left_out (settings : Settings) (cart : Cart) (session : Session)
    (before after : List Effect) {effect : Effect} {value : Decimal}
    (hvalue : effect.discountValue? = some value) :
    let run := settings.applyEffects cart.currency session.items
    let met := run 0 (settings.initialDraft cart) before
    let next := run 0 (settings.initialDraft cart) (before ++ [effect])
    let rest := run (before.length + 1) next.1 after
    let digits := fractionDigits cart.currency
    settings.cartUpdate cart session (before ++ effect :: after) =
        ⟨finish rest.1, rest.1.customer, next.2 ++ rest.2⟩ ∧
      ∃ n : ℤ,
        (∀ m, settings.rounding.Nearest (value.toRat * 10 ^ digits) m ↔ m = n) ∧
        (effect.lacksItem session.items →
          next = (met.1, met.2 ++ Tally.one (.skipped "MalformedEffect"))) ∧
        (¬effect.lacksItem session.items → ¬(-2 ^ 63 ≤ -n ∧ -n < 2 ^ 63) →
          next = (met.1, met.2 ++ Tally.one (.skipped "MoneyOverflow"))) ∧
        (¬effect.lacksItem session.items → -2 ^ 63 ≤ -n ∧ -n < 2 ^ 63 →
          ∃ name slug tax custom,
            next =
              ({ met.1 with
                  actions := met.1.actions ++
                    [.addCustomLineItem name 1 ⟨"centPrecision", cart.currency, -n, digits⟩ slug
                      tax custom]
                  slugs := met.1.slugs ++ [slug] },
                met.2 ++ Tally.one (.applied effect.kind))) := by
  intro run met next rest digits
  have hnext : next =
      (settings.afterEffect cart.currency session.items before.length met.1 effect,
        met.2 ++ Tally.one (settings.counterOf cart.currency session.items effect)) := by
    have hconcat := settings.applyEffects_concat cart.currency session.items 0
      (settings.initialDraft cart) before effect
    rw [Nat.zero_add] at hconcat
    exact hconcat
  refine ⟨?_, -settings.deductedUnits cart.currency value, ?_, ?_, ?_, ?_⟩
  · have hrun : run 0 (settings.initialDraft cart) (before ++ effect :: after) =
        (rest.1, next.2 ++ rest.2) := by
      have happend := settings.applyEffects_append cart.currency session.items 0
        (settings.initialDraft cart) (before ++ [effect]) after
      rw [List.append_assoc, List.singleton_append, List.length_append, List.length_singleton,
        Nat.zero_add] at happend
      exact happend
    exact congrArg (fun r : Draft × Tally => CartUpdate.mk (finish r.1) r.1.customer r.2) hrun
  · intro m
    have hnearest := nearest_neg_deductedUnits settings cart.currency value
    exact ⟨fun hm => hm.unique hnearest, fun heq => heq ▸ hnearest⟩
  · intro hlacks
    rw [hnext, afterEffect_of_lacksItem _ _ _ _ hvalue hlacks, counterOf, if_pos hlacks]
  · intro hitem hgreat
    rw [neg_neg] at hgreat
    have hoverflows := (overflows_iff hvalue).mpr hgreat
    rw [hnext, afterEffect_of_overflows _ _ _ _ hvalue hitem hoverflows, counterOf, if_neg hitem,
      if_pos hoverflows]
  · intro hitem hrange
    rw [neg_neg] at hrange ⊢
    have hfits : ¬settings.overflows cart.currency effect :=
      fun hoverflows => (overflows_iff hvalue).mp hoverflows hrange
    obtain ⟨name, slug, tax, custom, hafter⟩ :=
      settings.exists_afterEffect_eq cart.currency before.length met.1 hvalue hitem hfits
    refine ⟨name, slug, tax, custom, ?_⟩
    rw [hnext, hafter, counterOf, if_neg hitem, if_neg hfits]

/-- In a currency without decimals and with halves going towards zero, twelve and a half come off an
item as twelve, after a coupon and a discount that is too great. -/
theorem discount_of_half_towards_zero :
    let settings : Settings :=
      ⟨⟨.variantSku, '_'⟩, .halfDown, "en", none, none, [], [], [], ⟨"line", "cart", "customer"⟩⟩
    let cart : Cart := ⟨"cart-1", none, none, ⟨"JPY", 3000⟩, [], [], none⟩
    let session : Session :=
      ⟨"customer-1", .opened, [], none, [⟨"Shirt", "shirt-1", 1, .ofInt 3000, []⟩], []⟩
    let value : Decimal := ⟨false, 125, 1, by decide, by decide⟩
    let effect : Effect := .setDiscountPerItem ⟨"Sale", value, 0⟩
    let before : List Effect :=
      [.acceptCoupon "WELCOME", .setDiscount ⟨"Sale", .ofInt (2 ^ 63 + 1)⟩]
    let run := settings.applyEffects cart.currency session.items 0 (settings.initialDraft cart)
    effect.discountValue? = some value ∧
      ∃ name slug tax custom,
        run (before ++ [effect]) =
          ({ (run before).1 with
              actions := (run before).1.actions ++
                [.addCustomLineItem name 1 ⟨"centPrecision", "JPY", -12, 0⟩ slug tax custom]
              slugs := (run before).1.slugs ++ [slug] },
            (run before).2 ++ Tally.one (.applied "setDiscountPerItem")) := by
  intro settings cart session value effect before run
  have hvalue : effect.discountValue? = some value := rfl
  obtain ⟨-, n, hnearest, -, -, hline⟩ :=
    discount_carried_out_or_left_out settings cart session before [] hvalue
  have hhalf : value.toRat * 10 ^ fractionDigits "JPY" = (12 : ℕ) + 1 / 2 := by
    norm_num [value, Decimal.toRat, Decimal.signed, fractionDigits]
  have hn : (12 : ℤ) = n := (hnearest 12).mp (hhalf ▸ RoundingMode.halfDown.nearest_half 12)
  subst hn
  exact ⟨hvalue, hline (by decide) (by decide)⟩

end Settings

end Promotion
