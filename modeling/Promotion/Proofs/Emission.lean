import Mathlib.Data.List.ReduceOption
import Promotion.Update

/-!
# What effects emit

Every effect of a cart's session emits at most one action: a discount its line, a coupon the change
of the coupon's field, the first gift of an identity a line item with all pieces of that gift. The
other effects emit nothing; four kinds of them contribute to the cart's aggregate instead. The
module ties these rules to the drafts that effects are applied to one after another
(`actions_afterEffects`, `cart_position_afterEffects`).
-/

namespace Promotion

-- ---------------------------------------------------------------------------
-- Contributions
-- ---------------------------------------------------------------------------

def Effect.contributes : Effect → Bool
  | showNotification _ | loyaltyPoints _ _ | acceptReferral _ | rejectReferral _ _ => true
  | _ => false

def Effect.isDiscount : Effect → Bool
  | setDiscount _ | setDiscountPerItem _ => true
  | _ => false

/-- Cases on an effect in which both kinds of discounts are one. -/
@[elab_as_elim]
theorem Effect.discountCases {motive : Effect → Prop}
    (discount : ∀ effect, effect.isDiscount → motive effect)
    (addFreeItem : ∀ item, motive (.addFreeItem item))
    (acceptCoupon : ∀ code, motive (.acceptCoupon code))
    (rejectCoupon : ∀ code reason, motive (.rejectCoupon code reason))
    (showNotification : ∀ notification, motive (.showNotification notification))
    (loyaltyPoints : ∀ operation points, motive (.loyaltyPoints operation points))
    (acceptReferral : ∀ code, motive (.acceptReferral code))
    (rejectReferral : ∀ code reason, motive (.rejectReferral code reason))
    (referralCreated : ∀ code, motive (.referralCreated code)) (effect : Effect) :
    motive effect := by
  cases effect with
  | setDiscount _ => exact discount _ rfl
  | setDiscountPerItem _ => exact discount _ rfl
  | addFreeItem item => exact addFreeItem item
  | acceptCoupon code => exact acceptCoupon code
  | rejectCoupon code reason => exact rejectCoupon code reason
  | showNotification notification => exact showNotification notification
  | loyaltyPoints operation points => exact loyaltyPoints operation points
  | acceptReferral code => exact acceptReferral code
  | rejectReferral code reason => exact rejectReferral code reason
  | referralCreated code => exact referralCreated code

/-- The cart's aggregate after an effect before which `place` actions stand. -/
def Aggregate.gather (place : Nat) (a : Aggregate) : Effect → Aggregate
  | .showNotification notification => (a.atPosition place).addNotification notification
  | .loyaltyPoints operation points => (a.atPosition place).addLoyaltyPoints operation points
  | .acceptReferral code => (a.atPosition place).setReferralCode code
  | .rejectReferral _ _ => (a.atPosition place).removeReferralCode
  | _ => a

theorem Aggregate.gather_of_isDiscount {effect : Effect} (h : effect.isDiscount) (place : Nat)
    (a : Aggregate) : a.gather place effect = a := by
  cases effect with
  | setDiscount discount => rfl
  | setDiscountPerItem discount => rfl
  | _ => cases h

/-- Only the first contribution has a say in the place. -/
theorem Aggregate.position_gather (place : Nat) (a : Aggregate) (effect : Effect) :
    (a.gather place effect).position =
      a.position.or (if effect.contributes then some place else none) := by
  cases hposition : a.position <;> cases effect <;>
    simp [gather, Effect.contributes, atPosition, addNotification, addLoyaltyPoints,
      setReferralCode, removeReferralCode, hposition]

theorem Aggregate.isEmpty_gather (place : Nat) (a : Aggregate) (effect : Effect) :
    (a.gather place effect).isEmpty = (a.isEmpty && !effect.contributes) := by
  cases effect <;>
    simp [gather, Effect.contributes, isEmpty, atPosition, addNotification, addLoyaltyPoints,
      setReferralCode, removeReferralCode]

/-- More pieces of the gifts that an action adds. -/
def Action.addPieces (more : Identity → Nat) : Action → Action
  | addLineItem identity pieces custom => addLineItem identity (pieces + more identity) custom
  | action => action

def Action.gift? : Action → Option Identity
  | addLineItem identity _ _ => some identity
  | _ => none

/-- The gift that each action of a draft adds. -/
def Draft.addedGifts (draft : Draft) : List (Option Identity) :=
  draft.actions.map Action.gift?

/-- A draft knows the place of each gift's line item, and has none but those of the gifts `met`. -/
structure Draft.Tracks (draft : Draft) (met : List Identity) : Prop where
  place : ∀ identity index,
    draft.gifts.lookup identity = some index ↔ draft.addedGifts[index]? = some (some identity)
  known : ∀ identity, identity ∈ met ↔ (draft.gifts.lookup identity).isSome

@[simp] theorem Action.gift?_addPieces (more : Identity → Nat) (action : Action) :
    (action.addPieces more).gift? = action.gift? := by
  cases action <;> rfl

theorem Action.addPieces_addPieces (f g : Identity → Nat) (action : Action) :
    (action.addPieces f).addPieces g = action.addPieces fun identity => f identity + g identity := by
  cases action <;> simp [addPieces, Nat.add_assoc]

/-- What is known of places stays known under actions that add no gift. -/
theorem Draft.Tracks.mono {draft next : Draft} {met : List Identity} (h : draft.Tracks met)
    (hgifts : next.gifts = draft.gifts) {others : List (Option Identity)}
    (hadded : next.addedGifts = draft.addedGifts ++ others) (hothers : ∀ gift ∈ others, gift = none) :
    next.Tracks met := by
  refine ⟨?_, ?_⟩
  · intro identity index
    rw [hgifts, h.place, hadded]
    rcases Nat.lt_or_ge index draft.addedGifts.length with hlt | hge
    · rw [List.getElem?_append_left hlt]
    · rw [List.getElem?_append_right hge, List.getElem?_eq_none hge]
      refine ⟨nofun, fun hsome => ?_⟩
      cases hothers _ (List.mem_of_getElem? hsome)
  · rw [hgifts]
    exact h.known

/-- A new gift is known in the place after all others. -/
theorem Draft.Tracks.concat {draft next : Draft} {met : List Identity} {identity : Identity}
    (h : draft.Tracks met) (hnew : draft.gifts.lookup identity = none)
    (hgifts : next.gifts = draft.gifts ++ [(identity, draft.actions.length)])
    (hadded : next.addedGifts = draft.addedGifts ++ [some identity]) :
    next.Tracks (met ++ [identity]) := by
  have hlength : draft.addedGifts.length = draft.actions.length := List.length_map _
  have hlookup : ∀ other, next.gifts.lookup other =
      if other = identity then some draft.actions.length else draft.gifts.lookup other := by
    intro other
    rw [hgifts, List.lookup_append]
    by_cases heq : other = identity
    · subst heq
      simp [hnew]
    · rw [if_neg heq, List.lookup_cons, beq_false_of_ne heq]
      exact Option.or_none
  refine ⟨?_, ?_⟩
  · intro other index
    rw [hlookup, hadded]
    rcases Nat.lt_or_ge index draft.addedGifts.length with hlt | hge
    · rw [List.getElem?_append_left hlt, ← h.place]
      by_cases heq : other = identity
      · subst heq
        simp only [if_true, hnew, Option.some.injEq, reduceCtorEq, iff_false]
        omega
      · rw [if_neg heq]
    · have hold : draft.gifts.lookup other ≠ some index := by
        rw [Ne, h.place, List.getElem?_eq_none hge]
        exact nofun
      rw [List.getElem?_append_right hge, List.getElem?_singleton]
      by_cases heq : other = identity
      · subst heq
        simp only [if_true, Option.some.injEq]
        split <;> simp <;> omega
      · rw [if_neg heq]
        refine iff_of_false hold ?_
        split
        · simpa using fun hsame => heq hsame.symm
        · exact nofun
  · intro other
    rw [List.mem_append, h.known, hlookup, List.mem_singleton]
    by_cases heq : other = identity
    · simp [heq]
    · simp [heq]

namespace Settings

variable (settings : Settings) (currency : String) (items : List SessionItem)

-- ---------------------------------------------------------------------------
-- Emissions
-- ---------------------------------------------------------------------------

/-- The amount of a line that takes `value` off. -/
def deduction (value : Decimal) : Except MoneyFault CentMoney :=
  ((Money.of .decimal currency value).roundedWith settings.rounding).negate.toCents

/-- The custom line that takes `value` off, and its slug: the first free one made of the slug that
is wanted. There is no line where the amount overflows. -/
def deductionLine? (name : String) (value : Decimal) (wanted : String)
    (fields : List (String × Json)) (claimed : List String) : Option (Action × String) :=
  (settings.deduction currency value).toOption.map fun money =>
    (.addCustomLineItem [(settings.language, name)] 1 money (Slug.claim claimed wanted)
      (settings.discountTaxCategory.map fun id => ⟨id, "tax-category"⟩)
      (some (settings.lineFields fields)), Slug.claim claimed wanted)

/-- The line of a discount and its slug, where the discount does not fail. -/
def discountLine? (index : Nat) (claimed : List String) : Effect → Option (Action × String)
  | .setDiscount discount =>
    settings.deductionLine? currency discount.name discount.value
      (Slug.ofPromotion discount.name index) [(promotionNameField, .string discount.name)] claimed
  | .setDiscountPerItem discount =>
    items[discount.position]?.bind fun item =>
      settings.deductionLine? currency discount.name discount.value
        (Slug.numbered (Slug.ofPromotion discount.name index) discount.position)
        [(promotionNameField, .string discount.name), (lineItemSkuField, .string item.sku)] claimed
  | _ => none

def giftIdentity? : Effect → Option Identity
  | .addFreeItem item => some (settings.resolver.decode item.sku)
  | _ => none

def giftPieces (effects : List Effect) (identity : Identity) : Nat :=
  effects.countP fun effect => settings.giftIdentity? effect = some identity

def giftLine (identity : Identity) (pieces : Nat) (name : String) : Action :=
  .addLineItem identity pieces
    (some (settings.lineFields [(freeItemField, .bool true), (promotionNameField, .string name)]))

/-- What an effect emits when the slugs `claimed` and the gifts `met` have come before it. -/
def emission (pieces : Identity → Nat) (index : Nat) (claimed : List String) (met : List Identity) :
    Effect → Option Action
  | .setDiscount discount =>
    (settings.discountLine? currency items index claimed (.setDiscount discount)).map (·.1)
  | .setDiscountPerItem discount =>
    (settings.discountLine? currency items index claimed (.setDiscountPerItem discount)).map (·.1)
  | .addFreeItem item =>
    let identity := settings.resolver.decode item.sku
    if identity ∈ met then none else some (settings.giftLine identity (pieces identity) item.name)
  | .acceptCoupon code => some (.setCustomField couponCodeField (some (.string code)))
  | .rejectCoupon _ _ => some (.setCustomField couponCodeField none)
  | _ => none

/-- What effects emit, one entry for each of them. -/
def emissions (pieces : Identity → Nat) (index : Nat) (claimed : List String)
    (met : List Identity) : List Effect → List (Option Action)
  | [] => []
  | effect :: rest =>
    settings.emission currency items pieces index claimed met effect ::
      emissions pieces (index + 1)
        (claimed ++ ((settings.discountLine? currency items index claimed effect).map (·.2)).toList)
        (met ++ (settings.giftIdentity? effect).toList) rest

/-- What all effects of a cart's session emit, one entry for each of them. -/
def emitted (effects : List Effect) : List (Option Action) :=
  settings.emissions currency items (settings.giftPieces effects) 0 [] [] effects

-- ---------------------------------------------------------------------------
-- Drafts after effects
-- ---------------------------------------------------------------------------

/-- The draft after an effect. One that fails leaves it as it is. -/
def afterEffect (index : Nat) (draft : Draft) (effect : Effect) : Draft :=
  match settings.applyEffect currency items index draft effect with
  | .ok draft => draft
  | .error _ => draft

/-- The draft after effects numbered from `index` on. -/
def afterEffects (index : Nat) (draft : Draft) : List Effect → Draft
  | [] => draft
  | effect :: rest =>
    afterEffects (index + 1) (settings.afterEffect currency items index draft effect) rest

theorem applyEffects_fst (index : Nat) (draft : Draft) (effects : List Effect) :
    (settings.applyEffects currency items index draft effects).1 =
      settings.afterEffects currency items index draft effects := by
  induction effects generalizing index draft with
  | nil => rfl
  | cons effect rest ih =>
    simp only [applyEffects, afterEffects, afterEffect]
    cases settings.applyEffect currency items index draft effect with
    | ok next => exact ih (index + 1) next
    | error failure => exact ih (index + 1) draft

-- ---------------------------------------------------------------------------
-- One effect
-- ---------------------------------------------------------------------------

variable {settings currency items} {index : Nat} {draft : Draft} {effect : Effect}
  {met : List Identity} {claimed : List String}

/-- A discount's line can be made unless its amount overflows. -/
theorem toOption_discountLine (name : String) (value : Decimal) (wanted : String)
    (fields : List (String × Json)) :
    (settings.discountLine name value currency wanted fields claimed).toOption =
      settings.deductionLine? currency name value wanted fields claimed := by
  unfold discountLine deductionLine? deduction
  cases ((Money.of .decimal currency value).roundedWith settings.rounding).negate.toCents <;> rfl

/-- A discount either adds its line and takes its slug, or does nothing at all. -/
theorem afterEffect_discount (h : effect.isDiscount) :
    settings.afterEffect currency items index draft effect =
      match settings.discountLine? currency items index draft.slugs effect with
      | some (line, slug) =>
        { draft with actions := draft.actions ++ [line], slugs := draft.slugs ++ [slug] }
      | none => draft := by
  cases effect with
  | setDiscount discount =>
    simp only [afterEffect, applyEffect, addDiscount, discountLine?, ← toOption_discountLine,
      addLine]
    cases settings.discountLine discount.name discount.value currency
      (Slug.ofPromotion discount.name index) [(promotionNameField, .string discount.name)]
      draft.slugs <;> rfl
  | setDiscountPerItem discount =>
    simp only [afterEffect, applyEffect, addItemDiscount, discountLine?, ← toOption_discountLine,
      addLine]
    cases items[discount.position]? with
    | none => rfl
    | some item =>
      simp only [Option.bind_some]
      cases settings.discountLine discount.name discount.value currency
        (Slug.numbered (Slug.ofPromotion discount.name index) discount.position)
        [(promotionNameField, .string discount.name), (lineItemSkuField, .string item.sku)]
        draft.slugs <;> rfl
  | _ => cases h

theorem emission_discount (h : effect.isDiscount) (pieces : Identity → Nat) :
    settings.emission currency items pieces index claimed met effect =
      (settings.discountLine? currency items index claimed effect).map (·.1) := by
  cases effect with
  | setDiscount discount => rfl
  | setDiscountPerItem discount => rfl
  | _ => cases h

theorem giftIdentity?_of_isDiscount (h : effect.isDiscount) :
    settings.giftIdentity? effect = none := by
  cases effect with
  | setDiscount discount => rfl
  | setDiscountPerItem discount => rfl
  | _ => cases h

/-- A discount's line is one piece of the amount that is taken off. The slug wanted for it is that
of the promotion, for an item of the session with the item's position at its end. -/
theorem exists_wanted_of_discountLine? {line : Action} {slug : String}
    (h : settings.discountLine? currency items index claimed effect = some (line, slug)) :
    ∃ name value money tax custom wanted,
      line = .addCustomLineItem name 1 money slug tax custom ∧
        (settings.deduction currency value).toOption = some money ∧
        slug = Slug.claim claimed wanted ∧
        ∃ promotion, wanted = Slug.ofPromotion promotion index ∨
          ∃ position < items.length,
            wanted = Slug.numbered (Slug.ofPromotion promotion index) position := by
  cases effect with
  | setDiscount discount =>
    obtain ⟨money, hmoney, heq⟩ := Option.map_eq_some_iff.mp h
    cases heq
    exact ⟨_, _, _, _, _, _, rfl, hmoney, rfl, _, .inl rfl⟩
  | setDiscountPerItem discount =>
    obtain ⟨item, hitem, h⟩ := Option.bind_eq_some_iff.mp h
    obtain ⟨money, hmoney, heq⟩ := Option.map_eq_some_iff.mp h
    cases heq
    obtain ⟨hposition, -⟩ := List.getElem?_eq_some_iff.mp hitem
    exact ⟨_, _, _, _, _, _, rfl, hmoney, rfl, _, .inr ⟨_, hposition, rfl⟩⟩
  | _ => cases h

/-- The line of a discount is a line and no line item. -/
theorem discountLine?_eq_some {line : Action} {slug : String}
    (h : settings.discountLine? currency items index claimed effect = some (line, slug)) :
    ∃ name money tax custom, line = .addCustomLineItem name 1 money slug tax custom := by
  obtain ⟨_, _, _, _, _, _, hline, -⟩ := exists_wanted_of_discountLine? h
  exact ⟨_, _, _, _, hline⟩

theorem afterEffect_slugs :
    (settings.afterEffect currency items index draft effect).slugs =
      draft.slugs ++
        ((settings.discountLine? currency items index draft.slugs effect).map (·.2)).toList := by
  cases effect using Effect.discountCases with
  | discount effect hdiscount =>
    rw [afterEffect_discount hdiscount]
    cases settings.discountLine? currency items index draft.slugs effect <;> simp
  | addFreeItem item =>
    simp only [afterEffect, applyEffect, addGift, discountLine?]
    split <;> simp
  | _ => simp [afterEffect, applyEffect, discountLine?, addAction, contribute]

theorem afterEffect_cart :
    (settings.afterEffect currency items index draft effect).cart =
      draft.cart.gather draft.actions.length effect := by
  cases effect using Effect.discountCases with
  | discount effect hdiscount =>
    rw [afterEffect_discount hdiscount, Aggregate.gather_of_isDiscount hdiscount]
    cases settings.discountLine? currency items index draft.slugs effect <;> rfl
  | addFreeItem item =>
    simp only [afterEffect, applyEffect, addGift]
    split <;> rfl
  | _ => rfl

/-- What is emitted: a line, a gift's line item or a change of the coupon's field. -/
theorem emission_cases {pieces : Identity → Nat} {action : Action}
    (h : settings.emission currency items pieces index claimed met effect = some action) :
    (∃ slug, settings.discountLine? currency items index claimed effect = some (action, slug)) ∨
      (∃ identity name, action = settings.giftLine identity (pieces identity) name) ∨
      (∃ value, action = .setCustomField couponCodeField value) := by
  cases effect using Effect.discountCases with
  | discount effect hdiscount =>
    rw [emission_discount hdiscount] at h
    obtain ⟨⟨line, slug⟩, hline, rfl⟩ := Option.map_eq_some_iff.mp h
    exact .inl ⟨slug, hline⟩
  | addFreeItem item =>
    simp only [emission] at h
    split at h
    · cases h
    · exact .inr (.inl ⟨_, _, (Option.some.inj h).symm⟩)
  | acceptCoupon code => exact .inr (.inr ⟨_, (Option.some.inj h).symm⟩)
  | rejectCoupon code reason => exact .inr (.inr ⟨_, (Option.some.inj h).symm⟩)
  | _ => cases h

theorem reduceOption_emissions_cons {pieces : Identity → Nat} (effect : Effect)
    (rest : List Effect) :
    (settings.emissions currency items pieces index claimed met (effect :: rest)).reduceOption =
      (settings.emission currency items pieces index claimed met effect).toList ++
        (settings.emissions currency items pieces (index + 1)
          (claimed ++
            ((settings.discountLine? currency items index claimed effect).map (·.2)).toList)
          (met ++ (settings.giftIdentity? effect).toList) rest).reduceOption := by
  rw [emissions]
  cases settings.emission currency items pieces index claimed met effect <;> simp

/-- Whatever is emitted is emitted by one of the effects. -/
theorem exists_emission_of_mem {pieces : Identity → Nat} {action : Action} {effects : List Effect}
    (h : action ∈ (settings.emissions currency items pieces index claimed met effects).reduceOption) :
    ∃ effect ∈ effects, ∃ index claimed met,
      settings.emission currency items pieces index claimed met effect = some action := by
  rw [List.reduceOption_mem_iff] at h
  induction effects generalizing index claimed met with
  | nil => cases h
  | cons effect rest ih =>
    rcases List.mem_cons.mp h with hfirst | hrest
    · exact ⟨effect, List.mem_cons_self, _, _, _, hfirst.symm⟩
    · obtain ⟨later, hlater, hemission⟩ := ih hrest
      exact ⟨later, List.mem_cons_of_mem _ hlater, hemission⟩

-- ---------------------------------------------------------------------------
-- Gifts
-- ---------------------------------------------------------------------------

/-- An action that an effect emits adds the gift that the effect asks for. -/
theorem gift?_of_emission {pieces : Identity → Nat} {action : Action}
    (h : settings.emission currency items pieces index claimed met effect = some action) :
    action.gift? = settings.giftIdentity? effect := by
  cases effect using Effect.discountCases with
  | discount effect hdiscount =>
    rw [emission_discount hdiscount] at h
    obtain ⟨⟨line, slug⟩, hline, rfl⟩ := Option.map_eq_some_iff.mp h
    obtain ⟨_, _, _, _, rfl⟩ := discountLine?_eq_some hline
    exact (giftIdentity?_of_isDiscount hdiscount).symm
  | addFreeItem item =>
    simp only [emission] at h
    split at h
    · cases h
    · cases h
      rfl
  | acceptCoupon code =>
    cases h
    rfl
  | rejectCoupon code reason =>
    cases h
    rfl
  | _ => cases h

theorem emission_map_addPieces (f g : Identity → Nat) :
    (settings.emission currency items f index claimed met effect).map (Action.addPieces g) =
      settings.emission currency items (fun identity => f identity + g identity) index claimed met
        effect := by
  cases effect using Effect.discountCases with
  | discount effect hdiscount =>
    rw [emission_discount hdiscount, emission_discount hdiscount]
    cases hline : settings.discountLine? currency items index claimed effect with
    | none => rfl
    | some line =>
      obtain ⟨_, _, _, _, heq⟩ := discountLine?_eq_some hline
      simp [heq, Action.addPieces]
  | addFreeItem item =>
    simp only [emission]
    split <;> rfl
  | _ => rfl

/-- One piece more of a gift, where the draft knows its place. -/
theorem modify_onePieceMore (h : draft.Tracks met) {identity : Identity} {place : Nat}
    (hplace : draft.gifts.lookup identity = some place) :
    draft.actions.modify place onePieceMore =
      draft.actions.map (Action.addPieces fun other => if identity = other then 1 else 0) := by
  apply List.ext_getElem?
  intro j
  rw [List.getElem?_modify, List.getElem?_map]
  by_cases hj : place = j
  · subst hj
    have hthere := (h.place identity place).mp hplace
    rw [Draft.addedGifts, List.getElem?_map] at hthere
    obtain ⟨action, hget, hgift⟩ := Option.map_eq_some_iff.mp hthere
    cases action with
    | addLineItem other pieces custom =>
      cases hgift
      simp [hget, onePieceMore, Action.addPieces]
    | _ => cases hgift
  · simp only [if_neg hj]
    cases hget : draft.actions[j]? with
    | none => rfl
    | some action =>
      cases action with
      | addLineItem other pieces custom =>
        -- another gift's line item, since each gift has one place only
        have hne : identity ≠ other := by
          intro heq
          subst heq
          have hother := (h.place identity j).mpr (by simp [Draft.addedGifts, hget, Action.gift?])
          exact hj (Option.some.inj (hplace.symm.trans hother))
        simp [Action.addPieces, hne]
      | _ => rfl

/-- Pieces of a gift that has no line item change nothing. -/
theorem map_addPieces_of_notMem (h : draft.Tracks met) {identity : Identity}
    (hnew : identity ∉ met) :
    draft.actions.map (Action.addPieces fun other => if identity = other then 1 else 0) =
      draft.actions := by
  rw [List.map_eq_iff]
  intro j
  cases hget : draft.actions[j]? with
  | none => rfl
  | some action =>
    cases action with
    | addLineItem other pieces custom =>
      have hknown : other ∈ met := by
        rw [h.known, (h.place other j).mpr (by simp [Draft.addedGifts, hget, Action.gift?])]
        rfl
      have hne : identity ≠ other := fun heq => hnew (heq ▸ hknown)
      simp [Action.addPieces, hne]
    | _ => rfl

theorem afterEffect_actions (h : draft.Tracks met) :
    (settings.afterEffect currency items index draft effect).actions =
      draft.actions.map (Action.addPieces (settings.giftPieces [effect])) ++
        (settings.emission currency items (fun _ => 1) index draft.slugs met effect).toList := by
  have hnone : settings.giftIdentity? effect = none →
      draft.actions.map (Action.addPieces (settings.giftPieces [effect])) = draft.actions := by
    intro hgift
    have hid : Action.addPieces (settings.giftPieces [effect]) = id := by
      funext action
      cases action <;> simp [Action.addPieces, giftPieces, hgift]
    rw [hid, List.map_id]
  cases effect using Effect.discountCases with
  | discount effect hdiscount =>
    rw [afterEffect_discount hdiscount, emission_discount hdiscount,
      hnone (giftIdentity?_of_isDiscount hdiscount)]
    cases settings.discountLine? currency items index draft.slugs effect <;> simp
  | addFreeItem item =>
    have hone : settings.giftPieces [.addFreeItem item] =
        fun other => if settings.resolver.decode item.sku = other then 1 else 0 := by
      funext other
      simp [giftPieces, giftIdentity?, List.countP_cons]
    rw [hone]
    simp only [afterEffect, applyEffect, addGift, emission]
    cases hlookup : draft.gifts.lookup (settings.resolver.decode item.sku) with
    | some place =>
      have hmet : settings.resolver.decode item.sku ∈ met := by
        rw [h.known, hlookup]
        rfl
      simp [hmet, modify_onePieceMore h hlookup]
    | none =>
      have hmet : settings.resolver.decode item.sku ∉ met := by
        rw [h.known, hlookup]
        simp
      simp [hmet, map_addPieces_of_notMem h hmet, giftLine]
  | _ => simp [hnone rfl, afterEffect, applyEffect, addAction, contribute, emission]

/-- Only a new gift is remembered. -/
theorem afterEffect_gifts :
    (settings.afterEffect currency items index draft effect).gifts =
      draft.gifts ++
        ((settings.giftIdentity? effect).toList.filter fun identity =>
          (draft.gifts.lookup identity).isNone).map fun identity =>
            (identity, draft.actions.length) := by
  cases effect using Effect.discountCases with
  | discount effect hdiscount =>
    rw [afterEffect_discount hdiscount, giftIdentity?_of_isDiscount hdiscount]
    cases settings.discountLine? currency items index draft.slugs effect <;> simp
  | addFreeItem item =>
    simp only [afterEffect, applyEffect, addGift, giftIdentity?]
    cases hlookup : draft.gifts.lookup (settings.resolver.decode item.sku) <;> simp [hlookup]
  | _ => simp [afterEffect, applyEffect, addAction, contribute, giftIdentity?]

/-- A draft knows the places of its gifts after every effect. -/
theorem tracks_afterEffect (h : draft.Tracks met) :
    (settings.afterEffect currency items index draft effect).Tracks
      (met ++ (settings.giftIdentity? effect).toList) := by
  have hgifts : (settings.afterEffect currency items index draft effect).gifts = _ :=
    afterEffect_gifts
  have hadded : (settings.afterEffect currency items index draft effect).addedGifts =
      draft.addedGifts ++
        (settings.emission currency items (fun _ => 1) index draft.slugs met effect).toList.map
          Action.gift? := by
    simp [Draft.addedGifts, afterEffect_actions h, Function.comp_def]
  cases hgift : settings.giftIdentity? effect with
  | none =>
    rw [Option.toList_none, List.append_nil]
    refine h.mono (by simpa [hgift] using hgifts) hadded ?_
    intro gift hmem
    obtain ⟨action, haction, rfl⟩ := List.mem_map.mp hmem
    rw [gift?_of_emission (Option.mem_toList.mp haction), hgift]
  | some identity =>
    cases effect with
    | addFreeItem item =>
      cases hgift
      simp only [emission, h.known] at hadded
      cases hlookup : draft.gifts.lookup (settings.resolver.decode item.sku) with
      | some place =>
        have hold := h.mono (by simpa [giftIdentity?, hlookup] using hgifts)
          (by simpa [hlookup] using hadded) (List.forall_mem_nil _)
        refine ⟨hold.place, fun identity => ?_⟩
        rw [Option.toList_some, List.mem_append, List.mem_singleton, ← hold.known]
        refine or_iff_left_of_imp ?_
        rintro rfl
        rw [h.known, hlookup]
        rfl
      | none =>
        exact h.concat hlookup (by simpa [giftIdentity?, hlookup] using hgifts)
          (by simpa [hlookup, giftLine, Action.gift?] using hadded)
    | _ => cases hgift

-- ---------------------------------------------------------------------------
-- All effects
-- ---------------------------------------------------------------------------

theorem giftPieces_cons (effect : Effect) (rest : List Effect) (identity : Identity) :
    settings.giftPieces (effect :: rest) identity =
      settings.giftPieces [effect] identity + settings.giftPieces rest identity := by
  simp only [giftPieces, List.countP_cons, List.countP_nil]
  omega

/-- The actions after effects: those there were, with the pieces that were added to them, and what
the effects emit. `pieces` counts the gifts that have not been met. -/
theorem actions_afterEffects {pieces : Identity → Nat} {effects : List Effect}
    (h : draft.Tracks met)
    (hpieces : ∀ identity, identity ∉ met → pieces identity = settings.giftPieces effects identity) :
    (settings.afterEffects currency items index draft effects).actions =
      draft.actions.map (Action.addPieces (settings.giftPieces effects)) ++
        (settings.emissions currency items pieces index draft.slugs met effects).reduceOption := by
  induction effects generalizing index draft met with
  | nil =>
    have hid : Action.addPieces (settings.giftPieces []) = id := by
      funext action
      cases action <;> rfl
    simp [afterEffects, emissions, hid]
  | cons effect rest ih =>
    have hrest : ∀ identity, identity ∉ met ++ (settings.giftIdentity? effect).toList →
        pieces identity = settings.giftPieces rest identity := by
      intro identity hnot
      rw [List.mem_append, not_or] at hnot
      rw [hpieces identity hnot.1, giftPieces_cons]
      have hzero : settings.giftPieces [effect] identity = 0 := by
        simpa [giftPieces, List.countP_cons] using hnot.2
      omega
    -- what this effect emits gets its other pieces from the effects after it
    have hemission :
        (settings.emission currency items (fun _ => 1) index draft.slugs met effect).map
            (Action.addPieces (settings.giftPieces rest)) =
          settings.emission currency items pieces index draft.slugs met effect := by
      rw [emission_map_addPieces]
      cases effect with
      | addFreeItem item =>
        simp only [emission]
        split
        · rfl
        · rename_i hnew
          rw [hpieces _ hnew, giftPieces_cons]
          simp [giftPieces, giftIdentity?]
      | _ => rfl
    rw [afterEffects, ih (tracks_afterEffect h) hrest, afterEffect_actions h, afterEffect_slugs,
      emissions, List.map_append, List.map_map, List.append_assoc]
    congr 1
    · apply List.map_congr_left
      intro action _
      rw [Function.comp_apply, Action.addPieces_addPieces]
      simp only [← giftPieces_cons]
    · rw [← hemission]
      cases settings.emission currency items (fun _ => 1) index draft.slugs met effect <;> simp

theorem length_afterEffect_actions (h : draft.Tracks met) (pieces : Identity → Nat) :
    (settings.afterEffect currency items index draft effect).actions.length =
      draft.actions.length +
        (settings.emission currency items pieces index draft.slugs met effect).toList.length := by
  have hpieces : ∀ more,
      (settings.emission currency items (fun _ => 0) index draft.slugs met effect).map
          (Action.addPieces more) =
        settings.emission currency items more index draft.slugs met effect := by
    intro more
    rw [emission_map_addPieces]
    simp only [Nat.zero_add]
  rw [afterEffect_actions h, List.length_append, List.length_map,
    ← hpieces (fun _ => 1), ← hpieces pieces]
  cases settings.emission currency items (fun _ => 0) index draft.slugs met effect <;> rfl

/-- The cart's aggregate gets its place from the first contributing effect: it is the number of
actions that stand before the effect. -/
theorem cart_position_afterEffects {effects : List Effect} (h : draft.Tracks met)
    (pieces : Identity → Nat) :
    (settings.afterEffects currency items index draft effects).cart.position =
      draft.cart.position.or
        ((effects.findIdx? (·.contributes)).map fun n =>
          draft.actions.length +
            ((settings.emissions currency items pieces index draft.slugs met effects).take
              n).reduceOption.length) := by
  induction effects generalizing index draft met with
  | nil => simp [afterEffects]
  | cons effect rest ih =>
    rw [afterEffects, ih (tracks_afterEffect h), afterEffect_cart, Aggregate.position_gather,
      Option.or_assoc, List.findIdx?_cons]
    congr 1
    by_cases hcontributes : effect.contributes
    · simp [hcontributes]
    · simp only [hcontributes, emissions]
      rw [length_afterEffect_actions h pieces, afterEffect_slugs]
      cases rest.findIdx? (·.contributes) with
      | none => rfl
      | some n =>
        cases settings.emission currency items pieces index draft.slugs met effect with
        | none => simp
        | some action =>
          simp
          omega

theorem cart_isEmpty_afterEffects (effects : List Effect) :
    (settings.afterEffects currency items index draft effects).cart.isEmpty =
      (draft.cart.isEmpty && effects.all (!·.contributes)) := by
  induction effects generalizing index draft with
  | nil => simp [afterEffects]
  | cons effect rest ih =>
    rw [afterEffects, ih, afterEffect_cart, Aggregate.isEmpty_gather, List.all_cons, Bool.and_assoc]

/-- Of a part that effects put another value in, the last value counts. -/
theorem cart_last_afterEffects {β : Type} (part : Aggregate → Option β) (change? : Effect → Option β)
    (hchange : ∀ place a effect, part (a.gather place effect) = (change? effect).or (part a))
    (effects : List Effect) :
    part (settings.afterEffects currency items index draft effects).cart =
      (effects.filterMap change?).getLast?.or (part draft.cart) := by
  induction effects generalizing index draft with
  | nil => rfl
  | cons effect rest ih =>
    rw [afterEffects, ih, afterEffect_cart, hchange, List.filterMap_cons]
    cases change? effect with
    | none => rfl
    | some value => rw [List.getLast?_cons]; cases (rest.filterMap change?).getLast? <;> rfl

end Settings

end Promotion
