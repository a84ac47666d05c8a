import Promotion.Proofs.CartActions
import Promotion.Proofs.Gathering

/-!
# The custom fields of a cart after an update

An update writes the coupon, the referral code and the flag for paying with points into a cart's
custom fields, and the next session reads them there. However the effects are ordered, and wherever
the aggregate stands between the single fields, the last effect of each kind decides what is read.
-/

namespace Promotion

-- ---------------------------------------------------------------------------
-- Changes that effects ask for
-- ---------------------------------------------------------------------------

/-- The coupon in use after an effect, if the effect is about a coupon. -/
def Effect.couponChange? : Effect → Option (Option String)
  | acceptCoupon code => some (some code)
  | rejectCoupon _ _ => some none
  | _ => none

/-- The referral code in use after an effect, if the effect is about one; the empty code where it
is rejected. -/
def Effect.referralChange? : Effect → Option String
  | acceptReferral code => some code
  | rejectReferral _ _ => some ""
  | _ => none

namespace Aggregate

/-- An aggregate leaves the coupon to the single fields. -/
theorem get?_fields_couponCode (a : Aggregate) : a.fields.get? couponCodeField = none := by
  simp [fields, get?_store, couponCodeField, payWithPointsField, referralCodeField,
    referralCodesField, notificationsField, loyaltyPointsField]

theorem referralCode_gather (place : Nat) (a : Aggregate) (effect : Effect) :
    (a.gather place effect).referralCode = effect.referralChange?.or a.referralCode := by
  cases effect <;> rfl

theorem payWithPoints_gather (place : Nat) (a : Aggregate) (effect : Effect) :
    (a.gather place effect).payWithPoints = (none : Option Bool).or a.payWithPoints := by
  cases effect <;> rfl

end Aggregate

namespace Settings

variable {settings : Settings} {cart : Cart} {session : Session} {effects : List Effect}

-- ---------------------------------------------------------------------------
-- The aggregate
-- ---------------------------------------------------------------------------

theorem gathered_referralCode :
    (settings.gathered cart session effects).referralCode =
      (effects.filterMap Effect.referralChange?).getLast? := by
  have hinitial : (settings.initialDraft cart).cart.referralCode = none := by
    simp only [initialDraft]
    split <;> rfl
  rw [gathered, cart_last_afterEffects _ _ Aggregate.referralCode_gather, hinitial, Option.or_none]

theorem gathered_payWithPoints :
    (settings.gathered cart session effects).payWithPoints =
      if settings.payWithPointsAttribute.isSome then some (paysWithPoints cart) else none := by
  rw [gathered, cart_last_afterEffects _ _ Aggregate.payWithPoints_gather]
  simp only [List.filterMap_none, List.getLast?_nil, Option.none_or, initialDraft]
  split <;> rfl

-- ---------------------------------------------------------------------------
-- Single fields
-- ---------------------------------------------------------------------------

variable {currency : String} {items : List SessionItem} {pieces : Identity → Nat} {index : Nat}
  {claimed : List String} {met : List Identity}

/-- Only coupons change single fields, and only the field of the coupon. -/
theorem fieldChange?_emission (name : String) (effect : Effect) :
    (settings.emission currency items pieces index claimed met effect).bind
        (Action.fieldChange? name) =
      if couponCodeField = name then effect.couponChange?.map (·.map .string) else none := by
  cases effect using Effect.discountCases with
  | discount effect hdiscount =>
    have hcoupon : effect.couponChange? = none := by
      cases effect with
      | setDiscount discount => rfl
      | setDiscountPerItem discount => rfl
      | _ => cases hdiscount
    rw [emission_discount hdiscount, hcoupon]
    cases hline : settings.discountLine? currency items index claimed effect with
    | none => simp
    | some line =>
      obtain ⟨_, _, _, _, heq⟩ := discountLine?_eq_some hline
      simp [heq, Action.fieldChange?]
  | addFreeItem item =>
    simp only [emission, Effect.couponChange?]
    split <;> simp [giftLine, Action.fieldChange?]
  | _ => simp [emission, Effect.couponChange?, Action.fieldChange?]

theorem lastChange?_emissions (name : String) (effects : List Effect) :
    Action.lastChange? name
        (settings.emissions currency items pieces index claimed met effects).reduceOption =
      if couponCodeField = name then
        (effects.filterMap Effect.couponChange?).getLast?.map (·.map .string)
      else none := by
  have hchanges : (settings.emissions currency items pieces index claimed met effects).filterMap
      (·.bind (Action.fieldChange? name)) =
        if couponCodeField = name then
          (effects.filterMap Effect.couponChange?).map (·.map .string) else [] := by
    induction effects generalizing index claimed met with
    | nil => simp [emissions]
    | cons effect rest ih =>
      rw [emissions, List.filterMap_cons, List.filterMap_cons, fieldChange?_emission, ih]
      by_cases hname : couponCodeField = name
      · simp only [if_pos hname]
        cases effect.couponChange? <;> rfl
      · simp only [if_neg hname]
  have hreduce : ∀ actions : List (Option Action),
      actions.reduceOption.filterMap (Action.fieldChange? name) =
        actions.filterMap (·.bind (Action.fieldChange? name)) :=
    fun actions => List.filterMap_filterMap
  rw [Action.lastChange?, hreduce, hchanges]
  split
  · exact List.getLast?_map
  · rfl

-- ---------------------------------------------------------------------------
-- All fields
-- ---------------------------------------------------------------------------

theorem get?_aggregateFields (n : Nat) (name : String) :
    (settings.aggregateFields cart session effects n).get? name =
      if name ∈ (settings.gathered cart session effects).fields.keys then
        (settings.gathered cart session effects).fields.get? name
      else
        (Action.lastChange? name
            ((settings.emitted cart.currency session.items effects).take n).reduceOption).getD
          ((settings.gathered cart session effects).fields.get? name) :=
  Placed.get?_foldl_absorbField _ _ _ _

/-- An aggregate owns no field that effects change singly. -/
theorem lastChange?_emitted_of_mem_keys {name : String}
    (h : name ∈ (settings.gathered cart session effects).fields.keys) :
    Action.lastChange? name (settings.emitted currency items effects).reduceOption = none := by
  have hname : couponCodeField ≠ name := by
    rintro rfl
    exact Dict.get?_eq_none_iff.mp (Aggregate.get?_fields_couponCode _) h
  rw [emitted, lastChange?_emissions, if_neg hname]

theorem lastChange?_removals (name : String) : Action.lastChange? name (removals cart) = none := by
  have hnone : (removals cart).filterMap (Action.fieldChange? name) = [] := by
    rw [List.filterMap_eq_nil_iff]
    intro action haction
    obtain ⟨id, rfl | rfl⟩ := eq_of_mem_removals haction <;> rfl
  rw [Action.lastChange?, hnone]
  rfl

/-- A field after an update. The last change of a single field counts; where there is none the
field is the aggregate's, or the old one if nothing was gathered. -/
theorem get?_fieldsAfter_cartUpdate (fields : Dict Json) (name : String) :
    (Action.fieldsAfter fields (settings.cartUpdate cart session effects).actions).get? name =
      (Action.lastChange? name
          (settings.emitted cart.currency session.items effects).reduceOption).getD
        (match settings.firstContribution? effects with
          | none => fields.get? name
          | some _ => (settings.gathered cart session effects).fields.get? name) := by
  have hremoved : ∀ action ∈ removals cart, action.setsAllFields = false :=
    fun action haction => setsAllFields_of_mem_removals haction
  rw [cartUpdate_actions]
  cases settings.firstContribution? effects with
  | none =>
    simp only []
    rw [Action.get?_fieldsAfter (List.forall_mem_append.mpr
        ⟨hremoved, fun _ => setsAllFields_of_mem_emitted⟩),
      Action.lastChange?_append, lastChange?_removals, Option.or_none]
  | some n =>
    simp only [Action.fieldsAfter_setCustomType]
    rw [Action.get?_fieldsAfter fun _ => setsAllFields_of_mem_drop, get?_aggregateFields]
    by_cases howned : name ∈ (settings.gathered cart session effects).fields.keys
    · have hnone : Action.lastChange? name
          (settings.emitted cart.currency session.items effects).reduceOption = none :=
        lastChange?_emitted_of_mem_keys howned
      rw [hnone, if_pos howned]
      rw [emitted_split n, Action.lastChange?_append, Option.or_eq_none_iff] at hnone
      rw [hnone.1]
    · rw [if_neg howned, emitted_split n, Action.lastChange?_append]
      cases Action.lastChange? name
        ((settings.emitted cart.currency session.items effects).drop n).reduceOption <;> rfl

theorem get?_couponCode_cartUpdate (fields : Dict Json) {change : Option String}
    (h : (effects.filterMap Effect.couponChange?).getLast? = some change) :
    (Action.fieldsAfter fields (settings.cartUpdate cart session effects).actions).get?
        couponCodeField = change.map .string := by
  rw [get?_fieldsAfter_cartUpdate, emitted, lastChange?_emissions, if_pos rfl, h]
  rfl

/-- A field of the aggregate is as it was gathered. -/
theorem get?_gathered_cartUpdate (fields : Dict Json) {name : String} {value : Json}
    (h : (settings.gathered cart session effects).fields.get? name = some value) :
    (Action.fieldsAfter fields (settings.cartUpdate cart session effects).actions).get? name =
      some value := by
  have howned : name ∈ (settings.gathered cart session effects).fields.keys := by
    have hfound : ¬ name ∉ (settings.gathered cart session effects).fields.keys := by
      rw [← Dict.get?_eq_none_iff, h]
      exact nofun
    exact Decidable.not_not.mp hfound
  have hgathered : (settings.gathered cart session effects).isEmpty = false := by
    rw [Bool.eq_false_iff]
    intro hempty
    rw [Aggregate.fields_of_isEmpty hempty] at h
    cases h
  rw [gathered_isEmpty] at hgathered
  obtain ⟨n, hfirst⟩ := Option.isSome_iff_exists.mp (by simpa using hgathered)
  rw [get?_fieldsAfter_cartUpdate, lastChange?_emitted_of_mem_keys howned, hfirst]
  exact h

theorem referralCode_cartUpdate (fields : Dict Json) {code : String}
    (h : (effects.filterMap Effect.referralChange?).getLast? = some code) :
    (Action.fieldsAfter fields (settings.cartUpdate cart session effects).actions).get?
        referralCodeField = some (.string code) := by
  apply get?_gathered_cartUpdate
  rw [Aggregate.get?_fields_referralCode, gathered_referralCode, h]
  rfl

theorem payWithPoints_cartUpdate (fields : Dict Json)
    (h : settings.payWithPointsAttribute.isSome) :
    (Action.fieldsAfter fields (settings.cartUpdate cart session effects).actions).get?
        payWithPointsField = some (.bool (paysWithPoints cart)) := by
  apply get?_gathered_cartUpdate
  rw [Aggregate.get?_fields_payWithPoints, gathered_payWithPoints, if_pos h]
  rfl

theorem get?_cartAttributes {name : String} (h : settings.payWithPointsAttribute = some name)
    (cart : Cart) :
    (settings.cartAttributes cart).get? name = some (.bool (paysWithPoints cart)) := by
  simp [cartAttributes, h]

/-- What an update writes is what the next session reads. The last effect about the coupon decides
the coupon, the last one about the referral code decides that code, and the flag for paying with
points is the one that the session was told. -/
theorem cartSession_after_update (settings : Settings) (cart : Cart) (session : Session)
    (effects : List Effect) :
    let fields := Action.fieldsAfter (cart.custom.getD [])
      (settings.cartUpdate cart session effects).actions
    let next := settings.cartSession { cart with custom := some fields }
    (∀ change, (effects.filterMap Effect.couponChange?).getLast? = some change →
        fields.get? couponCodeField = change.map .string ∧
          next.couponCodes = (change.filter (· ≠ "")).toList) ∧
      (∀ code, (effects.filterMap Effect.referralChange?).getLast? = some code →
        fields.get? referralCodeField = some (.string code) ∧
          next.referralCode = if code = "" then none else some code) ∧
      ∀ name, settings.payWithPointsAttribute = some name →
        ∃ flag, (settings.cartSession cart).attributes.get? name = some (.bool flag) ∧
          fields.get? payWithPointsField = some (.bool flag) ∧
          next.attributes.get? name = some (.bool flag) := by
  intro fields next
  refine ⟨?_, ?_, ?_⟩
  · intro change hchange
    have hfield : fields.get? couponCodeField = change.map .string :=
      get?_couponCode_cartUpdate _ hchange
    refine ⟨hfield, ?_⟩
    change (codeField? (some fields) couponCodeField).toList = _
    simp only [codeField?, Option.bind_some, hfield]
    cases change <;> rfl
  · intro code hcode
    have hfield : fields.get? referralCodeField = some (.string code) :=
      referralCode_cartUpdate _ hcode
    refine ⟨hfield, ?_⟩
    change codeField? (some fields) referralCodeField = _
    simp only [codeField?, Option.bind_some, hfield, Json.string?]
    by_cases hempty : code = ""
    · simp [hempty]
    · simp [hempty]
  · intro name hname
    have hfield : fields.get? payWithPointsField = some (.bool (paysWithPoints cart)) :=
      payWithPoints_cartUpdate _ (by rw [hname]; rfl)
    have hflag : paysWithPoints { cart with custom := some fields } = paysWithPoints cart := by
      simp [paysWithPoints, flagField, hfield, Json.bool?]
    refine ⟨paysWithPoints cart, get?_cartAttributes hname cart, hfield, ?_⟩
    rw [← hflag]
    exact get?_cartAttributes hname _

/-- A coupon on both sides of the aggregate, and a referral code that is taken back. -/
theorem cartSession_after_update_second_coupon :
    let settings : Settings :=
      ⟨⟨.variantSku, '_'⟩, .halfEven, "en", none, some "payWithPoints", [], [], [],
        ⟨"line", "cart", "customer"⟩⟩
    let cart : Cart := ⟨"cart-1", none, none, ⟨"EUR", 0⟩, [], [], some [(couponCodeField, .string "OLD")]⟩
    let effects : List Effect := [.acceptReferral "FRIEND", .rejectCoupon "OLD" none,
      .showNotification ⟨"info", "Hello", ""⟩, .acceptCoupon "NEW", .rejectReferral "FRIEND" none]
    let fields := Action.fieldsAfter (cart.custom.getD [])
      (settings.cartUpdate cart (settings.cartSession cart) effects).actions
    let next := settings.cartSession { cart with custom := some fields }
    (fields.get? couponCodeField = some (.string "NEW") ∧ next.couponCodes = ["NEW"]) ∧
      (fields.get? referralCodeField = some (.string "") ∧ next.referralCode = none) ∧
      ∃ flag, (settings.cartSession cart).attributes.get? "payWithPoints" = some (.bool flag) ∧
        fields.get? payWithPointsField = some (.bool flag) ∧
        next.attributes.get? "payWithPoints" = some (.bool flag) := by
  intro settings cart effects fields next
  obtain ⟨hcoupon, hreferral, hpoints⟩ :=
    cartSession_after_update settings cart (settings.cartSession cart) effects
  exact ⟨hcoupon (some "NEW") rfl, hreferral "" rfl, hpoints "payWithPoints" rfl⟩

end Settings

end Promotion
