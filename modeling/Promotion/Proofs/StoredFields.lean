import Promotion.Proofs.CartFields

/-!
# Fields that an update does not write

An update writes the fields that its effects are about, and the flag for paying with points. What
becomes of any other field that a cart has does not depend on the field: if the update sets all
fields at once the field is taken away, and otherwise it stays as it is. The coupon in use is such a
field in every update without an effect about a coupon.
-/

namespace Promotion

/-- The custom field of a cart that an effect is about. -/
def Effect.writtenField? : Effect → Option String
  | acceptCoupon _ | rejectCoupon _ _ => some couponCodeField
  | acceptReferral _ | rejectReferral _ _ => some referralCodeField
  | showNotification _ => some notificationsField
  | loyaltyPoints _ _ => some loyaltyPointsField
  | _ => none

-- ---------------------------------------------------------------------------
-- Fields of the aggregate
-- ---------------------------------------------------------------------------

namespace Aggregate

/-- An effect adds no other field than the one that it is about. -/
theorem isSome_get?_fields_gather {a : Aggregate} {place : Nat} {effect : Effect} {name : String}
    (h : ((a.gather place effect).fields.get? name).isSome) :
    effect.writtenField? = some name ∨ (a.fields.get? name).isSome := by
  rw [isSome_get?_fields] at h ⊢
  cases effect with
  | showNotification notification =>
    simp only [gather, addNotification, atPosition, Effect.writtenField?, Option.some.injEq] at h ⊢
    grind
  | loyaltyPoints operation points =>
    simp only [gather, addLoyaltyPoints, atPosition, Effect.writtenField?, Option.some.injEq] at h ⊢
    grind
  | acceptReferral code =>
    simp only [gather, setReferralCode, atPosition, Effect.writtenField?, Option.some.injEq] at h ⊢
    grind
  | rejectReferral code reason =>
    simp only [gather, removeReferralCode, setReferralCode, atPosition, Effect.writtenField?,
      Option.some.injEq] at h ⊢
    grind
  | _ => exact .inr h

end Aggregate

namespace Settings

variable {settings : Settings} {cart : Cart} {session : Session} {effects : List Effect}
  {currency : String} {items : List SessionItem} {index : Nat} {draft : Draft} {name : String}

/-- The fields that an update writes: those that its effects are about, and the flag for paying with
points where an attribute is configured for it. -/
def writtenFields (settings : Settings) (effects : List Effect) : List String :=
  (if settings.payWithPointsAttribute.isSome then [payWithPointsField] else []) ++
    effects.filterMap Effect.writtenField?

theorem isSome_get?_fields_afterEffects {effects : List Effect}
    (h : ((settings.afterEffects currency items index draft effects).cart.fields.get? name).isSome) :
    name ∈ effects.filterMap Effect.writtenField? ∨ (draft.cart.fields.get? name).isSome := by
  induction effects generalizing index draft with
  | nil => exact .inr h
  | cons effect rest ih =>
    rcases ih h with hrest | hdraft
    · obtain ⟨later, hlater, hwritten⟩ := List.mem_filterMap.mp hrest
      exact .inl (List.mem_filterMap.mpr ⟨later, List.mem_cons_of_mem _ hlater, hwritten⟩)
    · rw [afterEffect_cart] at hdraft
      refine (Aggregate.isSome_get?_fields_gather hdraft).imp_left fun hwritten => ?_
      exact List.mem_filterMap.mpr ⟨effect, List.mem_cons_self, hwritten⟩

/-- What was gathered has no field that the update does not write. -/
theorem get?_gathered_of_notMem (h : name ∉ settings.writtenFields effects) :
    (settings.gathered cart session effects).fields.get? name = none := by
  rw [← Option.not_isSome_iff_eq_none]
  intro hsome
  refine h (List.mem_append.mpr ?_)
  rcases isSome_get?_fields_afterEffects hsome with hwritten | hinitial
  · exact .inr hwritten
  · left
    rw [Aggregate.isSome_get?_fields, initialDraft] at hinitial
    split at hinitial
    · rename_i hpay
      have hname : name = payWithPointsField := by
        simpa [Aggregate.setPayWithPoints, Aggregate.atPosition, Aggregate.empty] using hinitial
      rw [if_pos hpay, hname]
      exact List.mem_singleton_self _
    · simp [Aggregate.empty] at hinitial

/-- No single field is set but one that the update writes. -/
theorem lastChange?_emitted_of_notMem (h : name ∉ settings.writtenFields effects) :
    Action.lastChange? name (settings.emitted currency items effects).reduceOption = none := by
  rw [emitted, lastChange?_emissions]
  split
  · rename_i hname
    have hnone : effects.filterMap Effect.couponChange? = [] := by
      rw [List.filterMap_eq_nil_iff]
      intro effect heffect
      have hother : effect.writtenField? ≠ some couponCodeField := by
        intro hwritten
        refine h (List.mem_append_right _ (List.mem_filterMap.mpr ⟨effect, heffect, ?_⟩))
        rw [hwritten, hname]
      cases effect with
      | acceptCoupon code => exact absurd rfl hother
      | rejectCoupon code reason => exact absurd rfl hother
      | _ => rfl
    rw [hnone]
    rfl
  · rfl

theorem firstContribution?_eq_none_iff :
    settings.firstContribution? effects = none ↔
      settings.payWithPointsAttribute = none ∧ ∀ effect ∈ effects, effect.contributes = false := by
  unfold firstContribution?
  cases settings.payWithPointsAttribute with
  | none => simp
  | some name => simp

theorem get?_cartUpdate_of_notMem (cart : Cart) (session : Session) (fields : Dict Json)
    (h : name ∉ settings.writtenFields effects) :
    (Action.fieldsAfter fields (settings.cartUpdate cart session effects).actions).get? name =
      match settings.firstContribution? effects with
      | none => fields.get? name
      | some _ => none := by
  rw [get?_fieldsAfter_cartUpdate, lastChange?_emitted_of_notMem h, get?_gathered_of_notMem h]
  rfl

/-- What becomes of a stored field that an update does not write. It is taken away if points may be
paid with or if an effect contributes to the aggregate, and stays as it is if not. -/
theorem unwritten_field_after_update (settings : Settings) (cart : Cart) (session : Session)
    (effects : List Effect) {name : String} (h : name ∉ settings.writtenFields effects) :
    let stored := cart.custom.getD []
    let after := Action.fieldsAfter stored (settings.cartUpdate cart session effects).actions
    ((settings.payWithPointsAttribute.isSome ∨ ∃ effect ∈ effects, effect.contributes) →
        after.get? name = none) ∧
      ((settings.payWithPointsAttribute = none ∧ ∀ effect ∈ effects, effect.contributes = false) →
        after.get? name = stored.get? name) := by
  intro stored after
  have hafter := get?_cartUpdate_of_notMem cart session stored h
  constructor
  · intro hsome
    cases hfirst : settings.firstContribution? effects with
    | some n =>
      rw [hfirst] at hafter
      exact hafter
    | none =>
      obtain ⟨hpay, hnone⟩ := firstContribution?_eq_none_iff.mp hfirst
      rcases hsome with hconfigured | ⟨effect, heffect, hcontributes⟩
      · rw [hpay] at hconfigured
        cases hconfigured
      · cases (hnone effect heffect).symm.trans hcontributes
  · intro hnone
    rw [firstContribution?_eq_none_iff.mpr hnone] at hafter
    exact hafter

/-- The flag for paying with points takes the coupon in use away. -/
theorem unwritten_field_after_update_coupon :
    let settings : Settings :=
      ⟨⟨.variantSku, '_'⟩, .halfEven, "en", none, some "payWithPoints", [], [], [],
        ⟨"line", "cart", "customer"⟩⟩
    let cart : Cart :=
      ⟨"cart-1", none, none, ⟨"EUR", 3000⟩, [], [], some [(couponCodeField, .string "SUMMER")]⟩
    let after := Action.fieldsAfter (cart.custom.getD [])
      (settings.cartUpdate cart (settings.cartSession cart) []).actions
    couponCodeField ∉ settings.writtenFields [] ∧ after.get? couponCodeField = none := by
  intro settings cart after
  have hwritten : couponCodeField ∉ settings.writtenFields [] := by decide
  obtain ⟨htaken, -⟩ :=
    unwritten_field_after_update settings cart (settings.cartSession cart) [] hwritten
  exact ⟨hwritten, htaken (.inl rfl)⟩

/-- Not every field that an update does not write stays as it is. -/
theorem not_forall_unwritten_field_kept :
    ¬∀ (settings : Settings) (cart : Cart) (session : Session) (effects : List Effect)
        (name : String), name ∉ settings.writtenFields effects →
      (Action.fieldsAfter (cart.custom.getD [])
          (settings.cartUpdate cart session effects).actions).get? name =
        (cart.custom.getD []).get? name := by
  intro hkept
  let settings : Settings :=
    ⟨⟨.variantSku, '_'⟩, .halfEven, "en", none, some "payWithPoints", [], [], [],
      ⟨"line", "cart", "customer"⟩⟩
  let cart : Cart :=
    ⟨"cart-1", none, none, ⟨"EUR", 3000⟩, [], [], some [(couponCodeField, .string "SUMMER")]⟩
  have hwritten : couponCodeField ∉ settings.writtenFields [] := by decide
  have hcoupon := hkept settings cart (settings.cartSession cart) [] couponCodeField hwritten
  have hafter : (Action.fieldsAfter (cart.custom.getD [])
      (settings.cartUpdate cart (settings.cartSession cart) []).actions).get? couponCodeField =
        none := get?_cartUpdate_of_notMem _ _ _ hwritten
  cases hafter.symm.trans hcoupon

end Settings

end Promotion
