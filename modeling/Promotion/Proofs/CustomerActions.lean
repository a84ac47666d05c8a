import Promotion.Proofs.Attempts
import Promotion.Proofs.Emission
import Promotion.Proofs.Gathering

/-!
# Actions on a customer

From whichever currency an effect comes, all that it can leave with a customer is a referral code
that was created or, in an event about the customer, a change of points. `Settings.Holds` says what
has been gathered so far, one lemma for each way to gather says what effects add to it, and
`Settings.customerActions` is what becomes of it in the end.
-/

namespace Promotion

-- ---------------------------------------------------------------------------
-- What effects leave with a customer
-- ---------------------------------------------------------------------------

namespace Effect

def createdCode? : Effect → Option String
  | referralCreated code => some code
  | _ => none

def pointsChange? : Effect → Option (PointsOperation × LoyaltyPoints)
  | loyaltyPoints operation points => some (operation, points)
  | _ => none

def createdCodes (effects : List Effect) : List String :=
  effects.filterMap createdCode?

def pointsChanges (effects : List Effect) : List (PointsOperation × LoyaltyPoints) :=
  effects.filterMap pointsChange?

theorem createdCodes_cons (effect : Effect) (effects : List Effect) :
    createdCodes (effect :: effects) = effect.createdCode?.toList ++ createdCodes effects := by
  simp only [createdCodes, List.filterMap_cons]
  cases effect.createdCode? <;> rfl

theorem pointsChanges_cons (effect : Effect) (effects : List Effect) :
    pointsChanges (effect :: effects) = effect.pointsChange?.toList ++ pointsChanges effects := by
  simp only [pointsChanges, List.filterMap_cons]
  cases effect.pointsChange? <;> rfl

theorem createdCodes_flatMap {α : Type} (items : List α) (effects : α → List Effect) :
    createdCodes (items.flatMap effects) = items.flatMap fun item => createdCodes (effects item) :=
  List.filterMap_flatMap

end Effect

namespace Settings

variable {settings : Settings} {customer : Aggregate} {codes : List String}
  {points : List (PointsOperation × LoyaltyPoints)} {effects : List Effect}

/-- What has been gathered for a customer are `codes`, each once in the place where it comes first,
and the changes `points`. -/
structure Holds (settings : Settings) (customer : Aggregate) (codes : List String)
    (points : List (PointsOperation × LoyaltyPoints)) : Prop where
  typeKey : customer.typeKey = settings.metadata.customer
  payWithPoints : customer.payWithPoints = none
  referralCode : customer.referralCode = none
  notifications : customer.notifications = []
  loyaltyPoints : customer.loyaltyPoints = points
  referralCodes : customer.referralCodes = codes.eraseDups

theorem holds_customerAggregate (settings : Settings) :
    settings.Holds settings.customerAggregate [] [] :=
  ⟨rfl, rfl, rfl, rfl, rfl, rfl⟩

theorem Holds.addReferral (h : settings.Holds customer codes points) (code : String) :
    settings.Holds (addReferral customer code) (codes ++ [code]) points := by
  obtain ⟨htype, hpay, hcode, hnotifications, hpoints, hreferrals⟩ := h
  unfold Settings.addReferral Aggregate.addReferral
  split
  · rename_i hmem
    refine ⟨htype, hpay, hcode, hnotifications, hpoints, ?_⟩
    rw [eraseDups_concat, if_pos (hreferrals ▸ hmem)]
    exact hreferrals
  · rename_i hmem
    refine ⟨htype, hpay, hcode, hnotifications, hpoints, ?_⟩
    rw [eraseDups_concat, if_neg (hreferrals ▸ hmem)]
    exact congrArg (· ++ [code]) hreferrals

theorem Holds.addLoyaltyPoints (h : settings.Holds customer codes points)
    (operation : PointsOperation) (change : LoyaltyPoints) :
    settings.Holds ((customer.atPosition 0).addLoyaltyPoints operation change) codes
      (points ++ [(operation, change)]) := by
  obtain ⟨htype, hpay, hcode, hnotifications, hpoints, hreferrals⟩ := h
  exact ⟨htype, hpay, hcode, hnotifications, congrArg (· ++ _) hpoints, hreferrals⟩

/-- Of another currency's effects the created codes are added. -/
theorem Holds.collectReferrals (h : settings.Holds customer codes points) (effects : List Effect) :
    settings.Holds (collectReferrals customer effects).1 (codes ++ Effect.createdCodes effects)
      points := by
  induction effects generalizing customer codes with
  | nil => simpa [Settings.collectReferrals, Effect.createdCodes] using h
  | cons effect rest ih =>
    rw [Effect.createdCodes_cons, ← List.append_assoc]
    cases effect with
    | referralCreated code => exact ih (h.addReferral code)
    | _ =>
      simp only [Effect.createdCode?, Option.toList_none, List.append_nil]
      exact ih h

/-- Of a profile's effects the created codes and the changes of points are added. -/
theorem Holds.gatherProfile (h : settings.Holds customer codes points) (effects : List Effect) :
    settings.Holds (gatherProfile customer effects).1 (codes ++ Effect.createdCodes effects)
      (points ++ Effect.pointsChanges effects) := by
  induction effects generalizing customer codes points with
  | nil => simpa [Settings.gatherProfile, Effect.createdCodes, Effect.pointsChanges] using h
  | cons effect rest ih =>
    rw [Effect.createdCodes_cons, Effect.pointsChanges_cons, ← List.append_assoc,
      ← List.append_assoc]
    cases effect with
    | referralCreated code =>
      simp only [Effect.pointsChange?, Option.toList_none, List.append_nil]
      exact ih (h.addReferral code)
    | loyaltyPoints operation change =>
      simp only [Effect.createdCode?, Option.toList_none, List.append_nil]
      exact ih (h.addLoyaltyPoints operation change)
    | _ =>
      simp only [Effect.createdCode?, Effect.pointsChange?, Option.toList_none, List.append_nil]
      exact ih h

variable {currency : String} {items : List SessionItem} {index : Nat} {draft : Draft}
  {effect : Effect}

theorem afterEffect_customer :
    (settings.afterEffect currency items index draft effect).customer =
      effect.createdCode?.elim draft.customer (Settings.addReferral draft.customer) := by
  cases effect using Effect.discountCases with
  | discount effect hdiscount =>
    rw [afterEffect_discount hdiscount]
    cases effect with
    | setDiscount discount => split <;> rfl
    | setDiscountPerItem discount => split <;> rfl
    | _ => cases hdiscount
  | addFreeItem item =>
    simp only [afterEffect, applyEffect, addGift]
    split <;> rfl
  | _ => rfl

/-- Of the effects of a cart's own session, too, the created codes are added. -/
theorem Holds.afterEffects (h : settings.Holds draft.customer codes points)
    (effects : List Effect) :
    settings.Holds (settings.afterEffects currency items index draft effects).customer
      (codes ++ Effect.createdCodes effects) points := by
  induction effects generalizing index draft codes with
  | nil => simpa [Settings.afterEffects, Effect.createdCodes] using h
  | cons effect rest ih =>
    rw [Effect.createdCodes_cons, ← List.append_assoc]
    apply ih
    rw [afterEffect_customer]
    cases effect.createdCode? with
    | none =>
      rw [Option.toList_none, List.append_nil]
      exact h
    | some code => exact h.addReferral code

theorem holds_cartUpdate (cart : Cart) (session : Session) (effects : List Effect) :
    settings.Holds (settings.cartUpdate cart session effects).customer
      (Effect.createdCodes effects) [] := by
  have hcustomer : (settings.cartUpdate cart session effects).customer =
      (settings.afterEffects cart.currency session.items 0 (settings.initialDraft cart)
        effects).customer := by
    rw [cartUpdate, ← applyEffects_fst]
  have hinitial : settings.Holds (settings.initialDraft cart).customer [] [] :=
    holds_customerAggregate settings
  rw [hcustomer]
  exact hinitial.afterEffects effects

/-- The actions that set the referral codes of a customer and the changes of points. A field is
left out where there is nothing for it. -/
def customerActions (settings : Settings) (codes : List String)
    (points : List (PointsOperation × LoyaltyPoints)) : List Action :=
  if codes = [] ∧ points = [] then []
  else
    [.setCustomType ⟨settings.metadata.customer,
      (if points = [] then []
        else [(loyaltyPointsField, Aggregate.encoded (points.map Aggregate.pointsEntry))]) ++
      (if codes = [] then [] else [(referralCodesField, .array (codes.map .string))])⟩]

theorem Holds.toList_action? (h : settings.Holds customer codes points) :
    customer.action?.toList = settings.customerActions codes.eraseDups points := by
  obtain ⟨htype, hpay, hcode, hnotifications, hpoints, hreferrals⟩ := h
  have horder : ¬referralCodesField < loyaltyPointsField ∧
      referralCodesField ≠ loyaltyPointsField := by decide
  generalize codes.eraseDups = codes at hreferrals ⊢
  cases points <;> cases codes <;>
    simp [customerActions, Aggregate.action?, Aggregate.build, Aggregate.isEmpty, Aggregate.fields,
      Aggregate.store, Aggregate.listField, Dict.insert, htype, hpay, hcode, hnotifications,
      hpoints, hreferrals, horder]

theorem profileActions_eq (settings : Settings) (effects : List Effect) :
    (settings.profileActions effects).1 =
      settings.customerActions (Effect.createdCodes effects).eraseDups
        (Effect.pointsChanges effects) :=
  ((holds_customerAggregate settings).gatherProfile effects).toList_action?

end Settings

-- ---------------------------------------------------------------------------
-- What currencies bring
-- ---------------------------------------------------------------------------

namespace Processor

variable {processor : Processor} {currencies : List String} {currency : String}
  {result : String → Except Failure (List Effect)}

/-- The effects of a result; none where it is a failure. -/
def brought (result : Except Failure (List Effect)) : List Effect :=
  result.toOption.getD []

@[simp] theorem brought_ok (effects : List Effect) : brought (.ok effects) = effects := rfl

@[simp] theorem brought_error (failure : Failure) : brought (.error failure) = [] := rfl

theorem lookup_succeeded_map (h : currency ∈ currencies) :
    ((succeeded (currencies.map fun currency => (currency, result currency))).lookup currency).getD
        [] = brought (result currency) := by
  induction currencies with
  | nil => cases h
  | cons first rest ih =>
    by_cases hsame : currency = first
    · subst hsame
      cases hfirst : result currency with
      | ok effects => simp [hfirst]
      | error failure =>
        -- the same currency again, further on, has failed as well
        by_cases hrest : currency ∈ rest
        · simpa [hfirst] using ih hrest
        · have hnone : (succeeded (rest.map fun currency => (currency, result currency))).lookup
              currency = none := lookup_succeeded_of_notMem (by simpa using hrest)
          simp [hfirst, hnone]
    · have hrest := ih ((List.mem_cons.mp h).resolve_left hsame)
      cases hfirst : result first with
      | error failure => simpa [hfirst] using hrest
      | ok effects => simpa [hfirst, List.lookup_cons, beq_false_of_ne hsame] using hrest

theorem flatMap_succeeded_map (wanted : String → Bool) (currencies : List String)
    (result : String → Except Failure (List Effect)) :
    ((succeeded (currencies.map fun currency => (currency, result currency))).filter
        (wanted ·.1)).flatMap (·.2) =
      (currencies.filter wanted).flatMap fun currency => brought (result currency) := by
  induction currencies with
  | nil => rfl
  | cons first rest ih =>
    cases hfirst : result first with
    | error failure => by_cases hwanted : wanted first <;> simp [hfirst, hwanted, ih]
    | ok effects => by_cases hwanted : wanted first <;> simp [hfirst, hwanted, ih]

/-- The cart currency's effects make the actions on the cart. Its customer gets the codes that they
create, and then those of the other currencies. -/
theorem concludeSettled_cart (processor : Processor)
    (result : String → Except Failure (List Effect)) (action : EventAction) (cart : Cart)
    (h : Text.upper cart.currency ∈ currencies) :
    let own := brought (result (Text.upper cart.currency))
    let others := (currencies.filter (· ≠ Text.upper cart.currency)).flatMap fun currency =>
      Effect.createdCodes (brought (result currency))
    let handled := processor.concludeSettled (.cart action cart)
      (succeeded (currencies.map fun currency => (currency, result currency)))
    handled.actions =
        (processor.settings.cartUpdate cart (processor.settings.cartSession cart) own).actions ∧
      handled.customerActions =
        processor.settings.customerActions (Effect.createdCodes own ++ others).eraseDups [] := by
  intro own others handled
  have hothers := flatMap_succeeded_map (· ≠ Text.upper cart.currency) currencies result
  simp only [handled, concludeSettled, concludeCart, lookup_succeeded_map h, hothers]
  refine ⟨rfl, ?_⟩
  rw [((Settings.holds_cartUpdate cart (processor.settings.cartSession cart)
    own).collectReferrals _).toList_action?, Effect.createdCodes_flatMap]

/-- A customer gets the codes and the changes of points of all currencies. -/
theorem concludeSettled_customer (processor : Processor) (currencies : List String)
    (result : String → Except Failure (List Effect)) (id : String) (content : Json) :
    let all := currencies.flatMap fun currency => brought (result currency)
    let handled := processor.concludeSettled (.customer id content)
      (succeeded (currencies.map fun currency => (currency, result currency)))
    handled.actions =
        processor.settings.customerActions (Effect.createdCodes all).eraseDups
          (Effect.pointsChanges all) ∧
      handled.customerActions = [] := by
  intro all handled
  have hall := flatMap_succeeded_map (fun _ => true) currencies result
  simp only [List.filter_true] at hall
  simp only [handled, concludeSettled, hall]
  exact ⟨Settings.profileActions_eq _ _, trivial⟩

end Processor

end Promotion
