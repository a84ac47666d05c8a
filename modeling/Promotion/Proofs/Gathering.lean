import Mathlib.Data.List.Induction
import Promotion.Aggregate
import Promotion.Proofs.Dict

/-!
# What an aggregate gathers

The operations of an aggregate may be called in any order. Each of them writes one field, except
`atPosition`, which only says where the action belongs, and two of them write the same one. An
aggregate is the sum of its calls in the sense of `Aggregate.ofCalls`: of the flag and of the
referral code in use the last call counts, of the place the first one, and of the lists every call,
in order (`Aggregate.afterCalls_empty`).
-/

namespace Promotion

theorem eraseDups_concat {α : Type} [DecidableEq α] (l : List α) (a : α) :
    (l ++ [a]).eraseDups = if a ∈ l.eraseDups then l.eraseDups else l.eraseDups ++ [a] := by
  simp only [List.eraseDups_append, List.mem_eraseDups]
  by_cases hmem : a ∈ l
  · simp [List.removeAll, hmem]
  · simp [List.removeAll, hmem, List.eraseDups_cons]

theorem head?_concat {α : Type} (l : List α) (a : α) :
    (l ++ [a]).head? = some (l.head?.getD a) := by
  cases l <;> rfl

theorem filterMap_concat {α β : Type} (f : α → Option β) (l : List α) (a : α) :
    (l ++ [a]).filterMap f = l.filterMap f ++ (f a).toList := by
  rw [List.filterMap_append, List.filterMap_cons]
  cases f a <;> rfl

theorem filterMap_ne_nil {α β : Type} {f : α → Option β} {l : List α} :
    l.filterMap f ≠ [] ↔ ∃ a ∈ l, (f a).isSome := by
  simp [List.filterMap_eq_nil_iff, Option.isSome_iff_ne_none]

theorem eraseDups_ne_nil {α : Type} [DecidableEq α] {l : List α} : l.eraseDups ≠ [] ↔ l ≠ [] := by
  cases l <;> simp [List.eraseDups_cons]

namespace Aggregate

-- ---------------------------------------------------------------------------
-- The fields of an aggregate
-- ---------------------------------------------------------------------------

theorem get?_store (fields : Dict Json) (field name : String) (value : Option Json) :
    (store fields (field, value)).get? name =
      if name = field then value.or (fields.get? name) else fields.get? name := by
  cases value with
  | none => simp [store]
  | some value =>
    by_cases hname : name = field
    · subst hname
      simp [store]
    · rw [if_neg hname]
      exact Dict.get?_insert_of_ne hname

theorem sorted_store {fields : Dict Json} (h : fields.Sorted) (field : String × Option Json) :
    (store fields field).Sorted := by
  unfold store
  split
  · exact h.insert
  · exact h

theorem sorted_fields (a : Aggregate) : a.fields.Sorted :=
  List.foldlRecOn _ _ List.Pairwise.nil fun _ h field _ => sorted_store h field

theorem get?_fields_payWithPoints (a : Aggregate) :
    a.fields.get? payWithPointsField = a.payWithPoints.map .bool := by
  simp [fields, get?_store, payWithPointsField, referralCodeField, referralCodesField,
    notificationsField, loyaltyPointsField]

theorem get?_fields_referralCode (a : Aggregate) :
    a.fields.get? referralCodeField = a.referralCode.map .string := by
  simp [fields, get?_store, payWithPointsField, referralCodeField, referralCodesField,
    notificationsField, loyaltyPointsField]

theorem get?_fields_notifications (a : Aggregate) :
    a.fields.get? notificationsField =
      listField a.notifications fun items => encoded (items.map (·.toJson)) := by
  simp [fields, get?_store, payWithPointsField, referralCodeField, referralCodesField,
    notificationsField, loyaltyPointsField]

theorem get?_fields_loyaltyPoints (a : Aggregate) :
    a.fields.get? loyaltyPointsField =
      listField a.loyaltyPoints fun items => encoded (items.map pointsEntry) := by
  simp [fields, get?_store, payWithPointsField, referralCodeField, referralCodesField,
    notificationsField, loyaltyPointsField]

theorem get?_fields_referralCodes (a : Aggregate) :
    a.fields.get? referralCodesField =
      listField a.referralCodes fun items => .array (items.map .string) := by
  simp [fields, get?_store, payWithPointsField, referralCodeField, referralCodesField,
    notificationsField, loyaltyPointsField]

theorem isSome_get?_store (fields : Dict Json) (field name : String) (value : Option Json) :
    ((store fields (field, value)).get? name).isSome ↔
      (name = field ∧ value.isSome) ∨ (fields.get? name).isSome := by
  rw [get?_store]
  by_cases hname : name = field
  · simp [hname]
  · simp [hname]

theorem isSome_listField {α : Type} (items : List α) (value : List α → Json) :
    (listField items value).isSome ↔ items ≠ [] := by
  cases items <;> simp [listField]

/-- The fields of an aggregate are those that something was gathered for. -/
theorem isSome_get?_fields (a : Aggregate) (name : String) :
    (a.fields.get? name).isSome ↔
      (name = payWithPointsField ∧ a.payWithPoints.isSome) ∨
        (name = referralCodeField ∧ a.referralCode.isSome) ∨
        (name = notificationsField ∧ a.notifications ≠ []) ∨
        (name = loyaltyPointsField ∧ a.loyaltyPoints ≠ []) ∨
        (name = referralCodesField ∧ a.referralCodes ≠ []) := by
  simp only [fields, List.foldl_cons, List.foldl_nil, isSome_get?_store, isSome_listField,
    Option.isSome_map, Dict.get?_nil, Option.isSome_none, Bool.false_eq_true, or_false]
  grind

theorem fields_of_isEmpty {a : Aggregate} (h : a.isEmpty) : a.fields = [] := by
  simp only [isEmpty, Bool.and_eq_true, Option.isNone_iff_eq_none, List.isEmpty_iff] at h
  obtain ⟨⟨⟨⟨hpay, hcode⟩, hnotifications⟩, hpoints⟩, hcodes⟩ := h
  simp [fields, store, listField, hpay, hcode, hnotifications, hpoints, hcodes]

theorem isEmpty_iff_get?_fields (a : Aggregate) :
    a.isEmpty ↔ ∀ name, a.fields.get? name = none := by
  constructor
  · intro h name
    rw [fields_of_isEmpty h]
    rfl
  · intro h
    have hnone := fun name => mt (isSome_get?_fields a name).mpr (by simp [h name])
    simp only [isEmpty, Option.isNone_iff_eq_none, Bool.and_eq_true, List.isEmpty_iff,
      ← Option.not_isSome_iff_eq_none]
    grind

-- ---------------------------------------------------------------------------
-- Calls
-- ---------------------------------------------------------------------------

/-- A call of one of the operations. -/
inductive Call where
  | atPosition (position : Nat)
  | setPayWithPoints (flag : Bool)
  | setReferralCode (code : String)
  | removeReferralCode
  | addNotification (notification : Notification)
  | addLoyaltyPoints (operation : PointsOperation) (points : LoyaltyPoints)
  | addReferral (code : String)
deriving DecidableEq, Repr

def apply (a : Aggregate) : Call → Aggregate
  | .atPosition position => a.atPosition position
  | .setPayWithPoints flag => a.setPayWithPoints flag
  | .setReferralCode code => a.setReferralCode code
  | .removeReferralCode => a.removeReferralCode
  | .addNotification notification => a.addNotification notification
  | .addLoyaltyPoints operation points => a.addLoyaltyPoints operation points
  | .addReferral code => a.addReferral code

def afterCalls (a : Aggregate) (calls : List Call) : Aggregate :=
  calls.foldl apply a

namespace Call

/-- The fields that calls write. -/
def gatheredFields : List String :=
  [payWithPointsField, referralCodeField, notificationsField, loyaltyPointsField,
    referralCodesField]

def field? : Call → Option String
  | atPosition _ => none
  | setPayWithPoints _ => some payWithPointsField
  | setReferralCode _ | removeReferralCode => some referralCodeField
  | addNotification _ => some notificationsField
  | addLoyaltyPoints _ _ => some loyaltyPointsField
  | addReferral _ => some referralCodesField

def position? : Call → Option Nat
  | atPosition position => some position
  | _ => none

def flag? : Call → Option Bool
  | setPayWithPoints flag => some flag
  | _ => none

/-- The referral code in use after a call, if the call is about it. -/
def code? : Call → Option String
  | setReferralCode code => some code
  | removeReferralCode => some ""
  | _ => none

def notification? : Call → Option Notification
  | addNotification notification => some notification
  | _ => none

def points? : Call → Option (PointsOperation × LoyaltyPoints)
  | addLoyaltyPoints operation points => some (operation, points)
  | _ => none

def created? : Call → Option String
  | addReferral code => some code
  | _ => none

theorem isSome_flag? (call : Call) : call.flag?.isSome ↔ call.field? = some payWithPointsField := by
  cases call <;> simp [flag?, field?, payWithPointsField, referralCodeField, referralCodesField,
    notificationsField, loyaltyPointsField]

theorem isSome_code? (call : Call) : call.code?.isSome ↔ call.field? = some referralCodeField := by
  cases call <;> simp [code?, field?, payWithPointsField, referralCodeField, referralCodesField,
    notificationsField, loyaltyPointsField]

theorem isSome_notification? (call : Call) :
    call.notification?.isSome ↔ call.field? = some notificationsField := by
  cases call <;> simp [notification?, field?, payWithPointsField, referralCodeField,
    referralCodesField, notificationsField, loyaltyPointsField]

theorem isSome_points? (call : Call) :
    call.points?.isSome ↔ call.field? = some loyaltyPointsField := by
  cases call <;> simp [points?, field?, payWithPointsField, referralCodeField, referralCodesField,
    notificationsField, loyaltyPointsField]

theorem isSome_created? (call : Call) :
    call.created?.isSome ↔ call.field? = some referralCodesField := by
  cases call <;> simp [created?, field?, payWithPointsField, referralCodeField, referralCodesField,
    notificationsField, loyaltyPointsField]

theorem mem_gatheredFields {call : Call} {name : String} (h : call.field? = some name) :
    name ∈ gatheredFields := by
  cases call with
  | atPosition position => cases h
  | _ =>
    cases h
    decide

end Call

/-- What has been gathered after some calls, field by field. -/
def ofCalls (typeKey : String) (calls : List Call) : Aggregate where
  typeKey
  payWithPoints := (calls.filterMap Call.flag?).getLast?
  referralCode := (calls.filterMap Call.code?).getLast?
  notifications := calls.filterMap Call.notification?
  loyaltyPoints := calls.filterMap Call.points?
  referralCodes := (calls.filterMap Call.created?).eraseDups
  position := (calls.filterMap Call.position?).head?

variable {typeKey : String} {calls others : List Call}

theorem ofCalls_concat (typeKey : String) (calls : List Call) (call : Call) :
    ofCalls typeKey (calls ++ [call]) = (ofCalls typeKey calls).apply call := by
  simp only [ofCalls, filterMap_concat]
  cases call with
  | atPosition position =>
    simp only [apply, atPosition, head?_concat, Call.position?, Call.flag?, Call.code?,
      Call.notification?, Call.points?, Call.created?, Option.toList_none, Option.toList_some,
      List.append_nil]
  | addReferral code =>
    simp only [apply, addReferral, eraseDups_concat, Call.position?, Call.flag?, Call.code?,
      Call.notification?, Call.points?, Call.created?, Option.toList_none, Option.toList_some,
      List.append_nil]
    split <;> rfl
  | _ =>
    simp only [apply, setPayWithPoints, setReferralCode, removeReferralCode, addNotification,
      addLoyaltyPoints, List.getLast?_concat, Call.position?, Call.flag?, Call.code?,
      Call.notification?, Call.points?, Call.created?, Option.toList_none, Option.toList_some,
      List.append_nil]

/-- The calls on a fresh aggregate, one after the other. -/
theorem afterCalls_empty (typeKey : String) (calls : List Call) :
    (empty typeKey).afterCalls calls = ofCalls typeKey calls := by
  induction calls using List.reverseRecOn with
  | nil => rfl
  | append_singleton calls call ih =>
    rw [ofCalls_concat, ← ih, afterCalls, List.foldl_append]
    rfl

end Aggregate

end Promotion
