import Promotion.Proofs.EncodedLists

/-!
# What calls on an aggregate build

Calls that write different fields may change places: what is built of them depends on the first
place that is given and, for each field, on the calls that write it, in their order
(`Aggregate.build_afterCalls`). The two lists in JSON are there with as many entries as there were
calls, each with what went in.
-/

namespace Promotion

/-- The elements that a selection is about are enough for it. -/
theorem filterMap_filter_of_isSome {α β : Type} {f : α → Option β} {p : α → Bool}
    (h : ∀ a, (f a).isSome → p a) (l : List α) : (l.filter p).filterMap f = l.filterMap f := by
  induction l with
  | nil => rfl
  | cons a l ih =>
    cases hp : p a with
    | true => rw [List.filter_cons_of_pos hp, List.filterMap_cons, List.filterMap_cons, ih]
    | false =>
      have hnone : f a = none := by
        rw [← Option.not_isSome_iff_eq_none]
        exact fun hsome => Bool.false_ne_true (hp.symm.trans (h a hsome))
      rw [List.filter_cons_of_neg (by simp [hp]), List.filterMap_cons_none hnone, ih]

namespace Aggregate

variable {typeKey : String} {calls others : List Call}

/-- The place of the first call that gives one. -/
def firstPosition (calls : List Call) : Nat :=
  (calls.filterMap Call.position?).head?.getD 0

/-- The fields say of each kind of calls what counts of it, and nothing else. Messages and changes
of points stand there as the text of a JSON array, which reads as all of them in order. -/
structure Tells (calls : List Call) (fields : Dict Json) : Prop where
  sorted : fields.Sorted
  present : ∀ name, (fields.get? name).isSome ↔ ∃ call ∈ calls, call.field? = some name
  payWithPoints : fields.get? payWithPointsField = (calls.filterMap Call.flag?).getLast?.map .bool
  referralCode : fields.get? referralCodeField = (calls.filterMap Call.code?).getLast?.map .string
  notifications : fields.get? notificationsField =
    listField (calls.filterMap Call.notification?) fun items =>
      .string (Json.array (items.map (·.toJson))).compact
  notificationsRead : StoresList fields notificationsField (calls.filterMap Call.notification?)
    fun item notification => Reader.notification item = .ok notification
  loyaltyPoints : fields.get? loyaltyPointsField =
    listField (calls.filterMap Call.points?) fun items =>
      .string (Json.array (items.map pointsEntry)).compact
  loyaltyPointsRead : (∀ entry ∈ calls.filterMap Call.points?, entry.2.IsWhole) →
    StoresList fields loyaltyPointsField (calls.filterMap Call.points?) fun item entry =>
      HasMembers item entry.1 entry.2 ∧ Reader.pointsEntry item = .ok entry
  referralCodes : fields.get? referralCodesField =
    listField (calls.filterMap Call.created?).eraseDups fun items => .array (items.map .string)

/-- Two sequences of calls have the same first place, and for each field the same calls that write
it, in the same order. -/
structure SameHistories (calls others : List Call) : Prop where
  position : firstPosition calls = firstPosition others
  writes : ∀ name, calls.filter (·.field? = some name) = others.filter (·.field? = some name)

/-- A field is there where something was called that writes it. -/
theorem isSome_get?_fields_ofCalls (typeKey : String) (calls : List Call) (name : String) :
    ((ofCalls typeKey calls).fields.get? name).isSome ↔
      ∃ call ∈ calls, call.field? = some name := by
  simp only [isSome_get?_fields, ofCalls, List.getLast?_isSome, filterMap_ne_nil, eraseDups_ne_nil,
    Call.isSome_flag?, Call.isSome_code?, Call.isSome_notification?, Call.isSome_points?,
    Call.isSome_created?]
  constructor
  · rintro (⟨rfl, h⟩ | ⟨rfl, h⟩ | ⟨rfl, h⟩ | ⟨rfl, h⟩ | ⟨rfl, h⟩) <;> exact h
  · rintro ⟨call, hcall, hfield⟩
    have hname := Call.mem_gatheredFields hfield
    simp only [Call.gatheredFields] at hname
    grind

theorem tells_ofCalls (typeKey : String) (calls : List Call) :
    Tells calls (ofCalls typeKey calls).fields where
  sorted := sorted_fields _
  present := isSome_get?_fields_ofCalls typeKey calls
  payWithPoints := get?_fields_payWithPoints _
  referralCode := get?_fields_referralCode _
  notifications := get?_fields_notifications _
  notificationsRead := storesList_notifications _
  loyaltyPoints := get?_fields_loyaltyPoints _
  loyaltyPointsRead := storesList_loyaltyPoints (ofCalls typeKey calls)
  referralCodes := get?_fields_referralCodes _

theorem isEmpty_ofCalls :
    (ofCalls typeKey calls).isEmpty ↔ ∀ call ∈ calls, call.field? = none := by
  rw [isEmpty_iff_get?_fields]
  constructor
  · intro h call hcall
    cases hfield : call.field? with
    | none => rfl
    | some name =>
      have hsome := (isSome_get?_fields_ofCalls typeKey calls name).mpr ⟨call, hcall, hfield⟩
      rw [h name] at hsome
      cases hsome
  · intro h name
    rw [← Option.not_isSome_iff_eq_none, isSome_get?_fields_ofCalls]
    rintro ⟨call, hcall, hfield⟩
    cases (h call hcall).symm.trans hfield

theorem build_ofCalls (typeKey : String) (calls : List Call) :
    (ofCalls typeKey calls).build =
      if ∀ call ∈ calls, call.field? = none then none
      else some (firstPosition calls, ⟨typeKey, (ofCalls typeKey calls).fields⟩) :=
  if_congr isEmpty_ofCalls rfl rfl

/-- Histories are compared field by field. -/
theorem sameHistories_iff :
    SameHistories calls others ↔ firstPosition calls = firstPosition others ∧
      ∀ name ∈ Call.gatheredFields,
        calls.filter (·.field? = some name) = others.filter (·.field? = some name) := by
  constructor
  · exact fun h => ⟨h.position, fun name _ => h.writes name⟩
  · rintro ⟨hposition, hwrites⟩
    refine ⟨hposition, fun name => ?_⟩
    by_cases hname : name ∈ Call.gatheredFields
    · exact hwrites name hname
    · have hnone : ∀ call : Call, ¬decide (call.field? = some name) :=
        fun call hfield => hname (Call.mem_gatheredFields (of_decide_eq_true hfield))
      rw [List.filter_eq_nil_iff.mpr fun call _ => hnone call,
        List.filter_eq_nil_iff.mpr fun call _ => hnone call]

theorem SameHistories.filterMap_eq {α : Type} {f : Call → Option α} {name : String}
    (h : SameHistories calls others) (hf : ∀ call, (f call).isSome ↔ call.field? = some name) :
    calls.filterMap f = others.filterMap f := by
  have hf' : ∀ call, (f call).isSome → decide (call.field? = some name) :=
    fun call hsome => decide_eq_true ((hf call).mp hsome)
  rw [← filterMap_filter_of_isSome hf' calls, ← filterMap_filter_of_isSome hf' others, h.writes]

/-- All that is gathered but the place is the same. -/
theorem SameHistories.ofCalls_eq (h : SameHistories calls others) (typeKey : String) :
    ofCalls typeKey others =
      { ofCalls typeKey calls with position := (others.filterMap Call.position?).head? } := by
  simp only [ofCalls, h.filterMap_eq Call.isSome_flag?, h.filterMap_eq Call.isSome_code?,
    h.filterMap_eq Call.isSome_notification?, h.filterMap_eq Call.isSome_points?,
    h.filterMap_eq Call.isSome_created?]

theorem SameHistories.build_eq (h : SameHistories calls others) (typeKey : String) :
    (ofCalls typeKey others).build = (ofCalls typeKey calls).build := by
  rw [h.ofCalls_eq]
  have hplace : (others.filterMap Call.position?).head?.getD 0 = firstPosition calls :=
    h.position.symm
  unfold build
  rw [hplace]
  rfl

/-- What calls on a fresh aggregate build depends on nothing but the first place and, for each
field, the calls that write it. There is no action where no call writes a field. -/
theorem build_afterCalls (typeKey : String) (calls : List Call) :
    let built := ((empty typeKey).afterCalls calls).build
    (built = none ↔ ∀ call ∈ calls, call.field? = none) ∧
      (∀ position typed, built = some (position, typed) →
        position = firstPosition calls ∧ typed.typeKey = typeKey ∧ Tells calls typed.fields) ∧
      ∀ others, SameHistories calls others → ((empty typeKey).afterCalls others).build = built := by
  intro built
  have hbuilt : built = (ofCalls typeKey calls).build :=
    congrArg build (afterCalls_empty typeKey calls)
  refine ⟨?_, fun position typed h => ?_, fun others h => ?_⟩
  · rw [hbuilt, build_ofCalls]
    split <;> simp_all
  · rw [hbuilt, build_ofCalls] at h
    split at h
    · cases h
    · cases h
      exact ⟨rfl, rfl, tells_ofCalls typeKey calls⟩
  · rw [hbuilt, afterCalls_empty]
    exact h.build_eq typeKey

/-- Calls about a cart in two orders: the messages, the changes of points, the flag and the code
change places, and so do the places that the later calls give. -/
theorem build_afterCalls_in_other_order :
    let hello : Notification := ⟨"info", "Hello", ""⟩
    let bye : Notification := ⟨"info", "Bye", "one\ntwo"⟩
    let bonus (value : Int) (expiryDate : Option String) : LoyaltyPoints :=
      ⟨"bonus", 7, .integer value, none, none, none, expiryDate⟩
    let calls : List Call :=
      [.atPosition 3, .addNotification hello, .atPosition 5, .setReferralCode "FRIEND",
        .addLoyaltyPoints .deduct (bonus 20 none), .addReferral "B", .addReferral "A",
        .addNotification bye, .removeReferralCode, .addLoyaltyPoints .add (bonus 5 (some "")),
        .addReferral "B", .setPayWithPoints true]
    let others : List Call :=
      [.setPayWithPoints true, .addReferral "B", .atPosition 3, .setReferralCode "FRIEND",
        .addReferral "A", .removeReferralCode, .addLoyaltyPoints .deduct (bonus 20 none),
        .addLoyaltyPoints .add (bonus 5 (some "")), .addReferral "B", .addNotification hello,
        .addNotification bye]
    ∃ typed, ((empty "cart").afterCalls calls).build = some (3, typed) ∧
      ((empty "cart").afterCalls others).build = some (3, typed) ∧
      typed.fields.get? "promotion_pay_with_points" = some (.bool true) ∧
      typed.fields.get? "promotion_referral_code" = some (.string "") ∧
      typed.fields.get? "promotion_notifications" = some (.string
        ("[\x7b\"notificationType\":\"info\",\"title\":\"Hello\",\"body\":\"\"\x7d," ++
          "\x7b\"notificationType\":\"info\",\"title\":\"Bye\",\"body\":\"one\\ntwo\"\x7d]")) ∧
      typed.fields.get? "promotion_loyalty_points" = some (.string
        ("[\x7b\"type\":\"deduct\",\"name\":\"bonus\",\"programId\":7,\"value\":20\x7d," ++
          "\x7b\"type\":\"add\",\"name\":\"bonus\",\"programId\":7,\"value\":5," ++
          "\"expiryDate\":\"\"\x7d]")) ∧
      typed.fields.get? "promotion_referral_codes" = some (.array [.string "B", .string "A"]) := by
  intro hello bye bonus calls others
  obtain ⟨hnone, hsome, hsame⟩ := build_afterCalls "cart" calls
  cases hbuilt : ((empty "cart").afterCalls calls).build with
  | none =>
    cases hnone.mp hbuilt (.setPayWithPoints true) (by decide)
  | some built =>
    obtain ⟨position, typed⟩ := built
    obtain ⟨rfl, -, htells⟩ := hsome position typed hbuilt
    have hothers : SameHistories calls others := sameHistories_iff.mpr (by decide)
    refine ⟨typed, rfl, (hsame others hothers).trans hbuilt, htells.payWithPoints,
      htells.referralCode, htells.notifications.trans ?_,
      htells.loyaltyPoints.trans ?_, htells.referralCodes⟩
    · exact congrArg (fun text => some (Json.string text))
        (show (Json.array [hello.toJson, bye.toJson]).compact = _ by decide +kernel)
    · exact congrArg (fun text => some (Json.string text))
        (show (Json.array [pointsEntry (.deduct, bonus 20 none),
          pointsEntry (.add, bonus 5 (some ""))]).compact = _ by decide +kernel)

end Aggregate

end Promotion
