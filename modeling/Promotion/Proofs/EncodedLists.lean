import Promotion.Proofs.Gathering
import Promotion.Proofs.WrittenJson

/-!
# Lists in the fields of an aggregate

Messages and changes of points are stored as JSON texts. Whoever reads such a text gets the list
that was gathered, whatever characters its texts have: as many entries in the same order, each with
the values that went in, and without the members that were not given
(`Aggregate.build_lists_read_back`).
-/

namespace Promotion

-- ---------------------------------------------------------------------------
-- Members
-- ---------------------------------------------------------------------------

namespace Json

variable {name other : String} {found : Json} {value : Option Json} {members : List (String × Json)}

theorem sortedItems_eq_map (items : List Json) : sortedItems items = items.map sorted := by
  induction items with
  | nil => rfl
  | cons item items ih => exact congrArg (sorted item :: ·) ih

theorem sortedMembers_eq_map (members : List (String × Json)) :
    sortedMembers members = members.map fun (name, value) => (name, sorted value) := by
  induction members with
  | nil => rfl
  | cons member members ih => exact congrArg ((member.1, sorted member.2) :: ·) ih

/-- Sorting the members of an object keeps what they are, if no name is written twice. -/
theorem get?_sortedMembers (h : (members.map (·.1)).Nodup) (name : String) :
    (Dict.ofList (sortedMembers members)).get? name = (Dict.get? members name).map sorted := by
  have hsorted : ((sortedMembers members).map (·.1)).Nodup := by
    simpa [sortedMembers_eq_map, Function.comp_def] using h
  rw [Dict.get?_ofList_of_nodup hsorted, sortedMembers_eq_map, Dict.get?_map fun _ => sorted]

theorem member?_object (members : List (String × Json)) (name : String) :
    (Json.object members).member? name = Dict.get? members name := rfl

theorem exists_object_of_member? {json : Json} (h : json.member? name = some found) :
    ∃ members, json = .object members := by
  cases json with
  | object members => exact ⟨members, rfl⟩
  | _ => cases h

theorem get?_optionalMember :
    Dict.get? (optionalMember other value) name = if name = other then value else none := by
  cases value with
  | none => simp [optionalMember]
  | some value => rw [optionalMember, Dict.get?_cons, Dict.get?_nil]

end Json

-- ---------------------------------------------------------------------------
-- Records
-- ---------------------------------------------------------------------------

namespace Fields

variable {α β : Type} {members : Dict Json} {name : String} {reader : Reader α}

theorem read_single {default? : Option α} {json : Json} {value : α}
    (hfound : members.get? name = some json) (hread : reader json = .ok value) :
    (single name reader default?).read (.ofObject members) = .ok value := by
  simp [single, FieldSource.first?, hfound, hread, Except.mapError]

theorem read_text {default? : Option String} {s : String}
    (hfound : members.get? name = some (.string s)) :
    (single name Reader.text default?).read (.ofObject members) = .ok s :=
  read_single hfound rfl

theorem read_optionalText {value : Option String}
    (hfound : members.get? name = value.map .string) :
    (optional name Reader.text).read (.ofObject members) = .ok value := by
  cases value with
  | none => simp [optional, single, FieldSource.first?, hfound]
  | some s => exact read_single hfound rfl

theorem read_map {f : α → β} {fields : Fields α} {value : α}
    (h : fields.read (.ofObject members) = .ok value) :
    (f <$> fields).read (.ofObject members) = .ok (f value) := by
  change (fields.map f).read _ = _
  simp [Fields.map, h, Except.map]

theorem read_seq {functions : Fields (α → β)} {fields : Fields α} {f : α → β} {value : α}
    (hf : functions.read (.ofObject members) = .ok f)
    (hvalue : fields.read (.ofObject members) = .ok value) :
    (functions <*> fields).read (.ofObject members) = .ok (f value) := by
  change (functions.append fields).read _ = _
  simp [append, FieldSource.skip, hf, hvalue]

end Fields

namespace Reader

variable {members : Dict Json}

theorem record_eq_ok {α : Type} {typeName : String} {fields : Fields α} {value : α}
    (h : fields.read (.ofObject members) = .ok value) :
    record typeName fields (.object members) = .ok value := by
  simp [record, h]

/-- The names of the operations on points. -/
def pointsOperation : Reader PointsOperation :=
  oneOf [(PointsOperation.add.name, .add), (PointsOperation.deduct.name, .deduct)]

/-- An entry of the changes of points: the operation, and beside it the members of the change. -/
def pointsEntry : Reader (PointsOperation × LoyaltyPoints) := fun json => do
  let operation ← record "LoyaltyPointsEntry" (.required "type" pointsOperation) json
  let points ← loyaltyPoints json
  return (operation, points)

theorem integer_ofInt {low high i : ℤ} {expected : String} (hlow : low ≤ i) (hhigh : i ≤ high) :
    integer low high expected (.ofInt i) = .ok i :=
  if_pos ⟨hlow, hhigh⟩

theorem integer64_ofInt {i : ℤ} (hlow : -2 ^ 63 ≤ i) (hhigh : i ≤ 2 ^ 63 - 1) :
    integer64 (.ofInt i) = .ok i :=
  integer_ofInt hlow hhigh

theorem pointsOperation_name (operation : PointsOperation) :
    pointsOperation (.string operation.name) = .ok operation := by
  cases operation <;> rfl

theorem notification_eq_ok {n : Notification}
    (hkind : members.get? "notificationType" = some (.string n.kind))
    (htitle : members.get? "title" = some (.string n.title))
    (hbody : members.get? "body" = some (.string n.body)) :
    notification (.object members) = .ok n :=
  record_eq_ok <| Fields.read_seq
    (Fields.read_seq (Fields.read_map (Fields.read_text hkind)) (Fields.read_text htitle))
    (Fields.read_text hbody)

end Reader

/-- The id of the program and the value of a change of points are whole numbers that fit. -/
structure LoyaltyPoints.IsWhole (p : LoyaltyPoints) : Prop where
  programId_ge : -2 ^ 63 ≤ p.programId
  programId_le : p.programId ≤ 2 ^ 63 - 1
  value : p.value.IsWhole

namespace Aggregate

variable {item : Json} {operation : PointsOperation} {points : LoyaltyPoints}

/-- The members that an item has of an entry for a change of points. An optional one is there where
it is given. -/
structure HasMembers (item : Json) (operation : PointsOperation) (points : LoyaltyPoints) :
    Prop where
  operation : item.member? "type" = some (.string operation.name)
  name : item.member? "name" = some (.string points.name)
  programId : item.member? "programId" = some (.ofInt points.programId)
  value : item.member? "value" = some (.number points.value)
  subLedgerId : item.member? "subLedgerId" = points.subLedgerId.map .string
  recipientIntegrationId :
    item.member? "recipientIntegrationId" = points.recipientIntegrationId.map .string
  startDate : item.member? "startDate" = points.startDate.map .string
  expiryDate : item.member? "expiryDate" = points.expiryDate.map .string

theorem nodup_pointsEntry (operation : PointsOperation) (points : LoyaltyPoints) :
    ((("type", Json.string operation.name) :: points.members).map (·.1)).Nodup := by
  obtain ⟨name, programId, value, subLedgerId, recipientIntegrationId, startDate, expiryDate⟩ :=
    points
  cases subLedgerId <;> cases recipientIntegrationId <;> cases startDate <;> cases expiryDate <;>
    simp [LoyaltyPoints.members, Json.optionalMember]

theorem hasMembers_pointsEntry (operation : PointsOperation) (points : LoyaltyPoints) :
    HasMembers (pointsEntry (operation, points)).sorted operation points := by
  have hget := Json.get?_sortedMembers (nodup_pointsEntry operation points)
  constructor <;> refine (hget _).trans ?_ <;>
    simp [LoyaltyPoints.members, Dict.get?_append, Dict.get?_cons, Json.get?_optionalMember,
      Json.ofInt, Json.sorted, Function.comp_def]

theorem HasMembers.read (h : HasMembers item operation points) (hwhole : points.IsWhole) :
    Reader.pointsEntry item = .ok (operation, points) := by
  obtain ⟨members, rfl⟩ := Json.exists_object_of_member? h.operation
  obtain ⟨hoperation, hname, hprogram, hvalue, hledger, hrecipient, hstart, hexpiry⟩ := h
  rw [Json.member?_object] at hoperation hname hprogram hvalue hledger hrecipient hstart hexpiry
  have hrecord : Reader.record "LoyaltyPointsEntry" (.required "type" Reader.pointsOperation)
      (.object members) = .ok operation :=
    Reader.record_eq_ok (Fields.read_single hoperation (Reader.pointsOperation_name operation))
  have hid : (Fields.required "programId" Reader.integer64).read (.ofObject members) =
      .ok points.programId :=
    Fields.read_single hprogram (Reader.integer64_ofInt hwhole.programId_ge hwhole.programId_le)
  have hnumber : (Fields.required "value" Reader.number).read (.ofObject members) =
      .ok points.value :=
    Fields.read_single hvalue rfl
  have hpoints : Reader.loyaltyPoints (.object members) = .ok points :=
    Reader.record_eq_ok <| Fields.read_seq (Fields.read_seq (Fields.read_seq (Fields.read_seq
      (Fields.read_seq (Fields.read_seq (Fields.read_map (Fields.read_text hname)) hid) hnumber)
        (Fields.read_optionalText hledger))
        (Fields.read_optionalText hrecipient))
        (Fields.read_optionalText hstart))
        (Fields.read_optionalText hexpiry)
  simp only [Reader.pointsEntry, hrecord, hpoints]
  rfl

theorem fits_pointsEntry (operation : PointsOperation) (hwhole : points.IsWhole) {depth : ℕ}
    (hdepth : 1 < depth) : (pointsEntry (operation, points)).Fits depth := by
  have hid : (Json.ofInt points.programId).Fits (depth - 1) :=
    ⟨hwhole.programId_ge, by have := hwhole.programId_le; omega⟩
  have hoptional : ∀ (name : String) (value : Option String),
      ∀ member ∈ Json.optionalMember name (value.map .string), member.2.Fits (depth - 1) := by
    intro name value member hmember
    cases value with
    | none => cases hmember
    | some s =>
      rw [List.mem_singleton.mp hmember]
      trivial
  refine ⟨hdepth, trivial, Json.fitMembers_iff.mpr ?_⟩
  simp only [LoyaltyPoints.members, List.forall_mem_append, List.forall_mem_cons]
  exact ⟨⟨⟨⟨⟨trivial, hid, hwhole.value, nofun⟩, hoptional _ _⟩, hoptional _ _⟩, hoptional _ _⟩,
    hoptional _ _⟩

theorem fits_notification (n : Notification) {depth : ℕ} (hdepth : 1 < depth) :
    n.toJson.Fits depth :=
  ⟨hdepth, trivial, trivial, trivial, trivial⟩

theorem notification_sorted_toJson (n : Notification) :
    Reader.notification n.toJson.sorted = .ok n := by
  have hnodup : ([("notificationType", Json.string n.kind), ("title", .string n.title),
      ("body", .string n.body)].map (·.1)).Nodup := by simp
  have hget := Json.get?_sortedMembers hnodup
  refine Reader.notification_eq_ok ?_ ?_ ?_ <;> refine (hget _).trans ?_ <;>
    simp [Dict.get?_cons, Json.sorted]

-- ---------------------------------------------------------------------------
-- Lists
-- ---------------------------------------------------------------------------

/-- A field holds a list as a JSON text, which reads as an array of as many items in the same order.
There is no field where the list is empty. -/
structure StoresList {α : Type} (fields : Dict Json) (name : String) (list : List α)
    (Reads : Json → α → Prop) : Prop where
  absent : list = [] → fields.get? name = none
  stored : list ≠ [] → ∃ text items, fields.get? name = some (.string text) ∧
    Json.parse text = some (.array items) ∧ List.Forall₂ Reads items list

theorem storesList_of_get? {α : Type} {fields : Dict Json} {name : String} {list : List α}
    {toJson : α → Json} {Reads : Json → α → Prop}
    (hfield : fields.get? name = listField list fun items => encoded (items.map toJson))
    (hfits : ∀ a ∈ list, (toJson a).Fits (Json.depthLimit - 1))
    (hreads : ∀ a ∈ list, Reads (toJson a).sorted a) : StoresList fields name list Reads := by
  constructor
  · rintro rfl
    exact hfield
  · intro hne
    refine ⟨(Json.array (list.map toJson)).compact, (list.map toJson).map Json.sorted, ?_, ?_, ?_⟩
    · rw [hfield, listField, if_neg (by simpa using hne), encoded]
    · rw [Json.parse_compact, Json.sorted, Json.sortedItems_eq_map]
      refine ⟨by decide, Json.fitItems_iff.mpr fun item hitem => ?_⟩
      obtain ⟨a, ha, rfl⟩ := List.mem_map.mp hitem
      exact hfits a ha
    · rw [List.forall₂_map_left_iff, List.forall₂_map_left_iff, List.forall₂_same]
      exact hreads

theorem storesList_notifications (a : Aggregate) :
    StoresList a.fields notificationsField a.notifications
      fun item notification => Reader.notification item = .ok notification := by
  refine storesList_of_get? (get?_fields_notifications a) (fun n _ => ?_) (fun n _ => ?_)
  · exact fits_notification n (by decide)
  · exact notification_sorted_toJson n

theorem storesList_loyaltyPoints (a : Aggregate)
    (hwhole : ∀ entry ∈ a.loyaltyPoints, entry.2.IsWhole) :
    StoresList a.fields loyaltyPointsField a.loyaltyPoints fun item entry =>
      HasMembers item entry.1 entry.2 ∧ Reader.pointsEntry item = .ok entry := by
  refine storesList_of_get? (get?_fields_loyaltyPoints a) (fun entry hentry => ?_)
    (fun entry hentry => ?_)
  · exact fits_pointsEntry entry.1 (hwhole entry hentry) (by decide)
  · have hmembers := hasMembers_pointsEntry entry.1 entry.2
    exact ⟨hmembers, hmembers.read (hwhole entry hentry)⟩

/-- What an action stores of messages and of changes of points reads as what was gathered, if the
numbers are whole. -/
theorem build_lists_read_back (a : Aggregate) (hgathered : ¬a.isEmpty)
    (hwhole : ∀ entry ∈ a.loyaltyPoints, entry.2.IsWhole) :
    ∃ position typed, a.build = some (position, typed) ∧
      StoresList typed.fields notificationsField a.notifications
        (fun item notification => Reader.notification item = .ok notification) ∧
      StoresList typed.fields loyaltyPointsField a.loyaltyPoints fun item entry =>
        HasMembers item entry.1 entry.2 ∧ Reader.pointsEntry item = .ok entry :=
  ⟨_, _, if_neg hgathered, storesList_notifications a, storesList_loyaltyPoints a hwhole⟩

/-- A message with quotes and line breaks, and a change of points with an empty date. -/
theorem build_lists_read_back_of_line_breaks :
    let notification : Notification := ⟨"info", "\"\\\x01", "one\ntwo"⟩
    let points : LoyaltyPoints :=
      ⟨"bonus", -1, .integer (2 ^ 64 - 1), none, some "\"\t", none, some ""⟩
    let a := ((empty "cart").addNotification notification).addLoyaltyPoints .deduct points
    ¬a.isEmpty ∧ points.IsWhole ∧
      ∃ position typed, a.build = some (position, typed) ∧
        (∃ text item, typed.fields.get? notificationsField = some (.string text) ∧
          Json.parse text = some (.array [item]) ∧ Reader.notification item = .ok notification) ∧
        ∃ text item, typed.fields.get? loyaltyPointsField = some (.string text) ∧
          Json.parse text = some (.array [item]) ∧
          Reader.pointsEntry item = .ok (.deduct, points) ∧
          item.member? "subLedgerId" = none ∧ item.member? "expiryDate" = some (.string "") := by
  intro notification points a
  have hgathered : ¬a.isEmpty := by decide
  have hpoints : points.IsWhole := ⟨by decide, by decide, by decide, by decide⟩
  have hwhole : ∀ entry ∈ a.loyaltyPoints, entry.2.IsWhole := by
    intro entry hentry
    rw [List.mem_singleton.mp hentry]
    exact hpoints
  obtain ⟨position, typed, hbuild, hmessages, hchanges⟩ := build_lists_read_back a hgathered hwhole
  refine ⟨hgathered, hpoints, position, typed, hbuild, ?_, ?_⟩
  · obtain ⟨text, items, hfield, hparse, hitems⟩ := hmessages.stored (by decide)
    cases hitems with
    | cons hitem hnil =>
      cases hnil
      exact ⟨text, _, hfield, hparse, hitem⟩
  · obtain ⟨text, items, hfield, hparse, hitems⟩ := hchanges.stored (by decide)
    cases hitems with
    | cons hitem hnil =>
      cases hnil
      obtain ⟨hmembers, hread⟩ := hitem
      exact ⟨text, _, hfield, hparse, hread, hmembers.subLedgerId, hmembers.expiryDate⟩

end Aggregate

end Promotion
