import Promotion.Effect
import Promotion.Proofs.Dict

/-!
# Members that decide an effect

An entry of the engine's answer is read by names, and so are the data of its kind: what stands under
other names makes no difference (`Fields.ByName`). Of the entry itself the kind and the data count,
and the rule only by whether it is a text or null: one that is neither makes the entry malformed,
before the kind is looked at (`Effect.ofJson_object`).
-/

namespace Promotion

-- ---------------------------------------------------------------------------
-- Reading by names
-- ---------------------------------------------------------------------------

/-- What fields make of an object depends on nothing but the members of their names. -/
class Fields.ByName {α : Type} (fields : Fields α) : Prop where
  read_congr : ∀ members others : Dict Json,
    (∀ name ∈ fields.names, members.get? name = others.get? name) →
      fields.read (.ofObject members) = fields.read (.ofObject others)

namespace Fields

variable {α β : Type}

instance (name : String) (reader : Reader α) (default? : Option α) :
    (single name reader default?).ByName where
  read_congr members others h := by
    simp only [single, FieldSource.first?, h name List.mem_cons_self]

instance (name : String) (reader : Reader α) : (required name reader).ByName :=
  inferInstanceAs (single name reader none).ByName

instance (name : String) (reader : Reader α) (value : α) : (withDefault name reader value).ByName :=
  inferInstanceAs (single name reader (some value)).ByName

instance (name : String) (reader : Reader α) : (optional name reader).ByName :=
  inferInstanceAs (single name reader.optional (some none)).ByName

theorem map_read (f : α → β) (fields : Fields α) (source : FieldSource) :
    (f <$> fields).read source = (fields.read source).map f := rfl

theorem seq_read (functions : Fields (α → β)) (fields : Fields α) (source : FieldSource) :
    (functions <*> fields).read source =
      match functions.read source, fields.read (source.skip functions.names.length) with
      | .ok f, .ok value => .ok (f value)
      | .ok _, .error fault => .error (fault.later functions.names.length)
      | .error fault, .ok _ => .error fault
      | .error fault, .error next =>
        .error (FieldFault.first source fault (next.later functions.names.length)) := rfl

instance (f : α → β) (fields : Fields α) [h : fields.ByName] : (f <$> fields).ByName where
  read_congr members others hsame := congrArg (Except.map f) (h.read_congr members others hsame)

instance (functions : Fields (α → β)) (fields : Fields α) [hf : functions.ByName]
    [h : fields.ByName] : (functions <*> fields).ByName where
  read_congr members others hsame := by
    obtain ⟨hfirst, hnext⟩ := List.forall_mem_append.mp hsame
    simp only [seq_read, FieldSource.skip, hf.read_congr members others hfirst,
      h.read_congr members others hnext, FieldFault.first]

end Fields

/-- What a reader makes of an object depends on nothing but the members of these names. -/
def Reader.ByNames {α : Type} (names : List String) (reader : Reader α) : Prop :=
  ∀ members others : Dict Json, (∀ name ∈ names, members.get? name = others.get? name) →
    reader (.object members) = reader (.object others)

namespace Reader

variable {α β : Type} {names : List String} {reader : Reader α}

theorem byNames_record {typeName : String} {fields : Fields α} [h : fields.ByName]
    (hnames : fields.names = names) : ByNames names (record typeName fields) := by
  subst hnames
  intro members others hsame
  simp only [record, h.read_congr members others hsame]

theorem ByNames.map (h : ByNames names reader) (f : α → β) : ByNames names (reader.map f) :=
  fun members others hsame => congrArg (Except.map f) (h members others hsame)

end Reader

namespace Effect

variable {members others : Dict Json} {kind : String}

/-- The names that the data of a kind are read by. -/
def dataNames (kind : String) : List String :=
  match kind with
  | "setDiscount" => ["name", "value"]
  | "setDiscountPerItem" => ["name", "value", "position"]
  | "addFreeItem" => ["sku", "name"]
  | "addLoyaltyPoints" | "deductLoyaltyPoints" =>
    ["name", "programId", "value", "subLedgerId", "recipientIntegrationId", "startDate",
      "expiryDate"]
  | "referralCreated" | "acceptReferral" | "rejectReferral" | "acceptCoupon" | "rejectCoupon" =>
    ["value", "rejectionReason"]
  | "showNotification" => ["notificationType", "title", "body"]
  | _ => []

theorem byNames_discount : Reader.ByNames (dataNames "setDiscount") Reader.discount := by
  unfold Reader.discount
  exact Reader.byNames_record rfl

theorem byNames_itemDiscount :
    Reader.ByNames (dataNames "setDiscountPerItem") Reader.itemDiscount := by
  unfold Reader.itemDiscount
  exact Reader.byNames_record rfl

theorem byNames_freeItem : Reader.ByNames (dataNames "addFreeItem") Reader.freeItem := by
  unfold Reader.freeItem
  exact Reader.byNames_record rfl

theorem byNames_loyaltyPoints :
    Reader.ByNames (dataNames "addLoyaltyPoints") Reader.loyaltyPoints := by
  unfold Reader.loyaltyPoints
  exact Reader.byNames_record rfl

theorem byNames_code : Reader.ByNames (dataNames "acceptCoupon") Reader.code := by
  unfold Reader.code
  exact Reader.byNames_record rfl

theorem byNames_notification :
    Reader.ByNames (dataNames "showNotification") Reader.notification := by
  unfold Reader.notification
  exact Reader.byNames_record rfl

theorem byNames_of_reader? {reader : Reader Effect} (h : reader? kind = some reader) :
    Reader.ByNames (dataNames kind) reader := by
  unfold reader? at h
  split at h <;> cases h
  · exact byNames_discount.map _
  · exact byNames_itemDiscount.map _
  · exact byNames_freeItem.map _
  · exact byNames_loyaltyPoints.map _
  · exact byNames_loyaltyPoints.map _
  · exact byNames_code.map _
  · exact byNames_code.map _
  · exact byNames_code.map _
  · exact byNames_code.map _
  · exact byNames_code.map _
  · exact byNames_notification.map _

-- ---------------------------------------------------------------------------
-- Entries
-- ---------------------------------------------------------------------------

/-- The rule that an entry gives, if it is neither a text nor null. -/
def unfitRule? (members : Dict Json) : Option Json :=
  (members.get? "ruleName").filter fun rule => !rule.isString && !rule.isNull

theorem read_rule (members : Dict Json) :
    (Fields.optional "ruleName" Reader.text).read (.ofObject members) =
      match unfitRule? members with
      | some rule => .error (.unfit "ruleName" (.kind rule "a string"))
      | none => .ok ((members.get? "ruleName").bind Json.string?) := by
  unfold unfitRule?
  simp only [Fields.optional, Fields.single, FieldSource.first?]
  cases members.get? "ruleName" with
  | none => rfl
  | some rule => cases rule <;> rfl

theorem read_data (members : Dict Json) :
    (Fields.withDefault "props" Reader.any .null).read (.ofObject members) =
      .ok ((members.get? "props").getD .null) := by
  simp only [Fields.withDefault, Fields.single, FieldSource.first?]
  cases members.get? "props" <;> rfl

theorem read_kind (members : Dict Json) :
    (Fields.required "effectType" Reader.text).read (.ofObject members) =
      match members.get? "effectType" with
      | some (.string kind) => .ok kind
      | some json => .error (.unfit "effectType" (.kind json "a string"))
      | none => .error (.absent 0 "effectType") := by
  simp only [Fields.required, Fields.single, FieldSource.first?]
  cases members.get? "effectType" with
  | none => rfl
  | some json => cases json <;> rfl

/-- A kind that is no text comes first, then a rule that is neither a text nor null, and then a kind
that is missing. The data are taken as they are. -/
theorem effectEntry_object (members : Dict Json) :
    Reader.effectEntry (.object members) =
      match members.get? "effectType", unfitRule? members with
      | some (.string kind), none => .ok (kind, (members.get? "props").getD .null)
      | some (.string _), some rule => .error (.kind rule "a string")
      | some json, _ => .error (.kind json "a string")
      | none, some rule => .error (.kind rule "a string")
      | none, none => .error (.missing "effectType") := by
  have hnames : ¬"ruleName" < "effectType" := by decide
  simp only [Reader.effectEntry, Reader.record, Fields.seq_read, Fields.map_read,
    FieldSource.skip, read_kind, read_data, read_rule]
  cases hkind : members.get? "effectType" with
  | none =>
    cases hrule : unfitRule? members <;>
      simp [Except.map, FieldFault.first, FieldFault.later]
  | some json =>
    cases hrule : unfitRule? members <;> cases json <;>
      simp [Except.map, FieldFault.first, FieldFault.later, hnames]

-- ---------------------------------------------------------------------------
-- Effects
-- ---------------------------------------------------------------------------

/-- Data that are the same for a kind: equal, or two objects with the same members under the names
that data of the kind are read by. -/
def SameData (kind : String) : Option Json → Option Json → Prop
  | some (.object data), some (.object others) =>
    ∀ name ∈ dataNames kind, Dict.get? data name = Dict.get? others name
  | data, others => data = others

theorem SameData.read {data otherData : Option Json} (h : SameData kind data otherData)
    {reader : Reader Effect} (hreader : reader? kind = some reader) :
    reader (data.getD .null) = reader (otherData.getD .null) := by
  unfold SameData at h
  split at h
  · exact byNames_of_reader? hreader _ _ h
  · rw [h]

/-- The failure of an entry that is not of the expected shape. -/
def malformedEntry (found : Json) : Failure :=
  .malformedEffect "unknown" (.shape (.kind found "a string"))

theorem ofJson_of_unfitKind {json : Json} (hkind : members.get? "effectType" = some json)
    (hunfit : ¬json.isString) : ofJson (.object members) = .error (malformedEntry json) := by
  rw [ofJson, if_neg nofun, effectEntry_object, hkind]
  cases json with
  | string s => exact absurd rfl hunfit
  | _ => rfl

theorem ofJson_of_unfitRule {rule : Json} (hrule : unfitRule? members = some rule)
    (hkind : ∀ json ∈ members.get? "effectType", json.isString) :
    ofJson (.object members) = .error (malformedEntry rule) := by
  rw [ofJson, if_neg nofun, effectEntry_object, hrule]
  cases hfound : members.get? "effectType" with
  | none => rfl
  | some json =>
    have hstring := hkind json hfound
    cases json with
    | string s => rfl
    | _ => cases hstring

theorem ofJson_congr (hkind : members.get? "effectType" = others.get? "effectType")
    (hdata : ∀ kind, members.get? "effectType" = some (.string kind) →
      SameData kind (members.get? "props") (others.get? "props"))
    (hrule : unfitRule? members = unfitRule? others) :
    ofJson (.object members) = ofJson (.object others) := by
  rw [ofJson, ofJson, if_neg nofun, if_neg nofun, effectEntry_object, effectEntry_object, ← hkind,
    hrule]
  cases hfound : members.get? "effectType" with
  | none => cases unfitRule? others <;> rfl
  | some json =>
    cases json with
    | string kind =>
      cases hunfit : unfitRule? others with
      | some rule => rfl
      | none =>
        cases hreader : reader? kind with
        | none => simp only [hreader]
        | some reader => simp only [hreader, (hdata kind hfound).read hreader]
    | _ => rfl

/-- Of the members of an entry the kind and the data decide what it stands for, and the rule only
where it is neither a text nor null. Of the data those members count that the kind knows. -/
theorem ofJson_decided (members : Dict Json) :
    (∀ others : Dict Json, members.get? "effectType" = others.get? "effectType" →
        (∀ kind, members.get? "effectType" = some (.string kind) →
          SameData kind (members.get? "props") (others.get? "props")) →
        unfitRule? members = unfitRule? others →
          ofJson (.object members) = ofJson (.object others)) ∧
      (∀ rule, unfitRule? members = some rule →
        (∀ json ∈ members.get? "effectType", json.isString) →
          ofJson (.object members) = .error (malformedEntry rule)) ∧
      ∀ json, members.get? "effectType" = some json → ¬json.isString →
        ofJson (.object members) = .error (malformedEntry json) :=
  ⟨fun _ => ofJson_congr, fun _ => ofJson_of_unfitRule, fun _ => ofJson_of_unfitKind⟩

theorem ofJson_decided_of_campaign :
    let bare : Dict Json :=
      [("effectType", .string "setDiscount"),
        ("props", .object [("name", .string "Tea"), ("value", .string "2.50")])]
    let full : Dict Json :=
      [("campaignId", .array [.null]), ("effectType", .string "setDiscount"),
        ("props",
          .object [("name", .string "Tea"), ("note", .bool true), ("value", .string "2.50")]),
        ("ruleName", .null)]
    let numbered : Dict Json := [("effectType", .string "setDiscount"), ("ruleName", .ofNat 7)]
    let kindless : Dict Json := [("effectType", .null), ("ruleName", .ofNat 7)]
    (bare.get? "effectType" = full.get? "effectType" ∧
        (∀ kind, bare.get? "effectType" = some (.string kind) →
          SameData kind (bare.get? "props") (full.get? "props")) ∧
        unfitRule? bare = unfitRule? full ∧ unfitRule? numbered = some (.ofNat 7) ∧
        kindless.get? "effectType" = some .null) ∧
      ofJson (.object bare) = ofJson (.object full) ∧
      ofJson (.object numbered) = .error (malformedEntry (.ofNat 7)) ∧
      ofJson (.object kindless) = .error (malformedEntry .null) := by
  intro bare full numbered kindless
  have hdata : ∀ kind, bare.get? "effectType" = some (.string kind) →
      SameData kind (bare.get? "props") (full.get? "props") := by
    intro kind hkind
    obtain rfl : "setDiscount" = kind := by simpa [bare, Dict.get?_cons] using hkind
    intro name hname
    simp only [dataNames, List.mem_cons, List.not_mem_nil, or_false] at hname
    rcases hname with rfl | rfl <;> rfl
  have hstring : ∀ json ∈ numbered.get? "effectType", json.isString := by
    intro json hjson
    cases hjson
    rfl
  obtain ⟨hsame, -, -⟩ := ofJson_decided bare
  obtain ⟨-, hrule, -⟩ := ofJson_decided numbered
  obtain ⟨-, -, hkind⟩ := ofJson_decided kindless
  exact ⟨⟨rfl, hdata, rfl, rfl, rfl⟩, hsame full rfl hdata rfl, hrule (.ofNat 7) rfl hstring,
    hkind .null rfl nofun⟩

/-- A rule that is a number costs a discount that can be read without it. -/
theorem not_forall_rule_ignored :
    ¬∀ members others : Dict Json, members.get? "effectType" = others.get? "effectType" →
      members.get? "props" = others.get? "props" →
        ofJson (.object members) = ofJson (.object others) := by
  intro hall
  let bare : Dict Json :=
    [("effectType", .string "acceptCoupon"), ("props", .object [("value", .string "TEA")])]
  have hsame := hall bare (bare ++ [("ruleName", .ofNat 7)]) rfl rfl
  have hbare : ofJson (.object bare) = .ok (some (.acceptCoupon "TEA")) := rfl
  have hnumbered : ofJson (.object (bare ++ [("ruleName", .ofNat 7)])) =
      .error (malformedEntry (.ofNat 7)) := rfl
  rw [hbare, hnumbered] at hsame
  cases hsame

end Effect

end Promotion
