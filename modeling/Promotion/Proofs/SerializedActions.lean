import Promotion.Action
import Promotion.Proofs.EncodedLists

/-!
# Actions from their JSON form

An action can be told from the object that it is written as, in whatever order the members stand
there: `Action.ofJson?` reads it back. So two different actions are never written as the same
object. The member `action` decides which action it is. What is left out of an object is left out of
the action, and a member that is null is a value.

Objects are compared by `Json.sorted`, which puts the members of every object in order. The maps in
an action are in order already (`Action.IsSorted`).
-/

namespace Promotion

-- ---------------------------------------------------------------------------
-- Members in order
-- ---------------------------------------------------------------------------

namespace Json

variable {α : Type} {name : String} {members : List (String × Json)}

/-- The members of every object are in order, each name once. -/
def IsSorted (json : Json) : Prop :=
  json.sorted = json

theorem sortedMembers_eq_self_iff :
    sortedMembers members = members ↔ ∀ member ∈ members, member.2.IsSorted := by
  nth_rewrite 2 [← List.map_id members]
  rw [sortedMembers_eq_map, List.map_inj_left]
  exact forall₂_congr fun member _ => Prod.ext_iff.trans (and_iff_right rfl)

theorem isSorted_object :
    (Json.object members).IsSorted ↔
      Dict.Sorted members ∧ ∀ member ∈ members, member.2.IsSorted := by
  rw [IsSorted, sorted, Json.object.injEq, ← sortedMembers_eq_self_iff]
  constructor
  · intro h
    have hsorted : Dict.Sorted members := h ▸ Dict.sorted_ofList _
    have hmembers : Dict.Sorted (sortedMembers members) := by
      rw [sortedMembers_eq_map]
      exact List.pairwise_map.mpr hsorted
    exact ⟨hsorted, hmembers.ofList_eq.symm.trans h⟩
  · rintro ⟨hsorted, hmembers⟩
    rw [hmembers, hsorted.ofList_eq]

mutual

theorem isSorted_sorted : (json : Json) → json.sorted.IsSorted
  | .null | .bool _ | .number _ | .string _ => rfl
  | .array items => congrArg Json.array (sortedItems_sortedItems items)
  | .object members => by
    have hvalues : ∀ member ∈ Dict.ofList (sortedMembers members), member.2.IsSorted :=
      fun member hmember => isSorted_sortedMembers members member (Dict.mem_of_mem_ofList hmember)
    exact isSorted_object.mpr ⟨Dict.sorted_ofList _, hvalues⟩

theorem sortedItems_sortedItems :
    (items : List Json) → sortedItems (sortedItems items) = sortedItems items
  | [] => rfl
  | item :: items =>
    congrArg₂ List.cons (isSorted_sorted item) (sortedItems_sortedItems items)

theorem isSorted_sortedMembers :
    (members : List (String × Json)) → ∀ member ∈ sortedMembers members, member.2.IsSorted
  | [] => nofun
  | (_, value) :: members =>
    List.forall_mem_cons.mpr ⟨isSorted_sorted value, isSorted_sortedMembers members⟩

end

/-- What is read from a text is in order. -/
theorem isSorted_of_parse {text : String} {json : Json} (h : parse text = some json) :
    json.IsSorted := by
  obtain ⟨written, -, rfl⟩ := Option.map_eq_some_iff.mp h
  exact isSorted_sorted written

theorem member?_sorted (h : (members.map (·.1)).Nodup) (name : String) :
    (Json.object members).sorted.member? name = (Dict.get? members name).map sorted := by
  rw [sorted, member?_object, get?_sortedMembers h]

@[simp] theorem sorted_string (s : String) : (Json.string s).sorted = .string s := rfl

@[simp] theorem sorted_ofNat (n : Nat) : (ofNat n).sorted = ofNat n := rfl

@[simp] theorem sorted_ofInt (i : Int) : (ofInt i).sorted = ofInt i := rfl

theorem sorted_ofTexts {texts : Dict String} (h : texts.Sorted) :
    (ofTexts texts).sorted = ofTexts texts := by
  have hmembers : sortedMembers (Dict.mapValues .string texts) = Dict.mapValues .string texts := by
    rw [sortedMembers_eq_map, Dict.mapValues, List.map_map]
    rfl
  rw [ofTexts, sorted, hmembers, h.mapValues.ofList_eq]

-- ---------------------------------------------------------------------------
-- Values
-- ---------------------------------------------------------------------------

def integer? : Json → Option Int
  | .number (.integer i) => some i
  | _ => none

def natural? (json : Json) : Option Nat :=
  json.integer?.bind Int.toNat?

def texts? (json : Json) : Option (Dict String) :=
  json.object?.bind fun members => members.mapM fun (name, value) => value.string?.map (name, ·)

/-- A member as `read` takes it, or nothing if there is no such member. A null is a member. -/
def optional? (json : Json) (name : String) (read : Json → Option α) : Option (Option α) :=
  match json.member? name with
  | none => some none
  | some value => (read value).map some

@[simp] theorem integer?_ofInt (i : Int) : (ofInt i).integer? = some i := rfl

@[simp] theorem natural?_ofNat (n : Nat) : (ofNat n).natural? = some n := rfl

@[simp] theorem string?_string (s : String) : (Json.string s).string? = some s := rfl

@[simp] theorem texts?_ofTexts (texts : Dict String) : (ofTexts texts).texts? = some texts := by
  change (Dict.mapValues Json.string texts).mapM _ = some texts
  induction texts with
  | nil => rfl
  | cons entry texts ih =>
    rw [Dict.mapValues, List.map_cons, List.mapM_cons]
    rw [Dict.mapValues] at ih
    rw [ih]
    rfl

theorem optional?_eq {json : Json} {toJson : α → Json} {read : Json → Option α} {value : Option α}
    (hmember : json.member? name = value.map fun a => (toJson a).sorted)
    (hread : ∀ a ∈ value, read (toJson a).sorted = some a) :
    json.optional? name read = some value := by
  rw [optional?, hmember]
  cases value with
  | none => rfl
  | some a => exact congrArg (Option.map some) (hread a rfl)

end Json

-- ---------------------------------------------------------------------------
-- Parts of actions
-- ---------------------------------------------------------------------------

def CentMoney.ofJson? (json : Json) : Option CentMoney := do
  let type ← (← json.member? "type").string?
  let currency ← (← json.member? "currencyCode").string?
  let cents ← (← json.member? "centAmount").integer?
  let fractionDigits ← (← json.member? "fractionDigits").natural?
  return { type, currency, cents, fractionDigits }

theorem CentMoney.ofJson?_toJson (m : CentMoney) : ofJson? m.toJson.sorted = some m := by
  simp [ofJson?, toJson, Json.member?_sorted, Dict.get?_cons]

def ResourceIdentifier.ofJson? (json : Json) : Option ResourceIdentifier := do
  let id ← (← json.member? "id").string?
  let typeId ← (← json.member? "typeId").string?
  return ⟨id, typeId⟩

theorem ResourceIdentifier.ofJson?_toJson (r : ResourceIdentifier) :
    ofJson? r.toJson.sorted = some r := by
  simp [ofJson?, toJson, Json.member?_sorted, Dict.get?_cons]

def TypedFields.ofJson? (json : Json) : Option TypedFields := do
  let typeKey ← (← (← json.member? "type").member? "key").string?
  let fields ← (← json.member? "fields").object?
  return ⟨typeKey, fields⟩

/-- The fields are in order, and so are the members of their values. -/
def TypedFields.IsSorted (typed : TypedFields) : Prop :=
  (Json.object typed.fields).IsSorted

theorem TypedFields.ofJson?_eq {json : Json} {typed : TypedFields} (h : typed.IsSorted)
    (htype : json.member? "type" = some (typeReference typed.typeKey).sorted)
    (hfields : json.member? "fields" = some (Json.object typed.fields).sorted) :
    ofJson? json = some typed := by
  have hkey : (typeReference typed.typeKey).sorted.member? "key" =
      some (.string typed.typeKey) := by
    simp [typeReference, Json.member?_sorted, Dict.get?_cons]
  rw [h] at hfields
  simp [ofJson?, htype, hkey, hfields, Json.object?]

theorem TypedFields.ofJson?_toJson {typed : TypedFields} (h : typed.IsSorted) :
    ofJson? typed.toJson.sorted = some typed := by
  refine ofJson?_eq h ?_ ?_ <;> simp [toJson, Json.member?_sorted, Dict.get?_cons]

def Identity.ofJson? (json : Json) : Option Identity :=
  match json.member? "sku" with
  | some value => value.string?.map .sku
  | none => do
    let productId ← (← json.member? "productId").string?
    match json.member? "variantId" with
    | some value => value.natural?.map (.variant productId)
    | none => some (.product productId)

theorem Identity.ofJson?_eq {json : Json} {identity : Identity}
    (h : ∀ name ∈ ["sku", "productId", "variantId"],
      json.member? name = (Dict.get? identity.members name).map Json.sorted) :
    ofJson? json = some identity := by
  cases identity <;> simp [ofJson?, h, members, Dict.get?_cons]

-- ---------------------------------------------------------------------------
-- Actions
-- ---------------------------------------------------------------------------

namespace Action

def ofJson? (json : Json) : Option Action := do
  match ← (← json.member? "action").string? with
  | "addCustomLineItem" =>
    let name ← (← json.member? "name").texts?
    let quantity ← (← json.member? "quantity").natural?
    let money ← CentMoney.ofJson? (← json.member? "money")
    let slug ← (← json.member? "slug").string?
    let taxCategory ← json.optional? "taxCategory" ResourceIdentifier.ofJson?
    let custom ← json.optional? "custom" TypedFields.ofJson?
    return .addCustomLineItem name quantity money slug taxCategory custom
  | "removeCustomLineItem" =>
    return .removeCustomLineItem (← (← json.member? "customLineItemId").string?)
  | "addLineItem" =>
    let identity ← Identity.ofJson? json
    let quantity ← (← json.member? "quantity").natural?
    let custom ← json.optional? "custom" TypedFields.ofJson?
    return .addLineItem identity quantity custom
  | "removeLineItem" =>
    return .removeLineItem (← (← json.member? "lineItemId").string?)
  | "setCustomField" =>
    return .setCustomField (← (← json.member? "name").string?) (json.member? "value")
  | "setCustomType" => return .setCustomType (← TypedFields.ofJson? json)
  | _ => none

/-- The maps of an action are in order, at any depth. -/
def IsSorted : Action → Prop
  | addCustomLineItem name _ _ _ _ custom => name.Sorted ∧ ∀ typed ∈ custom, typed.IsSorted
  | addLineItem _ _ custom => ∀ typed ∈ custom, typed.IsSorted
  | setCustomField _ value => ∀ json ∈ value, json.IsSorted
  | setCustomType fields => fields.IsSorted
  | removeCustomLineItem _ | removeLineItem _ => True

theorem nodup_members (a : Action) :
    ((("action", Json.string a.name) :: a.members).map (·.1)).Nodup := by
  cases a with
  | addCustomLineItem _ _ _ _ taxCategory custom =>
    cases taxCategory <;> cases custom <;> simp [members, Json.optionalMember]
  | addLineItem identity _ custom =>
    cases identity <;> cases custom <;> simp [members, Identity.members, Json.optionalMember]
  | setCustomField _ value => cases value <;> simp [members, Json.optionalMember]
  | _ => simp [members]

theorem member?_toJson (a : Action) (name : String) :
    a.toJson.sorted.member? name =
      (Dict.get? (("action", .string a.name) :: a.members) name).map Json.sorted :=
  Json.member?_sorted a.nodup_members name

/-- An action is read back from its JSON form. -/
theorem ofJson?_toJson {a : Action} (h : a.IsSorted) : ofJson? a.toJson.sorted = some a := by
  have hget := a.member?_toJson
  -- all that is used of the object is what it has under each name
  generalize a.toJson.sorted = json at hget ⊢
  cases a with
  | addCustomLineItem name quantity money slug taxCategory custom =>
    obtain ⟨hname, hfields⟩ := h
    have htyped : ∀ typed ∈ custom, TypedFields.ofJson? typed.toJson.sorted = some typed :=
      fun typed htyped => TypedFields.ofJson?_toJson (hfields typed htyped)
    have htaxCategory : json.member? "taxCategory" = taxCategory.map (·.toJson.sorted) := by
      simp [hget, members, Dict.get?_append, Dict.get?_cons, Json.get?_optionalMember,
        Function.comp_def]
    have hcustom : json.member? "custom" = custom.map (·.toJson.sorted) := by
      simp [hget, members, Dict.get?_append, Dict.get?_cons, Json.get?_optionalMember,
        Function.comp_def]
    simp [ofJson?, hget "action", hget "name", hget "quantity", hget "money", hget "slug",
      Action.name, members, Dict.get?_cons, Json.sorted_ofTexts hname, CentMoney.ofJson?_toJson,
      Json.optional?_eq htaxCategory fun r _ => r.ofJson?_toJson, Json.optional?_eq hcustom htyped]
  | removeCustomLineItem id => simp [ofJson?, hget, Action.name, members, Dict.get?_cons]
  | addLineItem identity quantity custom =>
    have htyped : ∀ typed ∈ custom, TypedFields.ofJson? typed.toJson.sorted = some typed :=
      fun typed htyped => TypedFields.ofJson?_toJson (h typed htyped)
    have hidentity : Identity.ofJson? json = some identity := by
      refine Identity.ofJson?_eq fun name hname => ?_
      rw [hget]
      simp only [List.mem_cons, List.not_mem_nil, or_false] at hname
      rcases hname with rfl | rfl | rfl <;>
        simp [members, Dict.get?_append, Dict.get?_cons, Json.get?_optionalMember]
    have hquantity : json.member? "quantity" = some (.ofNat quantity) := by
      cases identity <;> simp [hget, members, Identity.members, Dict.get?_cons]
    have hcustom : json.member? "custom" = custom.map (·.toJson.sorted) := by
      cases identity <;> simp [hget, members, Identity.members, Dict.get?_cons,
        Json.get?_optionalMember, Function.comp_def]
    simp [ofJson?, hget "action", Action.name, Dict.get?_cons, hidentity, hquantity,
      Json.optional?_eq hcustom htyped]
  | removeLineItem id => simp [ofJson?, hget, Action.name, members, Dict.get?_cons]
  | setCustomField name value =>
    have hvalue : json.member? "value" = value := by
      cases value with
      | none => simp [hget, members, Dict.get?_cons, Json.get?_optionalMember]
      | some found =>
        have hfound : found.sorted = found := h found rfl
        simp [hget, members, Dict.get?_cons, Json.get?_optionalMember, hfound]
    simp [ofJson?, hget "action", hget "name", hvalue, Action.name, members, Dict.get?_cons]
  | setCustomType fields =>
    have hfields : TypedFields.ofJson? json = some fields := by
      refine TypedFields.ofJson?_eq h ?_ ?_ <;> simp [hget, members, Dict.get?_cons]
    simp [ofJson?, hget "action", Action.name, Dict.get?_cons, hfields]

theorem name_eq_iff {a b : Action} : a.name = b.name ↔ a.ctorIdx = b.ctorIdx := by
  cases a <;> cases b <;> simp [name, Action.ctorIdx]

theorem member?_action (a : Action) : a.toJson.sorted.member? "action" = some (.string a.name) := by
  rw [member?_toJson, Dict.get?_cons, if_pos rfl, Option.map_some, Json.sorted_string]

/-- Two actions are written as the same object only if they are equal, and with the same member
`action` exactly if they are of one kind. -/
theorem toJson_eq_iff {a b : Action} (ha : a.IsSorted) (hb : b.IsSorted) :
    (a.toJson.sorted = b.toJson.sorted ↔ a = b) ∧
      (a.toJson.sorted.member? "action" = b.toJson.sorted.member? "action" ↔
        a.ctorIdx = b.ctorIdx) ∧
      ofJson? a.toJson.sorted = some a ∧ ofJson? b.toJson.sorted = some b := by
  have hread := ofJson?_toJson ha
  have hread' := ofJson?_toJson hb
  refine ⟨⟨fun heq => ?_, fun heq => heq ▸ rfl⟩, ?_, hread, hread'⟩
  · rw [heq, hread'] at hread
    exact (Option.some.inj hread).symm
  · rw [member?_action, member?_action, Option.some_inj, Json.string.injEq, name_eq_iff]

/-- A field set to null and one taken away; an identity that one more member makes another one. -/
theorem toJson_eq_iff_of_one_more_member :
    let fields : TypedFields :=
      ⟨"line", [("action", .object [("a", .null), ("sku", .array [])]), ("note", .string "")]⟩
    let unset : Action := .setCustomField "note" none
    let null : Action := .setCustomField "note" (some .null)
    let product : Action := .addLineItem (.product "tea") 1 (some fields)
    let variant : Action := .addLineItem (.variant "tea" 1) 1 (some fields)
    (unset.IsSorted ∧ null.IsSorted ∧ unset.toJson.sorted ≠ null.toJson.sorted) ∧
      product.IsSorted ∧ variant.IsSorted ∧ product.toJson.sorted ≠ variant.toJson.sorted := by
  intro fields unset null product variant
  have hunset : unset.IsSorted := nofun
  have hnull : null.IsSorted := by
    rintro _ ⟨⟩
    rfl
  have hfields : ∀ typed ∈ some fields, typed.IsSorted := by
    rintro _ ⟨⟩
    rfl
  refine ⟨⟨hunset, hnull, ?_⟩, hfields, hfields, ?_⟩
  · exact mt (toJson_eq_iff hunset hnull).1.mp (by simp [unset, null])
  · exact mt (toJson_eq_iff (a := product) (b := variant) hfields hfields).1.mp
      (by simp [product, variant])

end Action

end Promotion
