import Promotion.Proofs.EffectCounts

/-!
# Entries that leave no trace

Gaps, entries of kinds that are not known and entries that cannot be read are no effects. What an
update makes of an effect depends on the effect's number: a slug may hold it, and the cart's
aggregate and the gifts have places that follow from it. Effects are numbered when the entries that
are none are gone, so that such entries may stand anywhere.
-/

namespace Promotion

namespace Effect

-- ---------------------------------------------------------------------------
-- Entries without an effect
-- ---------------------------------------------------------------------------

/-- A gap, an entry of a kind that is not known, or one that cannot be read. -/
def isIgnored (entry : Json) : Bool :=
  entry.isNull || isUnknown entry || isUnreadable entry

/-- A list of entries with any number of ignored ones put in at any places. -/
inductive Padded : List Json → List Json → Prop where
  | nil : Padded [] []
  | keep {entries padded : List Json} (entry : Json) :
      Padded entries padded → Padded (entry :: entries) (entry :: padded)
  | insert {entries padded : List Json} {entry : Json} (hignored : isIgnored entry) :
      Padded entries padded → Padded entries (entry :: padded)

theorem recognized?_eq_none_iff {entry : Json} :
    recognized? entry = none ↔ isIgnored entry := by
  unfold isIgnored
  cases reading entry <;> simp [*]

theorem ofEntries_cons_fst (entry : Json) (rest : List Json) :
    (ofEntries (entry :: rest)).1 = (recognized? entry).toList ++ (ofEntries rest).1 := by
  rw [ofEntries_fst, ofEntries_fst, List.filterMap_cons]
  cases recognized? entry <;> rfl

/-- The ignored entries are those that can be put in anywhere without another effect. -/
theorem ofEntries_insert_iff {before after : List Json} {entry : Json} :
    (ofEntries (before ++ entry :: after)).1 = (ofEntries (before ++ after)).1 ↔
      isIgnored entry := by
  rw [← recognized?_eq_none_iff]
  induction before with
  | nil =>
    rw [List.nil_append, List.nil_append, ofEntries_cons_fst]
    cases recognized? entry <;> simp
  | cons first before ih =>
    rw [List.cons_append, List.cons_append, ofEntries_cons_fst, ofEntries_cons_fst,
      List.append_cancel_left_eq, ih]

theorem Padded.effects {entries padded : List Json} (h : Padded entries padded) :
    (ofEntries padded).1 = (ofEntries entries).1 := by
  induction h with
  | nil => rfl
  | keep entry _ ih => rw [ofEntries_cons_fst, ofEntries_cons_fst, ih]
  | @insert entries padded entry hignored _ ih =>
    have hfirst : (ofEntries ([] ++ entry :: padded)).1 = (ofEntries ([] ++ padded)).1 :=
      ofEntries_insert_iff.mpr hignored
    exact hfirst.trans ih

end Effect

-- ---------------------------------------------------------------------------
-- Updates
-- ---------------------------------------------------------------------------

namespace Settings

open Effect

/-- Entries without an effect change nothing of what an update does: neither the actions on the cart,
with their slugs, their order and the place of the aggregate, nor what is gathered for the customer,
nor what the session of another currency or a profile contributes. -/
theorem update_of_padded {entries padded : List Json} (h : Padded entries padded)
    (settings : Settings) (cart : Cart) (session : Session) (customer : Aggregate) :
    let effects := (ofEntries entries).1
    let withIgnored := (ofEntries padded).1
    (settings.cartUpdate cart session withIgnored).actions =
        (settings.cartUpdate cart session effects).actions ∧
      (settings.cartUpdate cart session withIgnored).customer =
        (settings.cartUpdate cart session effects).customer ∧
      (settings.profileActions withIgnored).1 = (settings.profileActions effects).1 ∧
      (collectReferrals customer withIgnored).1 = (collectReferrals customer effects).1 := by
  intro effects withIgnored
  have hsame : withIgnored = effects := h.effects
  rw [hsame]
  exact ⟨rfl, rfl, rfl, rfl⟩

/-- Two discounts whose slugs hold the numbers of their effects, and a message, with a gap, an entry
of no known kind, a text, and data that do not fit their kind among them. -/
theorem update_of_padded_numbered_slugs :
    let settings : Settings :=
      ⟨⟨.variantSku, '_'⟩, .halfEven, "en", none, none, [], [], [], ⟨"line", "cart", "customer"⟩⟩
    let cart : Cart := ⟨"cart-1", none, none, ⟨"EUR", 3000⟩, [], [], none⟩
    let entry (kind : String) (data : List (String × Json)) : Json :=
      .object [("effectType", .string kind), ("props", .object data)]
    let discount : Json := entry "setDiscount" [("name", .string "折扣"), ("value", .string "2.5")]
    let message : Json := entry "showNotification" [("title", .string "Hello")]
    let entries : List Json := [discount, message, discount]
    let padded : List Json := [.null, discount, entry "triggerWebhook" [], .string "setDiscount",
      message, entry "acceptCoupon" [("value", .ofNat 1)], .null, discount, .null]
    Padded entries padded ∧
      (settings.cartUpdate cart (settings.cartSession cart) (ofEntries padded).1).actions =
        (settings.cartUpdate cart (settings.cartSession cart) (ofEntries entries).1).actions := by
  intro settings cart entry discount message entries padded
  have hpadded : Padded entries padded :=
    .insert rfl (.keep _ (.insert rfl (.insert rfl (.keep _ (.insert rfl (.insert rfl
      (.keep _ (.insert rfl .nil))))))))
  exact ⟨hpadded, (update_of_padded hpadded settings cart (settings.cartSession cart)
    settings.customerAggregate).1⟩

end Settings

end Promotion
