import Promotion.Aggregate
import Promotion.Placement
import Promotion.Session
import Promotion.Slug

/-!
# Updates made of effects

The effects of a session become actions on the cart, one after another. What goes into custom fields
is gathered in aggregates, one for the cart and one for the customer; the cart's aggregate is put in
the place of its first contribution when all effects are done.
-/

namespace Promotion

/-! ## Names of the fields of promotion lines -/

def promotionNameField : String := "promotion_name"

/-- The field with the SKU of the line item that a discount is for. -/
def lineItemSkuField : String := "promotion_line_item_sku"

/-! ## The state between effects -/

/-- What has been made of the effects so far. -/
structure Draft where
  actions : List Action
  cart : Aggregate
  customer : Aggregate
  /-- The gifts so far, with the places of their actions. -/
  gifts : List (Identity × Nat)
  /-- The slugs that are taken. -/
  slugs : List String

/-- The actions for a cart, and what was gathered for its customer. -/
structure CartUpdate where
  actions : List Action
  customer : Aggregate
  tally : Tally

namespace Settings

variable (settings : Settings)

def customerAggregate : Aggregate :=
  .empty settings.metadata.customer

/-! ## Discounts -/

def lineFields (fields : List (String × Json)) : TypedFields :=
  ⟨settings.metadata.lineItem, Dict.ofList fields⟩

/-- The line that takes a discount off; its slug is the first free one made of `slug`. -/
def discountLine (name : String) (value : Decimal) (currency slug : String)
    (fields : List (String × Json)) (claimed : List String) :
    Except Failure (Action × String) :=
  match ((Money.of .decimal currency value).roundedWith settings.rounding).negate.toCents with
  | .error fault => .error (.money fault)
  | .ok money =>
    let slug := Slug.claim claimed slug
    .ok
      (.addCustomLineItem [(settings.language, name)] 1 money slug
        (settings.discountTaxCategory.map fun id => ⟨id, "tax-category"⟩)
        (some (settings.lineFields fields)), slug)

/-- A line added to a draft, if it could be made. -/
def addLine (draft : Draft) (line : Except Failure (Action × String)) : Except Failure Draft :=
  line.map fun (action, slug) =>
    { draft with actions := draft.actions ++ [action], slugs := draft.slugs ++ [slug] }

def addDiscount (currency : String) (index : Nat) (discount : Discount) (draft : Draft) :
    Except Failure Draft :=
  addLine draft
    (settings.discountLine discount.name discount.value currency
      (Slug.ofPromotion discount.name index) [(promotionNameField, .string discount.name)]
      draft.slugs)

/-- A discount on one item, which the session must have. -/
def addItemDiscount (currency : String) (items : List SessionItem) (index : Nat)
    (discount : ItemDiscount) (draft : Draft) : Except Failure Draft :=
  match items[discount.position]? with
  | none =>
    .error (.malformedEffect "setDiscountPerItem" (.noItem discount.position items.length))
  | some item =>
    addLine draft
      (settings.discountLine discount.name discount.value currency
        (Slug.numbered (Slug.ofPromotion discount.name index) discount.position)
        [(promotionNameField, .string discount.name), (lineItemSkuField, .string item.sku)]
        draft.slugs)

/-! ## Gifts -/

/-- One piece more of the line item that an action adds. -/
def onePieceMore : Action → Action
  | .addLineItem identity quantity custom => .addLineItem identity (quantity + 1) custom
  | action => action

/-- A gift: one piece more of the same gift, or else a line item of its own. -/
def addGift (item : FreeItem) (draft : Draft) : Draft :=
  let identity := settings.resolver.decode item.sku
  match draft.gifts.lookup identity with
  | some index => { draft with actions := draft.actions.modify index onePieceMore }
  | none =>
    { draft with
      gifts := draft.gifts ++ [(identity, draft.actions.length)]
      actions := draft.actions ++
        [.addLineItem identity 1
          (some (settings.lineFields
            [(freeItemField, .bool true), (promotionNameField, .string item.name)]))] }

/-! ## Effects -/

def addAction (action : Action) (draft : Draft) : Draft :=
  { draft with actions := draft.actions ++ [action] }

/-- A contribution to the cart's aggregate, in the place after the actions there are. -/
def contribute (change : Aggregate → Aggregate) (draft : Draft) : Draft :=
  { draft with cart := change (draft.cart.atPosition draft.actions.length) }

/-- A referral code that was created goes to the customer. -/
def addReferral (customer : Aggregate) (code : String) : Aggregate :=
  (customer.atPosition 0).addReferral code

/-- The draft after one more effect, or why the effect leaves it as it is. -/
def applyEffect (currency : String) (items : List SessionItem) (index : Nat) (draft : Draft) :
    Effect → Except Failure Draft
  | .setDiscount discount => settings.addDiscount currency index discount draft
  | .setDiscountPerItem discount => settings.addItemDiscount currency items index discount draft
  | .addFreeItem item => .ok (settings.addGift item draft)
  | .acceptCoupon code =>
    .ok (addAction (.setCustomField couponCodeField (some (.string code))) draft)
  | .rejectCoupon _ _ => .ok (addAction (.setCustomField couponCodeField none) draft)
  | .showNotification notification => .ok (contribute (·.addNotification notification) draft)
  | .loyaltyPoints operation points => .ok (contribute (·.addLoyaltyPoints operation points) draft)
  | .acceptReferral code => .ok (contribute (·.setReferralCode code) draft)
  | .rejectReferral _ _ => .ok (contribute (·.removeReferralCode) draft)
  | .referralCreated code => .ok { draft with customer := addReferral draft.customer code }

/-- The draft after effects numbered from `index` on, and what was counted. -/
def applyEffects (currency : String) (items : List SessionItem) (index : Nat) (draft : Draft) :
    List Effect → Draft × Tally
  | [] => (draft, [])
  | effect :: rest =>
    match settings.applyEffect currency items index draft effect with
    | .ok draft =>
      let (draft, tally) := applyEffects currency items (index + 1) draft rest
      (draft, Tally.one (.applied effect.kind) ++ tally)
    | .error failure =>
      let (draft, tally) := applyEffects currency items (index + 1) draft rest
      (draft, Tally.one (.skipped failure.code) ++ tally)

/-! ## Carts -/

/-- The actions that take the lines and gifts of the last update away. -/
def removals (cart : Cart) : List Action :=
  ((cart.customLineItems.filter fun line => Slug.marker.toList.isPrefixOf line.slug.toList).map
      fun line => .removeCustomLineItem line.id)
    ++ (cart.lineItems.filter (·.isFree)).map fun item => .removeLineItem item.id

def initialDraft (cart : Cart) : Draft :=
  let actions := removals cart
  let aggregate := Aggregate.empty settings.metadata.cart
  { actions
    cart :=
      if settings.payWithPointsAttribute.isSome then
        (aggregate.atPosition actions.length).setPayWithPoints (paysWithPoints cart)
      else aggregate
    customer := settings.customerAggregate
    gifts := []
    slugs := [] }

/-- The actions of a draft with the cart's aggregate in its place. -/
def finish (draft : Draft) : List Action :=
  match draft.cart.build with
  | none => draft.actions
  | some (position, fields) =>
    let (kept, placed) := Placed.absorb draft.actions ⟨position, .setCustomType fields⟩
    Placed.place kept [placed]

/-- The actions that effects mean for a cart. -/
def cartUpdate (cart : Cart) (session : Session) (effects : List Effect) : CartUpdate :=
  let (draft, tally) :=
    settings.applyEffects cart.currency session.items 0 (settings.initialDraft cart) effects
  ⟨finish draft, draft.customer, tally⟩

/-! ## Customers -/

/-- Of the effects of another currency's session only created referral codes count. -/
def collectReferrals (customer : Aggregate) : List Effect → Aggregate × Tally
  | [] => (customer, [])
  | effect :: rest =>
    match effect with
    | .referralCreated code =>
      let (customer, tally) := collectReferrals (addReferral customer code) rest
      (customer, Tally.one (.applied effect.kind) ++ tally)
    | _ => collectReferrals customer rest

/-- Of the effects of a profile only created referral codes and changes of points count. -/
def gatherProfile (customer : Aggregate) : List Effect → Aggregate × Tally
  | [] => (customer, [])
  | effect :: rest =>
    let counted (customer : Aggregate) : Aggregate × Tally :=
      let (customer, tally) := gatherProfile customer rest
      (customer, Tally.one (.applied effect.kind) ++ tally)
    match effect with
    | .referralCreated code => counted (addReferral customer code)
    | .loyaltyPoints operation points =>
      counted ((customer.atPosition 0).addLoyaltyPoints operation points)
    | _ => gatherProfile customer rest

def profileActions (effects : List Effect) : List Action × Tally :=
  let (customer, tally) := gatherProfile settings.customerAggregate effects
  (customer.action?.toList, tally)

end Settings

end Promotion
