import Ecommerce.Gateway.Bodies
import Ecommerce.Order.Controller

namespace Ecommerce

namespace OrdersRoutes

/-- The client's `price` is validated, and read by nobody. -/
def itemSchema : Schema := .object
  [("productId", .string [⟨isUuid, "Invalid product ID"⟩]),
    ("quantity", .number [.int, .positive "Quantity must be greater than 0"]),
    ("price", .optional (.number [.positive "Price must be greater than 0"]))]

def shippingAddressSchema : Schema := .object
  [("street", .string [.min 1 "Street is required"]),
    ("city", .string [.min 1 "City is required"]),
    ("state", .string [.min 1 "State is required"]),
    ("zipCode", .string [.min 1 "Zip code is required"]),
    ("country", .string [.min 1 "Country is required"])]

def createOrderSchema : List (String × Schema) :=
  [("items", .array itemSchema [.nonempty "At least one item is required"]),
    ("shippingAddress", shippingAddressSchema),
    ("paymentMethod", .optional (.string []))]

end OrdersRoutes

def CreateOrderBody.ofFields (fields : List (String × Json)) : CreateOrderBody where
  items := (itemsOf (fields.lookup "items")).map Item.ofFields
  shippingAddress := .ofFields (fieldsOf (fields.lookup "shippingAddress"))
  paymentMethod := (fields.lookup "paymentMethod").map fun j => textOf (some j)

section Json

def Item.json (item : Item) : Json :=
  .obj [("productId", .str item.productId), ("quantity", .num (.ofInt item.quantity))]

def ShippingAddress.json (address : ShippingAddress) : Json :=
  .obj [("street", .str address.street), ("city", .str address.city),
    ("state", .str address.state), ("zipCode", .str address.zipCode),
    ("country", .str address.country)]

def ForwardData.json : ForwardData → Json
  | .user userId => .obj [("userId", .str userId)]
  | .order userId items shippingAddress paymentMethodId =>
    .obj ([("userId", .str userId), ("items", .arr (items.map Item.json)),
      ("shippingAddress", shippingAddress.json)] ++
        (paymentMethodId.map fun id => ("paymentMethodId", Json.str id)).toList)

end Json

def Item.Valid (item : Item) : Prop := isUuid item.productId ∧ 0 < item.quantity

section Sent

theorem itemOf_json (item : Item) : Item.ofFields (fieldsOf (some item.json)) = item := by
  simp [Item.json, Item.ofFields, fieldsOf, textOf, integerOf, List.lookup_cons]

theorem addressOf_json (address : ShippingAddress) :
    ShippingAddress.ofFields (fieldsOf (some address.json)) = address := by
  simp [ShippingAddress.json, ShippingAddress.ofFields, fieldsOf, textOf, List.lookup_cons]

theorem itemsOf_json (items : List Item) :
    (itemsOf (some (.arr (items.map Item.json)))).map Item.ofFields = items := by
  simp only [itemsOf, List.map_map]
  exact (List.map_congr_left fun item _ => itemOf_json item).trans (List.map_id items)

open Schema

theorem issues_item {item : Item} (h : item.Valid) :
    OrderController.itemSchema.issues (some item.json) = [] := by
  refine issues_object.mpr ⟨_, rfl, ?_⟩
  simp [issues_string, issues_number, List.lookup_cons, h.1, h.2, Check.int, Check.positive]

theorem output_item (item : Item) : OrderController.itemSchema.output item.json = item.json := by
  simp [OrderController.itemSchema, Item.json, output, outputFields, List.lookup_cons]

theorem issues_address (address : ShippingAddress) :
    OrderController.shippingAddressSchema.issues (some address.json) = [] := by
  refine issues_object.mpr ⟨_, rfl, ?_⟩
  simp [issues_string, List.lookup_cons]

theorem output_address (address : ShippingAddress) :
    OrderController.shippingAddressSchema.output address.json = address.json := by
  simp [OrderController.shippingAddressSchema, ShippingAddress.json, output, outputFields,
    List.lookup_cons]

/-- The order service accepts an order of valid items for a user whose id is a UUID, and reads it as
it was sent. -/
theorem parse_json {userId : UserId} (huser : isUuid userId) {items : List Item}
    (hitems : ∀ item ∈ items, item.Valid) (address : ShippingAddress)
    (paymentMethodId : Option String) :
    (parse OrderController.createOrderSchema
        (some (ForwardData.order userId items address paymentMethodId).json)).map
          CreateOrderData.ofFields =
      .ok ⟨userId, items, address, paymentMethodId⟩ := by
  have hissues : ∀ item ∈ items, OrderController.itemSchema.issues (some item.json) = [] :=
    fun item hitem => issues_item (hitems item hitem)
  have houtput : (items.map Item.json).map OrderController.itemSchema.output =
      items.map Item.json := by
    rw [List.map_map]
    exact List.map_congr_left fun item _ => output_item item
  have hparse : parse OrderController.createOrderSchema
      (some (ForwardData.order userId items address paymentMethodId).json) =
        .ok ([("userId", .str userId), ("items", .arr (items.map Item.json)),
          ("shippingAddress", address.json)] ++
            (paymentMethodId.map fun id => ("paymentMethodId", Json.str id)).toList) := by
    refine parse_eq_ok.mpr ⟨_, rfl, ?_, ?_⟩
    · rw [issuesFields_eq_nil]
      cases paymentMethodId with
      | none =>
        simpa [OrderController.createOrderSchema, List.lookup_cons, issues_string, issues_array,
          issues_optional, issues_address, huser] using hissues
      | some id =>
        simpa [OrderController.createOrderSchema, List.lookup_cons, issues_string, issues_array,
          issues_optional, issues_address, huser] using hissues
    · cases paymentMethodId with
      | none =>
        simp [OrderController.createOrderSchema, List.lookup_cons, outputFields, output, houtput,
          output_address]
      | some id =>
        simp [OrderController.createOrderSchema, List.lookup_cons, outputFields, output, houtput,
          output_address]
  rw [hparse]
  refine congrArg Except.ok ?_
  have hitems := itemsOf_json items
  have haddress := addressOf_json address
  cases paymentMethodId with
  | none => simp [CreateOrderData.ofFields, List.lookup_cons, textOf, hitems, haddress]
  | some id => simp [CreateOrderData.ofFields, List.lookup_cons, textOf, hitems, haddress]

theorem isUuid_of_parse {userId : UserId} {items : List Item} {address : ShippingAddress}
    {paymentMethodId : Option String} {fields : List (String × Json)}
    (h : parse OrderController.createOrderSchema
      (some (ForwardData.order userId items address paymentMethodId).json) = .ok fields) :
    isUuid userId := by
  obtain ⟨props, hprops, hissues, -⟩ := parse_eq_ok.mp h
  obtain rfl := Json.obj.inj (Option.some.inj hprops)
  obtain ⟨s, hs, hchecks⟩ := issues_string.mp
    (issuesFields_eq_nil.mp hissues _ List.mem_cons_self)
  obtain rfl := Json.str.inj (Option.some.inj hs)
  exact hchecks _ List.mem_cons_self

end Sent

section Accepted

variable {body : Option Json} {data : List (String × Json)}

theorem issues_accepted (h : Schema.parse OrdersRoutes.createOrderSchema body = .ok data) :
    ∀ field ∈ OrdersRoutes.createOrderSchema, field.2.issues (data.lookup field.1) = [] := by
  have hproper : (Schema.object OrdersRoutes.createOrderSchema).proper := rfl
  obtain ⟨props, hprops, hissues, -⟩ := Schema.parse_eq_ok.mp
    (Schema.parse_passes (.refl _ hproper) h)
  obtain rfl := Json.obj.inj (Option.some.inj hprops)
  exact Schema.issuesFields_eq_nil.mp hissues

theorem items_accepted (h : Schema.parse OrdersRoutes.createOrderSchema body = .ok data) :
    (CreateOrderBody.ofFields data).items ≠ [] ∧
      ∀ item ∈ (CreateOrderBody.ofFields data).items, item.Valid := by
  have hissues := issues_accepted h _ List.mem_cons_self
  obtain ⟨items, hitems, hlength, hall⟩ := Schema.issues_array.mp hissues
  simp only [CreateOrderBody.ofFields, hitems, itemsOf, List.map_map]
  constructor
  · rw [ne_eq, List.map_eq_nil_iff]
    rintro rfl
    simp [Check.nonempty] at hlength
  · intro item hitem
    obtain ⟨j, hj, rfl⟩ := List.mem_map.mp hitem
    obtain ⟨fields, hfields, hvalid⟩ := Schema.issues_object.mp (hall j hj)
    obtain rfl := Option.some.inj hfields
    obtain ⟨s, hs, hid⟩ := Schema.issues_string.mp (hvalid _ List.mem_cons_self)
    obtain ⟨x, hx, hquantity⟩ := Schema.issues_number.mp
      (hvalid _ (List.mem_cons_of_mem _ List.mem_cons_self))
    simp only [List.forall_mem_cons, Check.int, Check.positive, decide_eq_true_eq] at hid hquantity
    simp only [Function.comp_apply, fieldsOf, Item.ofFields, hs, hx, textOf, integerOf]
    exact ⟨hid.1, Rat.num_pos.mpr hquantity.2.1⟩

end Accepted

end Ecommerce
