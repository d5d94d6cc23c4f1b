import Ecommerce.Lib.Schema
import Ecommerce.Order.World

namespace Ecommerce

section Readers

def textOf (j : Option Json) : String :=
  match j with
  | some (.str s) => s
  | _ => ""

def integerOf (j : Option Json) : Int :=
  match j with
  | some (.num x) => x.value.num
  | _ => 0

def fieldsOf (j : Option Json) : List (String × Json) :=
  match j with
  | some (.obj fields) => fields
  | _ => []

def itemsOf (j : Option Json) : List (List (String × Json)) :=
  match j with
  | some (.arr items) => items.map fun item => fieldsOf (some item)
  | _ => []

def Item.ofFields (fields : List (String × Json)) : Item where
  productId := textOf (fields.lookup "productId")
  quantity := integerOf (fields.lookup "quantity")

def ShippingAddress.ofFields (fields : List (String × Json)) : ShippingAddress where
  street := textOf (fields.lookup "street")
  city := textOf (fields.lookup "city")
  state := textOf (fields.lookup "state")
  zipCode := textOf (fields.lookup "zipCode")
  country := textOf (fields.lookup "country")

def CreateOrderData.ofFields (fields : List (String × Json)) : CreateOrderData where
  userId := textOf (fields.lookup "userId")
  items := (itemsOf (fields.lookup "items")).map Item.ofFields
  shippingAddress := .ofFields (fieldsOf (fields.lookup "shippingAddress"))
  paymentMethodId := (fields.lookup "paymentMethodId").map fun j => textOf (some j)

end Readers

inductive OrderData
  | orders (orders : List Order)
  | order (order : Order)
  deriving DecidableEq

/-! The handlers that act for a user, whose id the gateway adds to the request. -/
namespace OrderController

/-- The `catch` block: some errors are thrown again, the others are a 500. -/
def guarded (rethrown : List ErrorClass) (fallback : String)
    (body : OrderM (ApiResponse OrderData)) : OrderM (ApiResponse OrderData) :=
  Prog.tryCatch body fun err =>
    if rethrown.any err.isInstance then throw err
    else pure (.failure 500 (orFallback err.message fallback))

def getUserOrders (userId : UserId) : OrderM (ApiResponse OrderData) :=
  guarded [.badRequest] "Failed to fetch orders" do
    if userId = "" then throw (.badRequest "userId is required")
    let orders ← OrderService.getUserOrders userId
    pure (.success 200 "Orders fetched successfully" (.orders orders))

def getById (id : OrderId) (userId : UserId) : OrderM (ApiResponse OrderData) :=
  guarded [.notFound] "Failed to fetch order" do
    match ← OrderService.getById id userId with
    | none => throw (.notFound "Order not found")
    | some order => pure (.success 200 "Order fetched successfully" (.order order))

def itemSchema : Schema := .object
  [("productId", .string [⟨isUuid, "Invalid uuid"⟩]),
    ("quantity", .number [.int, .positive "Number must be greater than 0"])]

def shippingAddressSchema : Schema := .object
  [("street", .string []), ("city", .string []), ("state", .string []), ("zipCode", .string []),
    ("country", .string [])]

def createOrderSchema : List (String × Schema) :=
  [("userId", .string [⟨isUuid, "Invalid uuid"⟩]),
    ("items", .array itemSchema []),
    ("shippingAddress", shippingAddressSchema),
    ("paymentMethodId", .optional (.string []))]

/-- `zodMessage` is the text of a `ZodError`; a body that is refused is a 500. -/
def create (zodMessage : List Issue → String) (body : Option Json) :
    OrderM (ApiResponse OrderData) :=
  guarded [.badRequest] "Failed to create order" do
    match Schema.parse createOrderSchema body with
    | .error found => throw (.plain (zodMessage found))
    | .ok data =>
      let order ← OrderService.create (.ofFields data)
      pure (.success 201 "Order created successfully" (.order order))

def cancel (id : OrderId) (userId : UserId) : OrderM (ApiResponse OrderData) :=
  guarded [.notFound, .badRequest] "Failed to cancel order" do
    let order ← OrderService.cancel id userId
    pure (.success 200 "Order cancelled successfully" (.order order))

end OrderController

/-- What a handler sends, and the world it leaves. -/
def respond (env : Script Turn) (handler : OrderM (ApiResponse OrderData)) (w : World) :
    ApiResponse OrderData × World :=
  ((match (handler.play World.handle env w).1 with
    | .ok response => response
    | .error error => errorHandler error),
  (handler.play World.handle env w).2)

end Ecommerce
