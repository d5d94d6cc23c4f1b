import Ecommerce.Inventory.Repository
import Ecommerce.Lib.Table

namespace Ecommerce

abbrev OrderId := String

abbrev UserId := String

inductive OrderStatus
  | pending
  | confirmed
  | processing
  | shipped
  | delivered
  | cancelled
  | refunded
  deriving DecidableEq, Repr

inductive PaymentStatus
  | pending
  | completed
  | failed
  | refunded
  deriving DecidableEq, Repr

structure ShippingAddress where
  street : String
  city : String
  state : String
  zipCode : String
  country : String
  deriving DecidableEq, Repr

structure OrderItem where
  productId : ProductId
  quantity : Int
  price : Int
  subtotal : Int
  deriving DecidableEq, Repr

structure Order where
  id : OrderId
  userId : UserId
  status : OrderStatus
  paymentStatus : PaymentStatus
  subtotal : Int
  tax : Int
  total : Int
  shippingAddress : ShippingAddress
  items : List OrderItem
  createdAt : Nat
  deriving DecidableEq, Repr

abbrev OrderTable := Table Order.id

structure NewOrder where
  userId : UserId
  items : List Item
  shippingAddress : ShippingAddress
  subtotal : Int
  tax : Int
  total : Int
  status : OrderStatus
  paymentStatus : PaymentStatus

/-- `price || 0` and `subtotal || 0`: the items of a request have neither. -/
def Item.row (item : Item) : OrderItem := ⟨item.productId, item.quantity, 0, 0⟩

def NewOrder.row (data : NewOrder) (id : OrderId) (createdAt : Nat) : Order where
  id
  userId := data.userId
  status := data.status
  paymentStatus := data.paymentStatus
  subtotal := data.subtotal
  tax := data.tax
  total := data.total
  shippingAddress := data.shippingAddress
  items := data.items.map Item.row
  createdAt

inductive OrderUpdate
  | status (status : OrderStatus)
  | paymentStatus (paymentStatus : PaymentStatus)

def OrderUpdate.apply : OrderUpdate → Order → Order
  | .status s, order => { order with status := s }
  | .paymentStatus s, order => { order with paymentStatus := s }

@[simp] theorem OrderUpdate.apply_id (data : OrderUpdate) (order : Order) :
    (data.apply order).id = order.id := by cases data <;> rfl

structure PaymentIntentParams where
  amount : Int
  paymentMethod : String
  orderId : OrderId

structure StripeObject where
  id : String
  status : String
  deriving DecidableEq, Repr

structure CreatedItem where
  productId : ProductId
  quantity : Int
  price : Int
  deriving DecidableEq, Repr

inductive OrderEvent
  | created (orderId : OrderId) (userId : UserId) (total : Int) (items : List CreatedItem)
      (shippingAddress : ShippingAddress)
  | cancelled (orderId : OrderId) (userId : UserId) (items : List Item)
  deriving DecidableEq, Repr

inductive OrderOp
  | findMany (userId : UserId)
  | findUnique (id : OrderId)
  | create (data : NewOrder)
  | update (id : OrderId) (data : OrderUpdate)
  | paymentIntent (params : PaymentIntentParams)
  | refund (paymentIntent : String)
  | rpcCall (queue : InventoryQueue) (items : List Item)
  | publish (event : OrderEvent)

abbrev OrderOp.Res : OrderOp → Type
  | .findMany _ => List Order
  | .findUnique _ => Option Order
  | .create _ => Order
  | .update _ _ => Order
  | .paymentIntent _ => StripeObject
  | .refund _ => StripeObject
  | .rpcCall _ _ => InventoryResponse
  | .publish _ => Unit

abbrev OrderM := Prog OrderOp OrderOp.Res Error

namespace OrderRepository

def findByUserId (userId : UserId) : OrderM (List Order) := .perform (OrderOp.findMany userId)

def findById (id : OrderId) : OrderM (Option Order) := .perform (OrderOp.findUnique id)

def create (data : NewOrder) : OrderM Order := .perform (OrderOp.create data)

def updateStatus (id : OrderId) (status : OrderStatus) : OrderM Order :=
  .perform (OrderOp.update id (.status status))

def updatePaymentStatus (id : OrderId) (paymentStatus : PaymentStatus) : OrderM Order :=
  .perform (OrderOp.update id (.paymentStatus paymentStatus))

end OrderRepository

end Ecommerce
