import Ecommerce.Order.Repository
import Ecommerce.Shared.Http

namespace Ecommerce

structure PaymentData where
  orderId : OrderId
  amount : Int
  paymentMethodId : String

structure PaymentResult where
  success : Bool
  transactionId : Option String := none
  error : Option String := none
  deriving DecidableEq, Repr

structure RefundResult where
  success : Bool
  refundId : Option String := none
  error : Option String := none
  deriving DecidableEq, Repr

/-! Amounts are whole currency units, so `Math.round` has nothing to round. -/
namespace PaymentService

def processPayment (data : PaymentData) : OrderM PaymentResult :=
  Prog.tryCatch
    (do
      let paymentIntent ← .perform (OrderOp.paymentIntent
        { amount := data.amount * 100
          paymentMethod := data.paymentMethodId
          orderId := data.orderId })
      pure
        { success := paymentIntent.status = "succeeded"
          transactionId := some paymentIntent.id })
    fun error => pure { success := false, error := some error.message }

def refundPayment (transactionId : String) : OrderM RefundResult :=
  Prog.tryCatch
    (do
      let refund ← .perform (OrderOp.refund transactionId)
      pure { success := refund.status = "succeeded", refundId := some refund.id })
    fun error => pure { success := false, error := some error.message }

end PaymentService

/-! Every rejection is logged and swallowed. -/
namespace MessagingService

def rpc (queue : InventoryQueue) (items : List Item) : OrderM InventoryResponse :=
  Prog.tryCatch (.perform (OrderOp.rpcCall queue items)) fun error =>
    pure { success := false, message := some error.message }

def reserveStock : List Item → OrderM InventoryResponse := rpc .reserve

def releaseStock : List Item → OrderM InventoryResponse := rpc .release

def confirmReservation : List Item → OrderM InventoryResponse := rpc .confirm

def publish (event : OrderEvent) : OrderM Unit :=
  Prog.tryCatch (.perform (OrderOp.publish event)) fun _ => pure ()

end MessagingService

structure CreateOrderData where
  userId : UserId
  items : List Item
  shippingAddress : ShippingAddress
  paymentMethodId : Option String

structure Totals where
  subtotal : Int
  tax : Int
  total : Int

namespace OrderService

def getUserOrders (userId : UserId) : OrderM (List Order) := OrderRepository.findByUserId userId

def getById (id : OrderId) (userId : UserId) : OrderM (Option Order) := do
  match ← OrderRepository.findById id with
  | none => pure none
  | some order =>
    if order.userId ≠ userId then throw (.notFound "Order not found") else pure (some order)

def calculateTotals (_items : List Item) : Totals :=
  let subtotal : Int := 1000
  let tax := subtotal / 10
  { subtotal, tax, total := subtotal + tax }

/-- Step 4 of `create`; an empty `paymentMethodId` is as good as none. -/
def settlePayment (data : CreateOrderData) (order : Order) (total : Int) : OrderM Unit :=
  match data.paymentMethodId.filter (· ≠ "") with
  | none => pure ()
  | some paymentMethodId => do
    let payment ← PaymentService.processPayment
      { orderId := order.id, amount := total, paymentMethodId }
    if payment.success then do
      let _ ← OrderRepository.updatePaymentStatus order.id .completed
      let _ ← OrderRepository.updateStatus order.id .confirmed
      let _ ← MessagingService.confirmReservation data.items
      pure ()
    else do
      let _ ← MessagingService.releaseStock data.items
      throw (.badRequest "Payment failed")

def createdEvent (data : CreateOrderData) (order : Order) (total : Int) : OrderEvent :=
  .created order.id data.userId total (data.items.map fun item => ⟨item.productId, item.quantity, 0⟩)
    data.shippingAddress

/-- The `try` block of `create`. -/
def placeOrder (data : CreateOrderData) : OrderM Order := do
  let totals := calculateTotals data.items
  let order ← OrderRepository.create
    { userId := data.userId
      items := data.items
      shippingAddress := data.shippingAddress
      subtotal := totals.subtotal
      tax := totals.tax
      total := totals.total
      status := .pending
      paymentStatus := .pending }
  settlePayment data order totals.total
  MessagingService.publish (createdEvent data order totals.total)
  pure order

def create (data : CreateOrderData) : OrderM Order := do
  let reservations ← MessagingService.reserveStock data.items
  if reservations.success then
    Prog.tryCatch (placeOrder data) fun error => do
      let _ ← MessagingService.releaseStock data.items
      throw error
  else
    throw (.badRequest (orFallback (reservations.message.getD "") "Insufficient stock for some items"))

def cancel (id : OrderId) (userId : UserId) : OrderM Order := do
  match ← OrderRepository.findById id with
  | none => throw (.notFound "Order not found")
  | some order =>
    if order.userId ≠ userId then
      throw (.notFound "Order not found")
    else if order.status ∉ [.pending, .confirmed] then
      throw (.badRequest "Order cannot be cancelled")
    else do
      let items := order.items.map fun item => (⟨item.productId, item.quantity⟩ : Item)
      let _ ← MessagingService.releaseStock items
      let updatedOrder ← OrderRepository.updateStatus id .cancelled
      MessagingService.publish (.cancelled id userId items)
      pure updatedOrder

end OrderService

end Ecommerce
