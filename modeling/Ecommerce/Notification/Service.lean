import Ecommerce.Order.Repository
import Ecommerce.Shared.Consumers
import Ecommerce.Shared.Http

namespace Ecommerce

structure InventoryLowStockEvent where
  productId : ProductId
  currentStock : Int
  threshold : Int
  deriving DecidableEq

inductive NotificationEvent
  | order (event : OrderEvent)
  | lowStock (event : InventoryLowStockEvent)
  deriving DecidableEq

/-- The queue that an event is routed to. -/
def NotificationEvent.queue : NotificationEvent → String
  | .order (.created ..) => "order.created.queue"
  | .order (.cancelled ..) => "order.cancelled.queue"
  | .lowStock _ => "inventory.low-stock.queue"

structure QueueOptions where
  durable : Bool
  deadLetterExchange : Option String

/-- `{ durable: true, ...options }`. -/
def RabbitMQClient.assertQueue (queue : String) (durable : Option Bool := none)
    (deadLetterExchange : Option String := none) : String × QueueOptions :=
  (queue, { durable := durable.getD true, deadLetterExchange })

namespace NotificationService

def setupQueues : List (String × QueueOptions) :=
  [RabbitMQClient.assertQueue "order.created.queue",
    RabbitMQClient.assertQueue "order.cancelled.queue",
    RabbitMQClient.assertQueue "order.confirmed.queue",
    RabbitMQClient.assertQueue "inventory.low-stock.queue"]

structure MailOptions where
  sender : String
  recipient : String
  subject : String
  html : String
  deriving DecidableEq

inductive NotificationOp
  | sendMail (options : MailOptions)
  | addError (apiName : String) (details : Error)
  | emitToAdmins (event : String) (data : InventoryLowStockEvent)

abbrev NotificationM := ConsumerM (fun _ : NotificationOp => Unit) Unit

structure EmailConfig where
  emailFrom : Option String
  adminEmail : Option String

def perform (op : NotificationOp) : NotificationM := .await (.own op) .settle

def logged (apiName : String) (body : NotificationM) : NotificationM :=
  Prog.tryCatch body fun error => do
    perform (.addError apiName error)
    throw error

/-! The line breaks and the indentation of the templates are left out. -/
namespace EmailService

variable (config : EmailConfig)

def sender : String := orFallback (config.emailFrom.getD "") "noreply@ecommerce.com"

def itemLine (item : CreatedItem) : String :=
  "<li>Product: " ++ item.productId ++ " - Quantity: " ++ toString item.quantity ++ "</li>"

def sendOrderConfirmation (orderId : OrderId) (userId : UserId) (total : Int)
    (items : List CreatedItem) : NotificationM :=
  logged "EmailService.sendOrderConfirmation" <| perform <| .sendMail
    { sender := sender config
      recipient := userId
      subject := "Order Confirmation"
      html := "<h1>Order Confirmation</h1><p>Thank you for your order!</p>" ++
        "<p><strong>Order ID:</strong> " ++ orderId ++ "</p>" ++
        "<p><strong>Total:</strong> $" ++ toString total ++ "</p>" ++
        "<h2>Items:</h2><ul>" ++ String.join (items.map itemLine) ++ "</ul>" }

def sendOrderCancellation (orderId : OrderId) (userId : UserId) : NotificationM :=
  logged "EmailService.sendOrderCancellation" <| perform <| .sendMail
    { sender := sender config
      recipient := userId
      subject := "Order Cancelled"
      html := "<h1>Order Cancelled</h1><p>Your order has been cancelled.</p>" ++
        "<p><strong>Order ID:</strong> " ++ orderId ++ "</p>" }

def sendLowStockAlert (event : InventoryLowStockEvent) : NotificationM :=
  logged "EmailService.sendLowStockAlert" <| perform <| .sendMail
    { sender := sender config
      recipient := orFallback (config.adminEmail.getD "") "admin@ecommerce.com"
      subject := "Low Stock Alert"
      html := "<h1>Low Stock Alert</h1>" ++
        "<p><strong>Product ID:</strong> " ++ event.productId ++ "</p>" ++
        "<p><strong>Current Stock:</strong> " ++ toString event.currentStock ++ "</p>" ++
        "<p><strong>Threshold:</strong> " ++ toString event.threshold ++ "</p>" ++
        "<p>Please restock this product soon.</p>" }

end EmailService

/-- The handlers that `startConsumers` registers, one for each queue. -/
def handler (config : EmailConfig) : NotificationEvent → NotificationM
  | .order (.created orderId userId total items _) =>
    logged "MessagingService.orderCreatedConsumer" <|
      EmailService.sendOrderConfirmation config orderId userId total items
  | .order (.cancelled orderId userId _) =>
    logged "MessagingService.orderCancelledConsumer" <|
      EmailService.sendOrderCancellation config orderId userId
  | .lowStock event =>
    logged "MessagingService.lowStockAlertConsumer" do
      EmailService.sendLowStockAlert config event
      perform (.emitToAdmins "low-stock-alert" event)

end NotificationService

end Ecommerce
