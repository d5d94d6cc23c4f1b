import Ecommerce.Inventory.Messaging
import Ecommerce.Order.Service
import Mathlib.Data.List.Sort

/-! The system around the order service: both databases, Stripe's ledger, and what the
environment may do to an awaited operation. -/

namespace Ecommerce

structure Charge where
  transactionId : String
  orderId : OrderId
  amount : Int
  deriving DecidableEq, Repr

inductive StripeTurn
  | answered (reply : StripeObject)
  | failed (message : String)

/-- A reply that arrives in time, or a call given up with `message`; the request may have been
handled all the same. -/
inductive RpcTurn
  | answered (db : Script DbTurn)
  | failed (ran : Option (Script DbTurn)) (message : String)

def RpcTurn.ran : RpcTurn → Option (Script DbTurn)
  | .answered db => some db
  | .failed ran _ => ran

/-- `orderBy: { createdAt: 'desc' }`, with the orders of one time as the database has them. -/
structure NewestFirst where
  sort : List Order → List Order
  perm : ∀ orders, (sort orders).Perm orders
  sorted : ∀ orders, (sort orders).Pairwise fun a b => b.createdAt ≤ a.createdAt

def NewestFirst.stable : NewestFirst where
  sort orders := orders.mergeSort fun a b => b.createdAt ≤ a.createdAt
  perm orders := List.mergeSort_perm orders _
  sorted orders := by
    refine (List.pairwise_mergeSort ?_ ?_ orders).imp of_decide_eq_true
    · intro a b c hab hbc
      simp only [decide_eq_true_eq] at hab hbc ⊢
      exact hbc.trans hab
    · intro a b
      simpa using Nat.le_total b.createdAt a.createdAt

/-- The environment's move at one awaited operation; `newId` is the next `uuidv4()`, `now` the
database's clock, and `broker` the error of a publish that fails. -/
structure Turn where
  db : DbTurn
  newId : OrderId
  now : Nat
  stripe : StripeTurn
  rpc : RpcTurn
  broker : Option String
  newestFirst : NewestFirst

structure World where
  inventory : Stock
  orders : OrderTable
  charges : List Charge
  /-- The requests that the inventory service has handled with success. -/
  handled : List (InventoryQueue × List Item)
  events : List OrderEvent

/-- A shop that has not taken an order yet. -/
def World.opening (inventory : Stock) : World := ⟨inventory, .empty, [], [], []⟩

/-- A move at which everything but Stripe goes well. -/
def Turn.smooth (stripe : StripeTurn) (newId : OrderId) : Turn :=
  ⟨.accept, newId, 0, stripe, .answered fun _ => .accept, none, .stable⟩

def uniqueViolation : Error := .plain "Unique constraint failed on the fields: (`id`)"

namespace World

/-- The inventory service handles a request. -/
def serve (db : Script DbTurn) (queue : InventoryQueue) (items : List Item) (w : World) :
    InventoryResponse × World :=
  let (reply, inventory) := InventoryMessaging.exec db queue items w.inventory
  (reply, { w with
    inventory
    handled := if reply.success then w.handled ++ [(queue, items)] else w.handled })

/-- An RPC without its reply: the request is handled, or it is not. -/
def request (ran : Option (Script DbTurn)) (queue : InventoryQueue) (items : List Item)
    (w : World) : World :=
  match ran with
  | none => w
  | some db => (w.serve db queue items).2

def store (orders : OrderTable) (w : World) : World := { w with orders }

def insert (t : Turn) (data : NewOrder) (w : World) : Except Error Order × World :=
  match t.db with
  | .reject m => (.error (.plain m), w)
  | .accept =>
    match w.orders.insert (data.row t.newId t.now) with
    | none => (.error uniqueViolation, w)
    | some orders => (.ok (data.row t.newId t.now), w.store orders)

def modify (id : OrderId) (data : OrderUpdate) (w : World) : World :=
  { w with orders := w.orders.modify id data.apply data.apply_id }

def update (t : Turn) (id : OrderId) (data : OrderUpdate) (w : World) : Except Error Order × World :=
  match t.db with
  | .reject m => (.error (.plain m), w)
  | .accept =>
    match w.orders.find? id with
    | none => (.error recordNotFound, w)
    | some order => (.ok (data.apply order), w.modify id data)

def capture (c : Charge) (w : World) : World := { w with charges := w.charges ++ [c] }

def charge (params : PaymentIntentParams) (reply : StripeObject) (w : World) : World :=
  if reply.status = "succeeded" then w.capture ⟨reply.id, params.orderId, params.amount⟩ else w

def giveBack (transactionId : String) (reply : StripeObject) (w : World) : World :=
  if reply.status = "succeeded" then
    { w with charges := w.charges.filter (·.transactionId ≠ transactionId) }
  else w

def emit (broker : Option String) (event : OrderEvent) (w : World) : World :=
  match broker with
  | none => { w with events := w.events ++ [event] }
  | some _ => w

def ordersOf (w : World) (newestFirst : NewestFirst) (userId : UserId) : List Order :=
  newestFirst.sort (w.orders.rows.filter (·.userId = userId))

def query {α : Type} (t : Turn) (a : α) : Except Error α :=
  match t.db with
  | .reject m => .error (.plain m)
  | .accept => .ok a

def handle (t : Turn) : Handler OrderOp OrderOp.Res Error World
  | .findMany userId, w => (query t (w.ordersOf t.newestFirst userId), w)
  | .findUnique id, w => (query t (w.orders.find? id), w)
  | .create data, w => w.insert t data
  | .update id data, w => w.update t id data
  | .paymentIntent params, w =>
    match t.stripe with
    | .failed m => (.error (.plain m), w)
    | .answered reply => (.ok reply, w.charge params reply)
  | .refund transactionId, w =>
    match t.stripe with
    | .failed m => (.error (.plain m), w)
    | .answered reply => (.ok reply, w.giveBack transactionId reply)
  | .rpcCall queue items, w =>
    match t.rpc with
    | .answered db => (.ok (w.serve db queue items).1, (w.serve db queue items).2)
    | .failed ran m => (.error (.plain m), w.request ran queue items)
  | .publish event, w =>
    ((match t.broker with | none => .ok () | some m => .error (.plain m)), w.emit t.broker event)

end World

end Ecommerce
