import Ecommerce.Order.World

namespace Ecommerce

structure RpcRequest where
  correlationId : String
  queue : InventoryQueue
  items : List Item

structure RpcReply where
  correlationId : String
  response : InventoryResponse

/-- The inventory service and one client of it, with the messages between them. -/
structure Wire where
  inventory : Stock
  requests : List RpcRequest
  replies : List RpcReply
  /-- The calls that have neither timed out nor been answered. -/
  pendingRPCs : List String
  client : OrderM Order

inductive WireEvent
  | consume
  | reply
  | timeout (correlationId : String)

namespace Wire

def init (client : OrderM Order) (inventory : Stock) : Wire := ⟨inventory, [], [], [], client⟩

/-- The client's next call is sent. -/
def rpcCall (correlationId : String) (w : Wire) : Wire :=
  match w.client.awaited with
  | some (.rpcCall queue items) =>
    { w with
      pendingRPCs := correlationId :: w.pendingRPCs
      requests := w.requests ++ [⟨correlationId, queue, items⟩] }
  | _ => w

def resume (r : Except Error InventoryResponse) : OrderM Order → OrderM Order
  | .await (.rpcCall _ _) k => k r
  | client => client

def settle (correlationId : String) (r : Except Error InventoryResponse) (w : Wire) : Wire :=
  if correlationId ∈ w.pendingRPCs then
    { w with
      pendingRPCs := w.pendingRPCs.erase correlationId
      client := resume r w.client }
  else w

def serve (db : Script DbTurn) (w : Wire) : Wire :=
  match w.requests with
  | [] => w
  | request :: requests =>
    let (response, inventory) := InventoryMessaging.exec db request.queue request.items w.inventory
    { w with
      inventory
      requests
      replies := w.replies ++ [⟨request.correlationId, response⟩] }

def handleRPCResponse (w : Wire) : Wire :=
  match w.replies with
  | [] => w
  | reply :: replies => { w with replies }.settle reply.correlationId (.ok reply.response)

def step (db : Script DbTurn) (w : Wire) : WireEvent → Wire
  | .consume => w.serve db
  | .reply => w.handleRPCResponse
  | .timeout correlationId => w.settle correlationId (.error (.plain "RPC timeout"))

/-- The client has rejected, and no message is in flight any more. -/
structure GivenUp (w : Wire) : Prop where
  rejected : ∃ e, w.client.settlement = some (.error e)
  requests : w.requests = []
  replies : w.replies = []

/-- Where a single call can be: whether its request has been handled, and whether the client
still waits for it. -/
inductive Phase (db : Script DbTurn) (id : String) (queue : InventoryQueue) (items : List Item)
    (s : Stock) (k : Except Error InventoryResponse → OrderM Order) : Wire → Prop
  | sent : Phase db id queue items s k
      ⟨s, [⟨id, queue, items⟩], [], [id], .await (.rpcCall queue items) k⟩
  | answered : Phase db id queue items s k
      ⟨(InventoryMessaging.exec db queue items s).2, [],
        [⟨id, (InventoryMessaging.exec db queue items s).1⟩], [id], .await (.rpcCall queue items) k⟩
  | abandoned (r : Except Error InventoryResponse) : Phase db id queue items s k
      ⟨s, [⟨id, queue, items⟩], [], [], k r⟩
  | late (r : Except Error InventoryResponse) : Phase db id queue items s k
      ⟨(InventoryMessaging.exec db queue items s).2, [],
        [⟨id, (InventoryMessaging.exec db queue items s).1⟩], [], k r⟩
  | closed (r : Except Error InventoryResponse) : Phase db id queue items s k
      ⟨(InventoryMessaging.exec db queue items s).2, [], [], [], k r⟩

section Phase

variable {db : Script DbTurn} {id : String} {queue : InventoryQueue} {items : List Item}
  {s : Stock} {k : Except Error InventoryResponse → OrderM Order} {w : Wire}

theorem phase_rpcCall :
    Phase db id queue items s k ((init (.await (.rpcCall queue items) k) s).rpcCall id) := .sent

theorem Phase.step (h : Phase db id queue items s k w) (event : WireEvent) :
    Phase db id queue items s k (w.step db event) := by
  cases event with
  | consume =>
    cases h with
    | sent => exact .answered
    | answered => exact .answered
    | abandoned r => exact .late r
    | late r => exact .late r
    | closed r => exact .closed r
  | reply =>
    cases h with
    | sent => exact .sent
    | answered =>
      simpa [Wire.step, handleRPCResponse, settle, resume] using
        Phase.closed (.ok (InventoryMessaging.exec db queue items s).1)
    | abandoned r => exact .abandoned r
    | late r =>
      simpa [Wire.step, handleRPCResponse, settle] using Phase.closed r
    | closed r => exact .closed r
  | timeout correlationId =>
    by_cases hid : correlationId = id
    · subst hid
      cases h with
      | sent => simpa [Wire.step, settle, resume] using Phase.abandoned (.error (.plain "RPC timeout"))
      | answered => simpa [Wire.step, settle, resume] using Phase.late (.error (.plain "RPC timeout"))
      | abandoned r => simpa [Wire.step, settle] using Phase.abandoned r
      | late r => simpa [Wire.step, settle] using Phase.late r
      | closed r => simpa [Wire.step, settle] using Phase.closed r
    · have hother : w.step db (.timeout correlationId) = w := by
        cases h <;> simp [Wire.step, settle, hid]
      rw [hother]
      exact h

theorem Phase.run (h : Phase db id queue items s k w) (events : List WireEvent) :
    Phase db id queue items s k (events.foldl (Wire.step db) w) := by
  induction events generalizing w with
  | nil => exact h
  | cons event events ih => exact ih (h.step event)

theorem Phase.inventory_eq (h : Phase db id queue items s k w) (hgivenUp : w.GivenUp) :
    w.inventory = (InventoryMessaging.exec db queue items s).2 := by
  cases h with
  | sent => exact absurd hgivenUp.requests (List.cons_ne_nil _ _)
  | abandoned r => exact absurd hgivenUp.requests (List.cons_ne_nil _ _)
  | answered => rfl
  | late r => rfl
  | closed r => rfl

end Phase

end Wire

open InventoryService

/-- A reservation that fails to reach `create` in time leaves every product's reserved quantity as
it was exactly when its pass over the items left nothing taken out. -/
theorem unstranded_iff {data : CreateOrderData} (hpos : Positive data.items) (s : Stock)
    (db : Script DbTurn) (id : String) {events : List WireEvent}
    (hgivenUp : (events.foldl (Wire.step db)
      ((Wire.init (OrderService.create data) s).rpcCall id)).GivenUp) :
    (events.foldl (Wire.step db)
        ((Wire.init (OrderService.create data) s).rpcCall id)).inventory.reserved = s.reserved ↔
      (pass db s data.items).Undone := by
  obtain ⟨k, hcreate⟩ : ∃ k, OrderService.create data = .await (.rpcCall .reserve data.items) k :=
    ⟨_, rfl⟩
  rw [hcreate] at hgivenUp ⊢
  rw [(Wire.phase_rpcCall.run events).inventory_eq hgivenUp, InventoryMessaging.exec_reserve_state]
  have hstocked := stocked_taken db s data.items
  obtain ⟨left, hleft, hkept, hundone⟩ := Pass.exists_left hstocked
  have hleftStocked : s.Stocked left := fun item hitem => hstocked item (hleft.subset hitem)
  have hleftPos : Positive left := fun item hitem =>
    hpos item ((prefix_taken db s data.items).subset (hleft.subset hitem))
  rw [hkept, Stock.reserved_shift fun p => hleftStocked.demand_eq_zero, ← hundone,
    ← hleftPos.demand_eq_zero_iff]
  exact add_eq_left.trans funext_iff

/-- With a database that fails at nothing, what is left untouched is an empty list of items or one
that the stock does not cover. -/
theorem undone_accept_iff {s : Stock} {items : List Item} (hpos : Positive items) :
    (pass (fun _ => .accept) s items).Undone ↔ items = [] ∨ ¬ Reservable s items := by
  rw [← grants_iff hpos]
  obtain ⟨taken, ending, hpass, ⟨hgrants, rfl, rfl⟩ | ⟨hgrants, p, rfl⟩⟩ := pass_accept s items
  · simp [hpass, Pass.Undone, hgrants]
  · simp [hpass, Pass.Undone, hgrants]

section Example

private def crates : CreateOrderData :=
  ⟨"u", [⟨"a", 3⟩, ⟨"b", 1⟩], ⟨"", "", "", "", ""⟩, none⟩

private def depot : Stock :=
  Function.update (Stock.single "a" ⟨10, 0, 5⟩) "b" (some ⟨4, 0, 5⟩)

/-- The timer fires while the request is still in its queue. -/
private def overdue : List WireEvent := [.timeout "id", .consume, .reply]

/-- The database fails at the read of the second item. -/
private def lapse : Script DbTurn := fun n => if n = 2 then .reject "timeout" else .accept

private theorem givenUp_overdue :
    (overdue.foldl (Wire.step fun _ => .accept)
      ((Wire.init (OrderService.create crates) depot).rpcCall "id")).GivenUp :=
  ⟨⟨_, rfl⟩, rfl, rfl⟩

theorem unstranded_iff_depot :
    (overdue.foldl (Wire.step fun _ => .accept)
        ((Wire.init (OrderService.create crates) depot).rpcCall "id")).inventory.reserved =
        depot.reserved ↔ (pass (fun _ => .accept) depot crates.items).Undone :=
  unstranded_iff (by decide) depot (fun _ => .accept) "id" givenUp_overdue

/-- A call that timed out before its request was handled, and one whose handler failed halfway:
`create` has rejected, and three units stay reserved for it. -/
theorem not_unstranded_depot :
    ((overdue.foldl (Wire.step fun _ => .accept)
        ((Wire.init (OrderService.create crates) depot).rpcCall "id")).GivenUp ∧
      (overdue.foldl (Wire.step fun _ => .accept)
        ((Wire.init (OrderService.create crates) depot).rpcCall "id")).inventory.reserved ≠
        depot.reserved) ∧
    (([.consume, .reply].foldl (Wire.step lapse)
        ((Wire.init (OrderService.create crates) depot).rpcCall "id")).GivenUp ∧
      ([.consume, .reply].foldl (Wire.step lapse)
        ((Wire.init (OrderService.create crates) depot).rpcCall "id")).inventory.reserved ≠
        depot.reserved) :=
  ⟨⟨givenUp_overdue, fun h => absurd (congrFun h "a") (by decide)⟩,
    ⟨⟨_, rfl⟩, rfl, rfl⟩, fun h => absurd (congrFun h "a") (by decide)⟩

end Example

end Ecommerce
