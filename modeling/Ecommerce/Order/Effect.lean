import Ecommerce.Order.World

namespace Ecommerce

def StripeTurn.captures : StripeTurn → Bool
  | .answered reply => reply.status = "succeeded"
  | .failed _ => false

def Order.lines (order : Order) : List Item :=
  order.items.map fun item => ⟨item.productId, item.quantity⟩

@[simp] theorem NewOrder.lines_row (data : NewOrder) (id : OrderId) (now : Nat) :
    (data.row id now).lines = data.items := by
  simp [Order.lines, NewOrder.row, Function.comp_def, Item.row]

/-- A truthy `paymentMethodId`. -/
def CreateOrderData.pays (data : CreateOrderData) : Option String :=
  data.paymentMethodId.filter (· ≠ "")

namespace World

/-- What the caller of an RPC sees. -/
def reply (t : RpcTurn) (queue : InventoryQueue) (items : List Item) (w : World) :
    InventoryResponse :=
  match t with
  | .answered db => (w.serve db queue items).1
  | .failed _ m => { success := false, message := some m }

section Frame

variable (w : World) (ran : Option (Script DbTurn)) (queue : InventoryQueue) (items : List Item)
  (id : OrderId) (data : OrderUpdate) (broker : Option String) (event : OrderEvent)

@[simp] theorem request_orders : (w.request ran queue items).orders = w.orders := by
  cases ran <;> rfl

@[simp] theorem request_charges : (w.request ran queue items).charges = w.charges := by
  cases ran <;> rfl

@[simp] theorem store_inventory (orders : OrderTable) :
    (w.store orders).inventory = w.inventory := rfl

@[simp] theorem store_orders (orders : OrderTable) : (w.store orders).orders = orders := rfl

@[simp] theorem store_handled (orders : OrderTable) : (w.store orders).handled = w.handled := rfl

@[simp] theorem capture_orders (c : Charge) : (w.capture c).orders = w.orders := rfl

@[simp] theorem capture_handled (c : Charge) : (w.capture c).handled = w.handled := rfl

@[simp] theorem capture_charges (c : Charge) : (w.capture c).charges = w.charges ++ [c] := rfl

@[simp] theorem modify_inventory : (w.modify id data).inventory = w.inventory := rfl

@[simp] theorem modify_handled : (w.modify id data).handled = w.handled := rfl

@[simp] theorem modify_orders :
    (w.modify id data).orders = w.orders.modify id data.apply data.apply_id := rfl

@[simp] theorem emit_inventory : (w.emit broker event).inventory = w.inventory := by
  cases broker <;> rfl

@[simp] theorem emit_orders : (w.emit broker event).orders = w.orders := by
  cases broker <;> rfl

@[simp] theorem emit_charges : (w.emit broker event).charges = w.charges := by
  cases broker <;> rfl

@[simp] theorem emit_handled : (w.emit broker event).handled = w.handled := by
  cases broker <;> rfl

end Frame

theorem find?_modify_self {w : World} {id : OrderId} {order : Order}
    (h : w.orders.find? id = some order) (data : OrderUpdate) :
    (w.modify id data).orders.find? id = some (data.apply order) := by
  rw [modify_orders, Table.find?_modify, if_pos rfl, h]
  rfl

theorem find?_modify_of_ne {w : World} {id id' : OrderId} (h : id' ≠ id) (data : OrderUpdate) :
    (w.modify id data).orders.find? id' = w.orders.find? id' := by
  rw [modify_orders, Table.find?_modify, if_neg h]

theorem insert_cases (t : Turn) (data : NewOrder) (w : World) :
    (∃ e, w.insert t data = (.error e, w) ∧
      ((∃ m, t.db = .reject m) ∨ w.orders.find? t.newId ≠ none)) ∨
    (∃ orders, w.insert t data = (.ok (data.row t.newId t.now), (w.store orders)) ∧
      t.db = .accept ∧ w.orders.insert (data.row t.newId t.now) = some orders) := by
  simp only [insert]
  cases hdb : t.db with
  | reject m => exact .inl ⟨_, rfl, .inl ⟨m, rfl⟩⟩
  | accept =>
    cases horders : w.orders.insert (data.row t.newId t.now) with
    | none => exact .inl ⟨_, rfl, .inr (Table.insert_eq_none.mp horders)⟩
    | some orders => exact .inr ⟨orders, rfl, rfl, rfl⟩

theorem update_of_some {t : Turn} {id : OrderId} {data : OrderUpdate} {w : World} {order : Order}
    (h : w.orders.find? id = some order) :
    w.update t id data = match t.db with
      | .reject m => (.error (.plain m), w)
      | .accept => (.ok (data.apply order), w.modify id data) := by
  rw [update]
  cases t.db with
  | reject m => rfl
  | accept => rw [h]

end World

inductive Settles (env : Script Turn) (data : CreateOrderData) (id : OrderId) (total : Int)
    (w : World) : Except Error Unit → Script Turn → World → Prop
  | unpaid (hpays : data.pays = none) : Settles env data id total w (.ok ()) env w
  | declined {m : String} (hpays : data.pays = some m) (hstripe : (env 0).stripe.captures = false) :
      Settles env data id total w (.error (.badRequest "Payment failed")) env.tail.tail
        (w.request (env 1).rpc.ran .release data.items)
  | unrecorded {m e : String} (hpays : data.pays = some m) (reply : StripeObject)
      (hstripe : (env 0).stripe.captures) (hdb : (env 1).db = .reject e) :
      Settles env data id total w (.error (.plain e)) env.tail.tail
        (w.capture ⟨reply.id, id, total * 100⟩)
  | unconfirmed {m e : String} (hpays : data.pays = some m) (reply : StripeObject)
      (hstripe : (env 0).stripe.captures) (hdb : (env 1).db = .accept)
      (hdb' : (env 2).db = .reject e) :
      Settles env data id total w (.error (.plain e)) env.tail.tail.tail
        ((w.capture ⟨reply.id, id, total * 100⟩).modify id (.paymentStatus .completed))
  | confirmed {m : String} (hpays : data.pays = some m) (reply : StripeObject)
      (hstripe : (env 0).stripe.captures) (hdb : (env 1).db = .accept) (hdb' : (env 2).db = .accept) :
      Settles env data id total w (.ok ()) env.tail.tail.tail.tail
        ((((w.capture ⟨reply.id, id, total * 100⟩).modify id (.paymentStatus .completed)).modify id
          (.status .confirmed)).request (env 3).rpc.ran .confirm data.items)

def CreateOrderData.newOrder (data : CreateOrderData) : NewOrder where
  userId := data.userId
  items := data.items
  shippingAddress := data.shippingAddress
  subtotal := 1000
  tax := 100
  total := 1100
  status := .pending
  paymentStatus := .pending

inductive Creates (env : Script Turn) (data : CreateOrderData) (w : World) :
    Except Error Order × World → Prop
  | refused {m : String} (hreply : (w.reply (env 0).rpc .reserve data.items).success = false) :
      Creates env data w (.error (.badRequest m), w.request (env 0).rpc.ran .reserve data.items)
  | notInserted {e : Error} (hreply : (w.reply (env 0).rpc .reserve data.items).success)
      (hinsert : (∃ m, (env 1).db = .reject m) ∨ w.orders.find? (env 1).newId ≠ none) :
      Creates env data w (.error e,
        (w.request (env 0).rpc.ran .reserve data.items).request (env 2).rpc.ran .release data.items)
  | failed {e : Error} {env' : Script Turn} {orders : OrderTable} {w' : World}
      (hreply : (w.reply (env 0).rpc .reserve data.items).success) (hdb : (env 1).db = .accept)
      (hinsert : w.orders.insert (data.newOrder.row (env 1).newId (env 1).now) = some orders)
      (hsettle : Settles env.tail.tail data (env 1).newId 1100
        ((w.request (env 0).rpc.ran .reserve data.items).store orders) (.error e) env' w') :
      Creates env data w (.error e, w'.request (env' 0).rpc.ran .release data.items)
  | placed {env' : Script Turn} {orders : OrderTable} {w' : World}
      (hreply : (w.reply (env 0).rpc .reserve data.items).success) (hdb : (env 1).db = .accept)
      (hinsert : w.orders.insert (data.newOrder.row (env 1).newId (env 1).now) = some orders)
      (hsettle : Settles env.tail.tail data (env 1).newId 1100
        ((w.request (env 0).rpc.ran .reserve data.items).store orders) (.ok ()) env' w') :
      Creates env data w (.ok (data.newOrder.row (env 1).newId (env 1).now),
        w'.emit (env' 0).broker (OrderService.createdEvent data
          (data.newOrder.row (env 1).newId (env 1).now) 1100))

inductive Cancels (env : Script Turn) (id : OrderId) (userId : UserId) (w : World) :
    Except Error Order × World → Prop
  | unread {m : String} (hdb : (env 0).db = .reject m) :
      Cancels env id userId w (.error (.plain m), w)
  | missing (hdb : (env 0).db = .accept)
      (hfind : ∀ order, w.orders.find? id = some order → order.userId ≠ userId) :
      Cancels env id userId w (.error (.notFound "Order not found"), w)
  | settled {order : Order} (hdb : (env 0).db = .accept) (hfind : w.orders.find? id = some order)
      (huser : order.userId = userId) (hstatus : order.status ∉ [.pending, .confirmed]) :
      Cancels env id userId w (.error (.badRequest "Order cannot be cancelled"), w)
  | unwritten {order : Order} {m : String} (hdb : (env 0).db = .accept)
      (hfind : w.orders.find? id = some order) (huser : order.userId = userId)
      (hstatus : order.status ∈ [.pending, .confirmed]) (hdb' : (env 2).db = .reject m) :
      Cancels env id userId w (.error (.plain m), w.request (env 1).rpc.ran .release order.lines)
  | cancelled {order : Order} (hdb : (env 0).db = .accept)
      (hfind : w.orders.find? id = some order) (huser : order.userId = userId)
      (hstatus : order.status ∈ [.pending, .confirmed]) (hdb' : (env 2).db = .accept) :
      Cancels env id userId w (.ok { order with status := .cancelled },
        ((w.request (env 1).rpc.ran .release order.lines).modify id (.status .cancelled)).emit
          (env 3).broker (.cancelled id userId order.lines))

section Run

variable (env : Script Turn) (w : World)

theorem run_rpc (queue : InventoryQueue) (items : List Item) :
    (MessagingService.rpc queue items).run (Handler.scripted World.handle) (env, w) =
      (.ok (w.reply (env 0).rpc queue items), env.tail, w.request (env 0).rpc.ran queue items) := by
  rw [MessagingService.rpc, Prog.run_tryCatch, Prog.run_perform]
  simp only [Handler.scripted_apply, World.handle]
  cases (env 0).rpc with
  | answered db => rfl
  | failed ran m => rfl

theorem run_publish (event : OrderEvent) :
    (MessagingService.publish event).run (Handler.scripted World.handle) (env, w) =
      (.ok (), env.tail, w.emit (env 0).broker event) := by
  rw [MessagingService.publish, Prog.run_tryCatch, Prog.run_perform]
  simp only [Handler.scripted_apply, World.handle]
  cases (env 0).broker <;> rfl

theorem run_processPayment (data : PaymentData) :
    ∃ r w', (PaymentService.processPayment data).run (Handler.scripted World.handle) (env, w) =
        (.ok r, env.tail, w') ∧ r.success = (env 0).stripe.captures ∧
      (r.success = false → w' = w) ∧
      (r.success → ∃ reply : StripeObject,
        w' = w.capture ⟨reply.id, data.orderId, data.amount * 100⟩) := by
  rw [PaymentService.processPayment, Prog.run_tryCatch, Prog.run_bind, Prog.run_perform]
  simp only [Handler.scripted_apply, World.handle]
  cases (env 0).stripe with
  | failed m => exact ⟨_, w, rfl, rfl, fun _ => rfl, fun h => by simp at h⟩
  | answered reply =>
    refine ⟨_, _, rfl, rfl, fun h => ?_, fun h => ⟨reply, ?_⟩⟩
    · simp only [World.charge, decide_eq_false_iff_not] at h ⊢
      rw [if_neg h]
    · simp only [World.charge, decide_eq_true_eq] at h ⊢
      rw [if_pos h]

theorem run_updateStatus {id : OrderId} {order : Order} (h : w.orders.find? id = some order)
    (status : OrderStatus) :
    (OrderRepository.updateStatus id status).run (Handler.scripted World.handle) (env, w) =
      match (env 0).db with
      | .reject m => (.error (.plain m), env.tail, w)
      | .accept => (.ok { order with status }, env.tail, w.modify id (.status status)) := by
  rw [OrderRepository.updateStatus, Prog.run_perform]
  simp only [Handler.scripted_apply, World.handle, World.update_of_some h]
  cases (env 0).db <;> rfl

theorem run_updatePaymentStatus {id : OrderId} {order : Order} (h : w.orders.find? id = some order)
    (paymentStatus : PaymentStatus) :
    (OrderRepository.updatePaymentStatus id paymentStatus).run (Handler.scripted World.handle)
        (env, w) =
      match (env 0).db with
      | .reject m => (.error (.plain m), env.tail, w)
      | .accept => (.ok { order with paymentStatus }, env.tail,
          w.modify id (.paymentStatus paymentStatus)) := by
  rw [OrderRepository.updatePaymentStatus, Prog.run_perform]
  simp only [Handler.scripted_apply, World.handle, World.update_of_some h]
  cases (env 0).db <;> rfl

theorem run_settlePayment (data : CreateOrderData) {order : Order} (total : Int)
    (horder : w.orders.find? order.id = some order) :
    ∃ r env' w', (OrderService.settlePayment data order total).run (Handler.scripted World.handle)
      (env, w) = (r, env', w') ∧ Settles env data order.id total w r env' w' := by
  rw [OrderService.settlePayment]
  cases hpays : data.paymentMethodId.filter (· ≠ "") with
  | none => exact ⟨_, _, _, rfl, .unpaid hpays⟩
  | some m =>
    obtain ⟨r, w₁, hrun, hcaptures, hkept, hcharged⟩ :=
      run_processPayment env w { orderId := order.id, amount := total, paymentMethodId := m }
    dsimp only
    rw [Prog.run_bind_ok _ hrun]
    cases hsuccess : r.success with
    | false =>
      rw [hkept hsuccess]
      rw [hsuccess] at hcaptures
      simp only [Bool.false_eq_true, if_false]
      rw [MessagingService.releaseStock, Prog.run_bind_ok _ (run_rpc env.tail w .release data.items)]
      exact ⟨_, _, _, rfl, .declined hpays hcaptures.symm⟩
    | true =>
      obtain ⟨reply, rfl⟩ := hcharged hsuccess
      rw [hsuccess] at hcaptures
      simp only [if_true]
      have hpaid := run_updatePaymentStatus env.tail
        (w.capture ⟨reply.id, order.id, total * 100⟩) horder .completed
      cases hdb : (env 1).db with
      | reject e =>
        simp only [Script.tail_apply, Nat.zero_add, hdb] at hpaid
        rw [Prog.run_bind_error _ hpaid]
        exact ⟨_, _, _, rfl, .unrecorded hpays reply hcaptures.symm hdb⟩
      | accept =>
        simp only [Script.tail_apply, Nat.zero_add, hdb] at hpaid
        rw [Prog.run_bind_ok _ hpaid]
        have hconfirmed := run_updateStatus env.tail.tail _
          (World.find?_modify_self (w := w.capture ⟨reply.id, order.id, total * 100⟩) horder
            (.paymentStatus .completed)) .confirmed
        cases hdb' : (env 2).db with
        | reject e =>
          simp only [Script.tail_apply, Nat.zero_add, hdb'] at hconfirmed
          rw [Prog.run_bind_error _ hconfirmed]
          exact ⟨_, _, _, rfl, .unconfirmed hpays reply hcaptures.symm hdb hdb'⟩
        | accept =>
          simp only [Script.tail_apply, Nat.zero_add, hdb'] at hconfirmed
          rw [Prog.run_bind_ok _ hconfirmed, MessagingService.confirmReservation,
            Prog.run_bind_ok _ (run_rpc env.tail.tail.tail _ .confirm data.items)]
          exact ⟨_, _, _, rfl, .confirmed hpays reply hcaptures.symm hdb hdb'⟩

/-- The `try` block: the insert fails, a later step fails, or it all goes through. -/
theorem run_placeOrder (data : CreateOrderData) :
    (∃ e, (OrderService.placeOrder data).run (Handler.scripted World.handle) (env, w) =
        (.error e, env.tail, w) ∧
      ((∃ m, (env 0).db = .reject m) ∨ w.orders.find? (env 0).newId ≠ none)) ∨
    (∃ orders e env' w', (env 0).db = .accept ∧
      w.orders.insert (data.newOrder.row (env 0).newId (env 0).now) = some orders ∧
      Settles env.tail data (env 0).newId 1100 (w.store orders) (.error e) env' w' ∧
      (OrderService.placeOrder data).run (Handler.scripted World.handle) (env, w) =
        (.error e, env', w')) ∨
    (∃ orders env' w', (env 0).db = .accept ∧
      w.orders.insert (data.newOrder.row (env 0).newId (env 0).now) = some orders ∧
      Settles env.tail data (env 0).newId 1100 (w.store orders) (.ok ()) env' w' ∧
      (OrderService.placeOrder data).run (Handler.scripted World.handle) (env, w) =
        (.ok (data.newOrder.row (env 0).newId (env 0).now), env'.tail,
          w'.emit (env' 0).broker (OrderService.createdEvent data
            (data.newOrder.row (env 0).newId (env 0).now) 1100))) := by
  have hcreate : (OrderRepository.create data.newOrder).run (Handler.scripted World.handle) (env, w) =
      ((w.insert (env 0) data.newOrder).1, env.tail, (w.insert (env 0) data.newOrder).2) :=
    Prog.run_perform _ _ _
  have hplace : OrderService.placeOrder data = (do
      let order ← OrderRepository.create data.newOrder
      OrderService.settlePayment data order 1100
      MessagingService.publish (OrderService.createdEvent data order 1100)
      pure order) := rfl
  rw [hplace]
  obtain ⟨e, hinsert, hwhy⟩ | ⟨orders, hinsert, hdb, horders⟩ :=
    World.insert_cases (env 0) data.newOrder w
  · rw [hinsert] at hcreate
    exact .inl ⟨e, Prog.run_bind_error _ hcreate, hwhy⟩
  · rw [hinsert] at hcreate
    have hfind : orders.find? (data.newOrder.row (env 0).newId (env 0).now).id =
        some (data.newOrder.row (env 0).newId (env 0).now) := by
      rw [Table.find?_insert horders, if_pos rfl]
    obtain ⟨r, env', w', hrun, hsettle⟩ :=
      run_settlePayment env.tail (w.store orders) data 1100 hfind
    rw [Prog.run_bind_ok _ hcreate]
    cases r with
    | error e =>
      refine .inr (.inl ⟨orders, e, env', w', hdb, horders, hsettle, ?_⟩)
      exact Prog.run_bind_error _ hrun
    | ok u =>
      refine .inr (.inr ⟨orders, env', w', hdb, horders, hsettle, ?_⟩)
      rw [Prog.run_bind_ok _ hrun, Prog.run_bind_ok _ (run_publish env' w' _)]
      rfl

end Run

section Play

variable (env : Script Turn) (w : World)

theorem creates (data : CreateOrderData) :
    Creates env data w (Prog.play World.handle env (OrderService.create data) w) := by
  have hreserve := run_rpc env w .reserve data.items
  rw [Prog.play, OrderService.create, MessagingService.reserveStock, Prog.run_bind_ok _ hreserve]
  cases hreply : (w.reply (env 0).rpc .reserve data.items).success with
  | false => exact .refused hreply
  | true =>
    have hrelease : ∀ (e : Error) (env' : Script Turn) (w' : World),
        (do let _ ← MessagingService.releaseStock data.items; throw e : OrderM Order).run
          (Handler.scripted World.handle) (env', w') =
          (.error e, env'.tail, w'.request (env' 0).rpc.ran .release data.items) := by
      intro e env' w'
      rw [MessagingService.releaseStock, Prog.run_bind_ok _ (run_rpc env' w' .release data.items)]
      rfl
    simp only [if_true, Prog.run_tryCatch]
    obtain ⟨e, hplace, hinsert⟩ | ⟨orders, e, env', w', hdb, hinsert, hsettle, hplace⟩ |
        ⟨orders, env', w', hdb, hinsert, hsettle, hplace⟩ :=
      run_placeOrder env.tail (w.request (env 0).rpc.ran .reserve data.items) data
    · simp only [hplace, hrelease]
      rw [World.request_orders] at hinsert
      exact .notInserted hreply hinsert
    · simp only [hplace, hrelease]
      rw [World.request_orders] at hinsert
      exact .failed hreply hdb hinsert hsettle
    · simp only [hplace]
      rw [World.request_orders] at hinsert
      exact .placed hreply hdb hinsert hsettle

theorem cancels_of_found {id : OrderId} {userId : UserId} {order : Order}
    (hdb : (env 0).db = .accept) (hfind : w.orders.find? id = some order)
    (huser : order.userId = userId) (hstatus : order.status ∈ [.pending, .confirmed]) :
    Cancels env id userId w (Prog.play World.handle env.tail (do
      let _ ← MessagingService.releaseStock order.lines
      let updatedOrder ← OrderRepository.updateStatus id .cancelled
      MessagingService.publish (.cancelled id userId order.lines)
      pure updatedOrder) w) := by
  have hrelease := run_rpc env.tail w .release order.lines
  simp only [Script.tail_apply, Nat.zero_add] at hrelease
  rw [Prog.play, MessagingService.releaseStock, Prog.run_bind_ok _ hrelease]
  have hfind' : (w.request (env 1).rpc.ran .release order.lines).orders.find? id = some order := by
    rw [World.request_orders, hfind]
  have hupdate := run_updateStatus env.tail.tail _ hfind' .cancelled
  cases hdb' : (env 2).db with
  | reject m =>
    simp only [Script.tail_apply, Nat.zero_add, hdb'] at hupdate
    rw [Prog.run_bind_error _ hupdate]
    exact .unwritten hdb hfind huser hstatus hdb'
  | accept =>
    simp only [Script.tail_apply, Nat.zero_add, hdb'] at hupdate
    rw [Prog.run_bind_ok _ hupdate, Prog.run_bind_ok _ (run_publish env.tail.tail.tail _ _)]
    exact .cancelled hdb hfind huser hstatus hdb'

theorem cancels (id : OrderId) (userId : UserId) :
    Cancels env id userId w (Prog.play World.handle env (OrderService.cancel id userId) w) := by
  have hfindById : (OrderRepository.findById id).run (Handler.scripted World.handle) (env, w) =
      (World.query (env 0) (w.orders.find? id), env.tail, w) := Prog.run_perform _ _ _
  rw [Prog.play, OrderService.cancel]
  cases hdb : (env 0).db with
  | reject m =>
    simp only [World.query, hdb] at hfindById
    rw [Prog.run_bind_error _ hfindById]
    exact .unread hdb
  | accept =>
    simp only [World.query, hdb] at hfindById
    rw [Prog.run_bind_ok _ hfindById]
    cases hfind : w.orders.find? id with
    | none => exact .missing hdb fun order h => by simp [hfind] at h
    | some order =>
      by_cases huser : order.userId = userId
      · by_cases hstatus : order.status ∈ [.pending, .confirmed]
        · simp only [huser, hstatus, ne_eq, not_true, if_false]
          exact cancels_of_found env w hdb hfind huser hstatus
        · simp only [huser, hstatus, ne_eq, not_true, not_false_iff, if_false, if_true]
          exact .settled hdb hfind huser hstatus
      · simp only [huser, ne_eq, not_false_iff, if_true]
        exact .missing hdb fun order' h => by
          obtain rfl : order = order' := Option.some.inj (hfind.symm.trans h)
          exact huser

end Play

namespace World

variable {w : World} {items : List Item}

theorem isSome_request (w : World) (ran : Option (Script DbTurn)) (queue : InventoryQueue)
    (items : List Item) (p : ProductId) :
    ((w.request ran queue items).inventory p).isSome = (w.inventory p).isSome := by
  cases ran with
  | none => rfl
  | some db => exact InventoryMessaging.isSome_exec db queue items w.inventory p

theorem stocked_request (w : World) (ran : Option (Script DbTurn)) (queue : InventoryQueue)
    (items items' : List Item) :
    (w.request ran queue items).inventory.Stocked items' ↔ w.inventory.Stocked items' := by
  simp only [Stock.Stocked, isSome_request]

section Accept

variable {t : Turn} (ht : t.rpc = .answered fun _ => .accept)
include ht

theorem reply_reserve : (w.reply t.rpc .reserve items).success =
    InventoryService.grants w.inventory items := by
  rw [ht]
  exact (InventoryMessaging.exec_reserve_accept w.inventory items).1

theorem inventory_reserve : (w.request t.rpc.ran .reserve items).inventory =
    if InventoryService.grants w.inventory items then w.inventory.shift 0 (demand items)
    else w.inventory := by
  rw [ht]
  exact (InventoryMessaging.exec_reserve_accept w.inventory items).2

theorem inventory_release (hw : w.inventory.Stocked items) :
    (w.request t.rpc.ran .release items).inventory = w.inventory.shift 0 (-demand items) := by
  rw [ht]
  exact (InventoryMessaging.exec_release_accept hw).1

theorem inventory_confirm (hw : w.inventory.Stocked items) :
    (w.request t.rpc.ran .confirm items).inventory =
      w.inventory.shift (-demand items) (-demand items) := by
  rw [ht]
  exact (InventoryMessaging.exec_confirm_accept hw).1

theorem reserved_release (hw : w.inventory.Stocked items) (p : ProductId) :
    (w.request t.rpc.ran .release items).inventory.reserved p =
      w.inventory.reserved p - demand items p := by
  rw [inventory_release ht hw, Stock.reserved_shift fun p hp => by simp [hw.demand_eq_zero hp]]
  simp [sub_eq_add_neg]

theorem reserved_reserve (hgrants : InventoryService.grants w.inventory items) (p : ProductId) :
    (w.request t.rpc.ran .reserve items).inventory.reserved p =
      w.inventory.reserved p + demand items p := by
  have hw := InventoryService.stocked_of_grants hgrants
  rw [inventory_reserve ht, if_pos hgrants, Stock.reserved_shift fun p hp => hw.demand_eq_zero hp]
  rfl

theorem reserved_confirm (hw : w.inventory.Stocked items) (p : ProductId) :
    (w.request t.rpc.ran .confirm items).inventory.reserved p =
      w.inventory.reserved p - demand items p := by
  rw [inventory_confirm ht hw, Stock.reserved_shift fun p hp => by simp [hw.demand_eq_zero hp]]
  simp [sub_eq_add_neg]

end Accept

end World

theorem Settles.pending_of_error {env env' : Script Turn} {data : CreateOrderData} {id : OrderId}
    {total : Int} {w w' : World} {e : Error} (h : Settles env data id total w (.error e) env' w')
    {order : Order} (hfind : w.orders.find? id = some order) (hpending : order.status = .pending) :
    ∃ order', w'.orders.find? id = some order' ∧ order'.status = .pending := by
  cases h with
  | declined => exact ⟨order, by rw [World.request_orders, hfind], hpending⟩
  | unrecorded => exact ⟨order, hfind, hpending⟩
  | unconfirmed =>
    exact ⟨_, World.find?_modify_self (w := w.capture _) hfind (.paymentStatus .completed), hpending⟩

theorem Settles.confirmed_of_ok {env env' : Script Turn} {data : CreateOrderData} {id : OrderId}
    {total : Int} {w w' : World} (h : Settles env data id total w (.ok ()) env' w')
    (hpays : data.pays.isSome) {order : Order} (hfind : w.orders.find? id = some order) :
    w'.orders.find? id = some { order with status := .confirmed, paymentStatus := .completed } := by
  cases h with
  | unpaid hnone => simp [hnone] at hpays
  | confirmed _ reply =>
    have hpaid := World.find?_modify_self (w := w.capture ⟨reply.id, id, total * 100⟩) hfind
      (.paymentStatus .completed)
    rw [World.request_orders, World.find?_modify_self hpaid]
    rfl

theorem Settles.find?_of_ne {env env' : Script Turn} {data : CreateOrderData} {id id' : OrderId}
    {total : Int} {w w' : World} {r : Except Error Unit} (h : Settles env data id total w r env' w')
    (hid : id' ≠ id) : w'.orders.find? id' = w.orders.find? id' := by
  cases h with
  | unpaid => rfl
  | declined => rw [World.request_orders]
  | unrecorded => rfl
  | unconfirmed => rw [World.find?_modify_of_ne hid, World.capture_orders]
  | confirmed =>
    rw [World.request_orders, World.find?_modify_of_ne hid, World.find?_modify_of_ne hid,
      World.capture_orders]

/-- The two operations that move stock and money. -/
inductive OrderCall
  | create (data : CreateOrderData)
  | cancel (id : OrderId) (userId : UserId)

def OrderCall.program : OrderCall → OrderM Order
  | .create data => OrderService.create data
  | .cancel id userId => OrderService.cancel id userId

/-- The world after the call has been run to completion against its script. -/
def OrderCall.serve (w : World) (call : OrderCall × Script Turn) : World :=
  (Prog.play World.handle call.2 call.1.program w).2

end Ecommerce
