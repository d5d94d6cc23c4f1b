import Ecommerce.Order.Backing
import Ecommerce.Order.Cancelling

/-! Cancellations that overlap the payment of their order. -/

namespace Ecommerce

/-- A move at which nothing fails and the payment is approved. -/
structure Turn.Approving (c : Turn) : Prop where
  db : c.db = .accept
  rpc : c.rpc = .answered fun _ => .accept
  stripe : c.stripe.captures

inductive PaidCall
  | paying
  | recording
  | confirming
  | settling
  | announcing
  | resolved
  deriving DecidableEq

namespace PaidCall

def next : PaidCall → PaidCall
  | .paying => .recording
  | .recording => .confirming
  | .confirming => .settling
  | .settling => .announcing
  | .announcing => .resolved
  | .resolved => .resolved

variable (data : CreateOrderData) (order : Order)

/-- The rest of `create` around a rest of its step 4. -/
def finish (payment : OrderM Unit) : OrderM Order :=
  Prog.tryCatch
    (do
      payment
      MessagingService.publish (OrderService.createdEvent data order 1100)
      pure order)
    fun error => do
      let _ ← MessagingService.releaseStock data.items
      throw error

/-- The program that is left to run. -/
def program : PaidCall → OrderM Order
  | .paying => finish data order (OrderService.settlePayment data order 1100)
  | .recording => finish data order do
    let _ ← OrderRepository.updatePaymentStatus order.id .completed
    let _ ← OrderRepository.updateStatus order.id .confirmed
    let _ ← MessagingService.confirmReservation data.items
    pure ()
  | .confirming => finish data order do
    let _ ← OrderRepository.updateStatus order.id .confirmed
    let _ ← MessagingService.confirmReservation data.items
    pure ()
  | .settling => finish data order do
    let _ ← MessagingService.confirmReservation data.items
    pure ()
  | .announcing => finish data order (pure ())
  | .resolved => pure order

def op : PaidCall → Option OrderOp
  | .paying => some (.paymentIntent
      { amount := 1100 * 100
        paymentMethod := data.paymentMethodId.getD ""
        orderId := order.id })
  | .recording => some (.update order.id (.paymentStatus .completed))
  | .confirming => some (.update order.id (.status .confirmed))
  | .settling => some (.rpcCall .confirm data.items)
  | .announcing => some (.publish (OrderService.createdEvent data order 1100))
  | .resolved => none

def step (c : Turn) (call : PaidCall) (w : World) : PaidCall × World :=
  (call.next, (call.op data order).elim w fun op => (World.handle c op w).2)

variable {data order}

theorem step_of_handle {c : Turn} {call : PaidCall} {w : World} {op : OrderOp}
    {k : Except Error op.Res → OrderM Order} {r : Except Error op.Res}
    (hop : call.op data order = some op) (hprogram : call.program data order = .await op k)
    (hhandle : (World.handle c op w).1 = r) (hnext : k r = call.next.program data order) :
    (call.program data order).step (World.handle c) w =
      ((call.step data order c w).1.program data order, (call.step data order c w).2) := by
  rw [hprogram, Prog.step_await, step, hop, Option.elim_some, hhandle, hnext]

theorem program_paying {m : String} (hpays : data.pays = some m) :
    program data order .paying = finish data order (do
      let payment ← PaymentService.processPayment
        { orderId := order.id, amount := 1100, paymentMethodId := m }
      if payment.success then do
        let _ ← OrderRepository.updatePaymentStatus order.id .completed
        let _ ← OrderRepository.updateStatus order.id .confirmed
        let _ ← MessagingService.confirmReservation data.items
        pure ()
      else do
        let _ ← MessagingService.releaseStock data.items
        throw (.badRequest "Payment failed")) := by
  rw [CreateOrderData.pays] at hpays
  rw [program, OrderService.settlePayment, hpays]

theorem step_program (hpays : data.pays.isSome) {c : Turn} (hc : c.Approving) (call : PaidCall)
    {w : World} (hstored : (w.orders.find? order.id).isSome) :
    (call.program data order).step (World.handle c) w =
      ((call.step data order c w).1.program data order, (call.step data order c w).2) := by
  obtain ⟨stored, hfind⟩ := Option.isSome_iff_exists.mp hstored
  cases call with
  | paying =>
    obtain ⟨m, hm⟩ := Option.isSome_iff_exists.mp hpays
    have hop : op data order .paying = some (.paymentIntent
        { amount := 1100 * 100, paymentMethod := m, orderId := order.id }) := by
      rw [op, (Option.filter_eq_some_iff.mp hm).1]
      rfl
    have hstripe := hc.stripe
    cases hreply : c.stripe with
    | failed e => simp [hreply, StripeTurn.captures] at hstripe
    | answered reply =>
      have hsucceeded : reply.status = "succeeded" := by
        simpa [hreply, StripeTurn.captures] using hstripe
      refine step_of_handle (r := .ok reply) hop (program_paying hm)
        (by rw [World.handle, hreply]) ?_
      change finish data order (if decide (reply.status = "succeeded") = true then _ else _) = _
      rw [if_pos (decide_eq_true hsucceeded)]
      rfl
  | recording =>
    refine step_of_handle (r := .ok ((OrderUpdate.paymentStatus .completed).apply stored)) rfl rfl
      ?_ rfl
    rw [World.handle, World.update_of_some hfind, hc.db]
  | confirming =>
    refine step_of_handle (r := .ok ((OrderUpdate.status .confirmed).apply stored)) rfl rfl ?_ rfl
    rw [World.handle, World.update_of_some hfind, hc.db]
  | settling =>
    refine step_of_handle (r := .ok (w.serve (fun _ => .accept) .confirm data.items).1) rfl rfl ?_ rfl
    rw [World.handle, hc.rpc]
  | announcing =>
    cases hbroker : c.broker with
    | none =>
      refine step_of_handle (r := .ok ()) rfl rfl ?_ rfl
      rw [World.handle, hbroker]
    | some m =>
      refine step_of_handle (r := .error (.plain m)) rfl rfl ?_ rfl
      rw [World.handle, hbroker]
  | resolved => rfl

end PaidCall

def Placed (w : World) (order : Order) (status : OrderStatus) : Prop :=
  ∃ o, w.orders.find? order.id = some o ∧ o.userId = order.userId ∧ o.lines = order.lines ∧
    o.status = status

section Placed

variable {w w' : World} {order : Order} {status : OrderStatus}

theorem Placed.of_orders (h : Placed w order status) (horders : w'.orders = w.orders) :
    Placed w' order status := by
  rwa [Placed, horders]

theorem Placed.modify_status (h : Placed w order status) (s : OrderStatus) :
    Placed (w.modify order.id (.status s)) order s := by
  obtain ⟨o, hfind, huser, hlines, -⟩ := h
  exact ⟨_, World.find?_modify_self hfind _, huser, hlines, rfl⟩

theorem Placed.modify_paymentStatus (h : Placed w order status) (s : PaymentStatus) :
    Placed (w.modify order.id (.paymentStatus s)) order status := by
  obtain ⟨o, hfind, huser, hlines, hstatus⟩ := h
  exact ⟨_, World.find?_modify_self hfind _, huser, hlines, hstatus⟩

end Placed

theorem World.handled_request_accept {c : Turn} (hc : c.Approving) {w : World}
    {queue : InventoryQueue} (hqueue : queue ≠ .reserve) {items : List Item}
    (hstocked : w.inventory.Stocked items) :
    (w.request c.rpc.ran queue items).handled = w.handled ++ [(queue, items)] := by
  refine World.handled_request_of_carries hqueue ⟨fun _ => .accept, by rw [hc.rpc]; rfl, ?_⟩
  exact (InventoryService.served_accept _ _).trans hstocked.reached_eq

theorem World.handle_paymentIntent (c : Turn) (params : PaymentIntentParams) (w : World) :
    (World.handle c (.paymentIntent params) w).2.orders = w.orders ∧
      (World.handle c (.paymentIntent params) w).2.inventory = w.inventory ∧
      (World.handle c (.paymentIntent params) w).2.handled = w.handled := by
  rw [World.handle]
  cases c.stripe with
  | failed m => exact ⟨rfl, rfl, rfl⟩
  | answered reply =>
    simp only [World.charge]
    split <;> exact ⟨rfl, rfl, rfl⟩

abbrev OverlapCall := PaidCall ⊕ CancelCall

namespace OverlapCall

def program (data : CreateOrderData) (order : Order) : OverlapCall → OrderM Order
  | .inl call => call.program data order
  | .inr call => call.program order.id order.userId

def step (data : CreateOrderData) (order : Order) (c : Turn) (call : OverlapCall) (w : World) :
    OverlapCall × World :=
  match call with
  | .inl call => (.inl (call.step data order c w).1, (call.step data order c w).2)
  | .inr call =>
    (.inr (call.step order.id order.userId c w).1, (call.step order.id order.userId c w).2)

def confirmed : OverlapCall → Nat
  | .inl .announcing => 1
  | .inl .resolved => 1
  | _ => 0

def released : OverlapCall → Nat
  | .inl _ => 0
  | .inr call => call.released

/-- A cancellation works on the lines of the order. -/
def Works (items : List Item) : OverlapCall → Prop
  | .inr (.releasing o) => o.lines = items
  | .inr (.updating o) => o.lines = items
  | .inr (.publishing o _) => o.lines = items
  | _ => True

structure Moves (order : Order) (status : OrderStatus) (w : World) (call call' : OverlapCall)
    (w' : World) : Prop where
  confirms : ∃ k, call'.confirmed = call.confirmed + k ∧
    w'.handled.count (.confirm, order.lines) = w.handled.count (.confirm, order.lines) + k
  releases : ∃ k, call'.released = call.released + k ∧
    w'.handled.count (.release, order.lines) = w.handled.count (.release, order.lines) + k
  stocked : w'.inventory.Stocked order.lines
  placed : ∃ status', Placed w' order status' ∧
    (status' = status ∨ status' = .confirmed ∨ status' = .cancelled ∧ call'.released = 1)
  works : call'.Works order.lines
  rejected : ∀ e, call' = .inr (.rejected e) → call = .inr (.rejected e) ∨ status = .cancelled
  isLeft : call'.isLeft = call.isLeft

section Step

variable {data : CreateOrderData} {order : Order} {c : Turn} {w : World} {status : OrderStatus}

theorem Moves.of_handled {call call' : OverlapCall} {w' : World} (hhandled : w'.handled = w.handled)
    (hinventory : w'.inventory = w.inventory) (hstocked : w.inventory.Stocked order.lines)
    (hconfirmed : call'.confirmed = call.confirmed) (hreleased : call'.released = call.released)
    (hplaced : ∃ status', Placed w' order status' ∧
      (status' = status ∨ status' = .confirmed ∨ status' = .cancelled ∧ call'.released = 1))
    (hworks : call'.Works order.lines)
    (hrejected : ∀ e, call' = .inr (.rejected e) → call = .inr (.rejected e) ∨ status = .cancelled)
    (hleft : call'.isLeft = call.isLeft) : Moves order status w call call' w' where
  confirms := ⟨0, hconfirmed, by rw [hhandled, Nat.add_zero]⟩
  releases := ⟨0, hreleased, by rw [hhandled, Nat.add_zero]⟩
  stocked := hinventory ▸ hstocked
  placed := hplaced
  works := hworks
  rejected := hrejected
  isLeft := hleft

theorem Moves.of_request {call call' : OverlapCall} (hc : c.Approving) {queue : InventoryQueue}
    (hqueue : queue ≠ .reserve) (hstocked : w.inventory.Stocked order.lines)
    (hplaced : Placed w order status)
    (hconfirmed : call'.confirmed = call.confirmed + if queue = .confirm then 1 else 0)
    (hreleased : call'.released = call.released + if queue = .release then 1 else 0)
    (hworks : call'.Works order.lines)
    (hrejected : ∀ e, call' = .inr (.rejected e) → call = .inr (.rejected e) ∨ status = .cancelled)
    (hleft : call'.isLeft = call.isLeft) :
    Moves order status w call call' (w.request c.rpc.ran queue order.lines) := by
  have hhandled := World.handled_request_accept hc hqueue hstocked
  have hcount : ∀ queue', (w.request c.rpc.ran queue order.lines).handled.count
      (queue', order.lines) = w.handled.count (queue', order.lines) +
        if queue = queue' then 1 else 0 := by
    intro queue'
    rw [hhandled, List.count_append, List.count_singleton]
    simp
  exact
    { confirms := ⟨_, hconfirmed, hcount .confirm⟩
      releases := ⟨_, hreleased, hcount .release⟩
      stocked := (World.stocked_request ..).mpr hstocked
      placed := ⟨status, hplaced.of_orders (World.request_orders ..), .inl rfl⟩
      works := hworks
      rejected := hrejected
      isLeft := hleft }

theorem moves_paid (hlines : order.lines = data.items) (hc : c.Approving)
    (hstocked : w.inventory.Stocked order.lines) (hplaced : Placed w order status)
    (call : PaidCall) :
    Moves order status w (.inl call) (step data order c (.inl call) w).1
      (step data order c (.inl call) w).2 := by
  have hkept : ∃ status', Placed w order status' ∧ (status' = status ∨ status' = .confirmed ∨
      status' = .cancelled ∧ (OverlapCall.released (.inl call.next)) = 1) :=
    ⟨status, hplaced, .inl rfl⟩
  obtain ⟨o, hfind, -⟩ := id hplaced
  cases call with
  | paying =>
    obtain ⟨horders, hinventory, hhandled⟩ := World.handle_paymentIntent c
      { amount := 1100 * 100, paymentMethod := data.paymentMethodId.getD "", orderId := order.id } w
    exact .of_handled hhandled hinventory hstocked rfl rfl
      ⟨status, hplaced.of_orders horders, .inl rfl⟩ trivial (fun _ h => by cases h) rfl
  | recording =>
    have hstep : (step data order c (.inl .recording) w).2 =
        w.modify order.id (.paymentStatus .completed) := by
      simp only [step, PaidCall.step, PaidCall.op, Option.elim_some, World.handle,
        World.update_of_some hfind, hc.db]
    rw [hstep]
    exact .of_handled rfl rfl hstocked rfl rfl
      ⟨status, hplaced.modify_paymentStatus _, .inl rfl⟩ trivial (fun _ h => by cases h) rfl
  | confirming =>
    have hstep : (step data order c (.inl .confirming) w).2 =
        w.modify order.id (.status .confirmed) := by
      simp only [step, PaidCall.step, PaidCall.op, Option.elim_some, World.handle,
        World.update_of_some hfind, hc.db]
    rw [hstep]
    exact .of_handled rfl rfl hstocked rfl rfl
      ⟨_, hplaced.modify_status .confirmed, .inr (.inl rfl)⟩ trivial (fun _ h => by cases h) rfl
  | settling =>
    have hstep : (step data order c (.inl .settling) w).2 =
        w.request c.rpc.ran .confirm order.lines := by
      simp only [step, PaidCall.step, PaidCall.op, Option.elim_some, World.handle, hc.rpc, hlines]
      rfl
    rw [hstep]
    exact .of_request hc (by decide) hstocked hplaced rfl rfl trivial (fun _ h => by cases h) rfl
  | announcing =>
    exact .of_handled (World.emit_handled ..) (World.emit_inventory ..) hstocked rfl rfl
      ⟨status, hplaced.of_orders (World.emit_orders ..), .inl rfl⟩ trivial (fun _ h => by cases h) rfl
  | resolved => exact .of_handled rfl rfl hstocked rfl rfl hkept trivial (fun _ h => by cases h) rfl

theorem moves_cancel (hc : c.Approving) (hstocked : w.inventory.Stocked order.lines)
    (hplaced : Placed w order status)
    (hstatus : status = .pending ∨ status = .confirmed ∨ status = .cancelled)
    {call : CancelCall} (hworks : Works order.lines (.inr call)) :
    Moves order status w (.inr call) (step data order c (.inr call) w).1
      (step data order c (.inr call) w).2 := by
  obtain ⟨o, hfind, huser, hlines, rfl⟩ := id hplaced
  cases call with
  | reading =>
    have hstep : step data order c (.inr .reading) w =
        (.inr (CancelCall.afterRead order.userId (some o)), w) := by
      simp only [step, CancelCall.step, hc.db, hfind]
    rw [hstep]
    by_cases hcancelled : o.status = .cancelled
    · have hread : CancelCall.afterRead order.userId (some o) =
          .rejected (.badRequest "Order cannot be cancelled") := by
        simp [CancelCall.afterRead, huser, hcancelled]
      rw [hread]
      exact .of_handled rfl rfl hstocked rfl rfl ⟨_, hplaced, .inl rfl⟩ trivial
        (fun _ _ => .inr hcancelled) rfl
    · have hopen : o.status ∈ [.pending, .confirmed] := by
        simpa [hcancelled] using hstatus
      have hread : CancelCall.afterRead order.userId (some o) = .releasing o := by
        simp only [CancelCall.afterRead, huser, hopen, ne_eq, not_true, if_false]
      rw [hread]
      exact .of_handled rfl rfl hstocked rfl rfl ⟨_, hplaced, .inl rfl⟩ hlines
        (fun _ h => by cases h) rfl
  | releasing o' =>
    have hstep : (step data order c (.inr (.releasing o')) w).2 =
        w.request c.rpc.ran .release order.lines := by
      rw [← show o'.lines = order.lines from hworks]
      rfl
    rw [hstep]
    exact .of_request hc (by decide) hstocked hplaced rfl rfl hworks (fun _ h => by cases h) rfl
  | updating o' =>
    have hstep : step data order c (.inr (.updating o')) w =
        (.inr (.publishing o' ((OrderUpdate.status .cancelled).apply o)),
          w.modify order.id (.status .cancelled)) := by
      simp only [step, CancelCall.step, World.update_of_some hfind, hc.db]
    rw [hstep]
    exact .of_handled rfl rfl hstocked rfl rfl
      ⟨_, hplaced.modify_status .cancelled, .inr (.inr ⟨rfl, rfl⟩)⟩ hworks (fun _ h => by cases h) rfl
  | publishing o' updated =>
    exact .of_handled (World.emit_handled ..) (World.emit_inventory ..) hstocked rfl rfl
      ⟨_, hplaced.of_orders (World.emit_orders ..), .inl rfl⟩ trivial (fun _ h => by cases h) rfl
  | resolved updated =>
    exact .of_handled rfl rfl hstocked rfl rfl ⟨_, hplaced, .inl rfl⟩ trivial
      (fun _ h => by cases h) rfl
  | rejected e =>
    exact .of_handled rfl rfl hstocked rfl rfl ⟨_, hplaced, .inl rfl⟩ trivial (fun _ h => .inl h) rfl
  | unwritten e =>
    exact .of_handled rfl rfl hstocked rfl rfl ⟨_, hplaced, .inl rfl⟩ trivial
      (fun _ h => by cases h) rfl

end Step

/-- What `create` and the cancellations have settled so far, read off from where they are. -/
structure Progress (w : World) (order : Order) (n : Nat) (calls : Pool OverlapCall World) :
    Prop where
  confirms : calls.state.handled.count (.confirm, order.lines) =
    w.handled.count (.confirm, order.lines) + Pool.total confirmed calls.threads
  releases : calls.state.handled.count (.release, order.lines) =
    w.handled.count (.release, order.lines) + Pool.total released calls.threads
  stocked : calls.state.inventory.Stocked order.lines
  placed : ∃ status, Placed calls.state order status ∧ (status = .pending ∨
    status = .confirmed ∨ status = .cancelled ∧ 0 < Pool.total released calls.threads)
  works : ∀ call ∈ calls.threads, call.Works order.lines
  rejected : ∀ e, .inr (.rejected e) ∈ calls.threads → 0 < Pool.total released calls.threads
  creates : calls.threads.countP Sum.isLeft = 1
  cancels : calls.threads.length = n + 1

section Progress

variable {data : CreateOrderData} {w : World} {order : Order} {n : Nat}
  {calls : Pool OverlapCall World}

theorem Progress.moves (h : Progress w order n calls) (hlines : order.lines = data.items)
    {c : Turn} (hc : c.Approving) {call : OverlapCall} (hcall : call ∈ calls.threads) :
    ∃ status, Moves order status calls.state call (step data order c call calls.state).1
        (step data order c call calls.state).2 ∧
      (status = .pending ∨ status = .confirmed ∨
        status = .cancelled ∧ 0 < Pool.total released calls.threads) := by
  obtain ⟨status, hplaced, hstatus⟩ := h.placed
  refine ⟨status, ?_, hstatus⟩
  cases call with
  | inl call => exact moves_paid hlines hc h.stocked hplaced call
  | inr call =>
    exact moves_cancel hc h.stocked hplaced (hstatus.imp_right (.imp_right And.left))
      (h.works _ hcall)

theorem Progress.move (h : Progress w order n calls) {i : Nat} {call call' : OverlapCall}
    {w' : World} {status : OrderStatus} (hcall : calls.threads[i]? = some call)
    (hmoves : Moves order status calls.state call call' w')
    (hstatus : status = .pending ∨ status = .confirmed ∨
      status = .cancelled ∧ 0 < Pool.total released calls.threads) :
    Progress w order n ⟨calls.threads.set i call', w'⟩ := by
  obtain ⟨j, hconfirmed, hconfirms⟩ := hmoves.confirms
  obtain ⟨k, hreleased, hreleases⟩ := hmoves.releases
  obtain ⟨status', hplaced', hstatus'⟩ := hmoves.placed
  have htotal := Pool.total_set_add released hcall hreleased
  have hpos : 0 < Pool.total released calls.threads →
      0 < Pool.total released (calls.threads.set i call') := by omega
  have hcancelled : status = .cancelled → 0 < Pool.total released (calls.threads.set i call') := by
    rintro rfl
    exact hpos (by simpa using hstatus)
  have hmem : call' ∈ calls.threads.set i call' :=
    List.mem_set (List.getElem?_eq_some_iff.mp hcall).1 call'
  refine ⟨?_, ?_, hmoves.stocked, ⟨status', hplaced', ?_⟩, ?_, ?_, ?_, ?_⟩
  · rw [hconfirms, h.confirms, Pool.total_set_add confirmed hcall hconfirmed, add_assoc]
  · rw [hreleases, h.releases, htotal, add_assoc]
  · rcases hstatus' with rfl | rfl | ⟨rfl, hone⟩
    · exact hstatus.imp_right (.imp_right fun hs => ⟨hs.1, hcancelled hs.1⟩)
    · exact .inr (.inl rfl)
    · have hle := Pool.le_total released hmem
      rw [hone] at hle
      exact .inr (.inr ⟨rfl, hle⟩)
  · intro call'' hcall''
    rcases List.mem_or_eq_of_mem_set hcall'' with hmem'' | rfl
    · exact h.works call'' hmem''
    · exact hmoves.works
  · intro e he
    rcases List.mem_or_eq_of_mem_set he with hmem'' | heq
    · exact hpos (h.rejected e hmem'')
    · rcases hmoves.rejected e heq.symm with rfl | hs
      · exact hpos (h.rejected e (List.mem_of_getElem? hcall))
      · exact hcancelled hs
  · rw [← h.creates, Pool.countP_eq_total, Pool.countP_eq_total]
    refine (Pool.total_set_add (k := 0) _ hcall ?_).trans (add_zero _)
    rw [hmoves.isLeft, add_zero]
  · rw [List.length_set]
    exact h.cancels

theorem Progress.turn (h : Progress w order n calls) (hlines : order.lines = data.items)
    {t : Nat × Turn} (ht : t.2.Approving) :
    Progress w order n (Pool.turn (step data order) calls t) := by
  apply Pool.turn_ind h
  intro call hcall
  obtain ⟨status, hmoves, hstatus⟩ := h.moves hlines ht (List.mem_of_getElem? hcall)
  exact h.move hcall hmoves hstatus

theorem Progress.turn_program (h : Progress w order n calls) (hpays : data.pays.isSome)
    {t : Nat × Turn} (ht : t.2.Approving) :
    OrderPool.turn (calls.map (program data order)) t =
      (Pool.turn (step data order) calls t).map (program data order) := by
  obtain ⟨status, ⟨o, hfind, -⟩, -⟩ := h.placed
  apply Pool.turn_map
  intro call _
  cases call with
  | inl call => exact PaidCall.step_program hpays ht call (by rw [hfind]; rfl)
  | inr call => exact CancelCall.step_program order.id order.userId t.2 call calls.state

theorem Progress.run (h : Progress w order n calls) (hlines : order.lines = data.items)
    (hpays : data.pays.isSome) {schedule : List (Nat × Turn)}
    (hturns : ∀ t ∈ schedule, t.2.Approving) :
    ∃ calls', Progress w order n calls' ∧
      schedule.foldl OrderPool.turn (calls.map (program data order)) =
        calls'.map (program data order) := by
  induction schedule generalizing calls with
  | nil => exact ⟨calls, h, rfl⟩
  | cons t schedule ih =>
    have ht := hturns t List.mem_cons_self
    rw [List.foldl_cons, h.turn_program hpays ht]
    exact ih (h.turn hlines ht) fun t' ht' => hturns t' (List.mem_cons_of_mem t ht')

theorem Progress.released_eq_zero (h : Progress w order 0 calls) :
    Pool.total released calls.threads = 0 := by
  have hall := List.countP_eq_length.mp (h.creates.trans h.cancels.symm)
  have hzero : ∀ call ∈ calls.threads, call.released = 0 := by
    intro call hcall
    cases call with
    | inl call => rfl
    | inr call => exact absurd (hall _ hcall) (by simp)
  rw [Pool.total_congr hzero]
  simp [Pool.total]

theorem Progress.status_ne_cancelled (h : Progress w order 0 calls) {o : Order}
    (hfind : calls.state.orders.find? order.id = some o) : o.status ≠ .cancelled := by
  obtain ⟨status, ⟨o', hfind', -, -, rfl⟩, hstatus⟩ := h.placed
  obtain rfl : o' = o := Option.some.inj (hfind'.symm.trans hfind)
  rw [h.released_eq_zero] at hstatus
  rcases hstatus with hstatus | hstatus | ⟨-, hpos⟩
  · simp [hstatus]
  · simp [hstatus]
  · exact absurd hpos (Nat.lt_irrefl 0)

theorem confirmed_of_settled (hpays : data.pays.isSome) {call : OverlapCall}
    (h : (call.program data order).settlement ≠ none) :
    call.confirmed = if call.isLeft then 1 else 0 := by
  cases call with
  | inl call =>
    cases call with
    | resolved => rfl
    | paying =>
      obtain ⟨m, hm⟩ := Option.isSome_iff_exists.mp hpays
      rw [program, PaidCall.program_paying hm] at h
      exact absurd rfl h
    | _ => exact absurd rfl h
  | inr call => rfl

/-- A cancellation that is done has released the lines, or has been told that another one did. -/
theorem Progress.released_pos (h : Progress w order n calls) (hn : n ≠ 0)
    (hdone : ∀ call ∈ calls.threads, (call.program data order).settlement ≠ none) :
    0 < Pool.total released calls.threads := by
  have hright : ∃ call ∈ calls.threads, ¬call.isLeft := by
    by_contra hall
    have hlength := List.countP_eq_length.mpr fun call hcall =>
      by_contra fun hleft => hall ⟨call, hcall, hleft⟩
    rw [h.creates, h.cancels] at hlength
    omega
  obtain ⟨call, hmem, hcall⟩ := hright
  have hdone := hdone call hmem
  cases call with
  | inl call => exact absurd rfl hcall
  | inr call =>
    cases call with
    | rejected e => exact h.rejected e hmem
    | resolved updated => exact Pool.le_total released hmem
    | unwritten e => exact Pool.le_total released hmem
    | _ => exact absurd rfl hdone

end Progress

end OverlapCall

/-- A `create` that has written its order row, and `n` cancellations by the same user. -/
def OrderPool.overlap (data : CreateOrderData) (n : Nat) (c₀ c₁ : Turn) (w : World) : OrderPool :=
  [(0, c₀), (0, c₁)].foldl OrderPool.turn
    ⟨OrderService.create data :: List.replicate n (OrderService.cancel c₁.newId data.userId), w⟩

/-- Between the two worlds the items have been confirmed once or released once. -/
def SettledOnce (items : List Item) (w w' : World) : Prop :=
  w'.handled.count (.confirm, items) + w'.handled.count (.release, items) =
    w.handled.count (.confirm, items) + w.handled.count (.release, items) + 1

/-- Along the run, an order that is `CANCELLED` does not become `CONFIRMED`. -/
def StaysCancelled (id : OrderId) (pool : OrderPool) (schedule : List (Nat × Turn)) : Prop :=
  ∀ i j, i ≤ j → ∀ o o',
    ((schedule.take i).foldl OrderPool.turn pool).state.orders.find? id = some o →
    ((schedule.take j).foldl OrderPool.turn pool).state.orders.find? id = some o' →
    o.status = .cancelled → o'.status ≠ .confirmed

section Overlap

open OverlapCall

variable {data : CreateOrderData} {n : Nat} {c₀ c₁ : Turn} {w : World}

theorem OrderPool.turn_zero {p p' : OrderM Order} {threads : List (OrderM Order)} {w w' : World}
    {c : Turn} (h : p.step (World.handle c) w = (p', w')) :
    OrderPool.turn ⟨p :: threads, w⟩ (0, c) = ⟨p' :: threads, w'⟩ := by
  rw [OrderPool.turn, Pool.turn_of_some rfl]
  simp only [h, List.set_cons_zero]

theorem step_reserve (hc₀ : c₀.Approving)
    (hgrants : InventoryService.grants w.inventory data.items) :
    (OrderService.create data).step (World.handle c₀) w =
      (Prog.tryCatch (OrderService.placeOrder data) fun error => do
          let _ ← MessagingService.releaseStock data.items
          throw error,
        w.request c₀.rpc.ran .reserve data.items) := by
  have hsuccess : (w.serve (fun _ => .accept) .reserve data.items).1.success = true :=
    (InventoryMessaging.exec_reserve_accept w.inventory data.items).1.trans hgrants
  change Prog.step _ (.await (OrderOp.rpcCall .reserve data.items) _) w = _
  rw [Prog.step_await, World.handle, hc₀.rpc]
  change (if (w.serve (fun _ => .accept) .reserve data.items).1.success = true then _ else _, _) = _
  rw [if_pos hsuccess]
  rfl

theorem step_insert (hc₁ : c₁.Approving) {orders : OrderTable}
    (hinsert : w.orders.insert (data.newOrder.row c₁.newId c₁.now) = some orders) :
    (Prog.tryCatch (OrderService.placeOrder data) fun error => do
        let _ ← MessagingService.releaseStock data.items
        throw error).step (World.handle c₁) w =
      (PaidCall.program data (data.newOrder.row c₁.newId c₁.now) .paying, w.store orders) := by
  have hhandle : World.handle c₁ (.create data.newOrder) w =
      (.ok (data.newOrder.row c₁.newId c₁.now), w.store orders) := by
    rw [World.handle, World.insert, hc₁.db]
    simp only [hinsert]
  change Prog.step _ (.await (OrderOp.create data.newOrder) _) w = _
  rw [Prog.step_await, hhandle]
  rfl

theorem progress_overlap (hstocked : w.inventory.Stocked data.items) {order : Order}
    (hfind : w.orders.find? order.id = some order) (hlines : order.lines = data.items)
    (hpending : order.status = .pending) :
    Progress w order n ⟨.inl .paying :: List.replicate n (.inr .reading), w⟩ := by
  have hzero : ∀ f : OverlapCall → Nat, f (.inl .paying) = 0 → f (.inr .reading) = 0 →
      Pool.total f (.inl .paying :: List.replicate n (.inr .reading)) = 0 := by
    intro f hpaying hreading
    simp [Pool.total, hpaying, hreading]
  refine ⟨?_, ?_, ?_, ?_, ?_, ?_, ?_, ?_⟩
  · rw [hzero confirmed rfl rfl, add_zero]
  · rw [hzero released rfl rfl, add_zero]
  · rw [hlines]
    exact hstocked
  · exact ⟨.pending, ⟨order, hfind, rfl, rfl, hpending⟩, .inl rfl⟩
  · intro call hcall
    rcases List.mem_cons.mp hcall with rfl | hcall
    · trivial
    · rw [List.eq_of_mem_replicate hcall]
      trivial
  · intro e he
    rcases List.mem_cons.mp he with he | he
    · cases he
    · cases List.eq_of_mem_replicate he
  · rw [List.countP_cons_of_pos rfl, List.countP_replicate]
    rfl
  · simp

theorem overlap_eq (hc₀ : c₀.Approving) (hc₁ : c₁.Approving)
    (hgrants : InventoryService.grants w.inventory data.items)
    (hfresh : w.orders.find? c₁.newId = none) :
    ∃ calls : Pool OverlapCall World,
      OrderPool.overlap data n c₀ c₁ w =
        calls.map (program data (data.newOrder.row c₁.newId c₁.now)) ∧
      Progress calls.state (data.newOrder.row c₁.newId c₁.now) n calls := by
  obtain ⟨orders, hinsert⟩ : ∃ orders,
      w.orders.insert (data.newOrder.row c₁.newId c₁.now) = some orders :=
    Option.ne_none_iff_exists'.mp fun hnone => Table.insert_eq_none.mp hnone hfresh
  have hinsert' := (World.request_orders w c₀.rpc.ran .reserve data.items).symm ▸ hinsert
  have hstocked := (World.stocked_request w c₀.rpc.ran .reserve data.items data.items).mpr
    (InventoryService.stocked_of_grants hgrants)
  refine ⟨⟨.inl .paying :: List.replicate n (.inr .reading),
    (w.request c₀.rpc.ran .reserve data.items).store orders⟩, ?_, ?_⟩
  · rw [OrderPool.overlap, List.foldl_cons, List.foldl_cons, List.foldl_nil,
      OrderPool.turn_zero (step_reserve hc₀ hgrants), OrderPool.turn_zero (step_insert hc₁ hinsert')]
    simp only [Pool.map, List.map_cons, List.map_replicate]
    rfl
  · exact progress_overlap (by exact hstocked) ((Table.find?_insert hinsert _).trans (if_pos rfl))
      (NewOrder.lines_row ..) rfl

/-- Whatever the schedule, a reservation is settled once, and a cancelled order stays cancelled,
exactly when no cancellation overlaps the payment. -/
theorem settledOnce_iff (hpays : data.pays.isSome) (hc₀ : c₀.Approving) (hc₁ : c₁.Approving)
    (hgrants : InventoryService.grants w.inventory data.items)
    (hfresh : w.orders.find? c₁.newId = none)
    {schedule : List (Nat × Turn)} (hturns : ∀ t ∈ schedule, t.2.Approving)
    (hdone : ∀ p ∈ (schedule.foldl OrderPool.turn (.overlap data n c₀ c₁ w)).threads,
      p.settlement ≠ none) :
    SettledOnce data.items (OrderPool.overlap data n c₀ c₁ w).state
        (schedule.foldl OrderPool.turn (.overlap data n c₀ c₁ w)).state ∧
      StaysCancelled c₁.newId (.overlap data n c₀ c₁ w) schedule ↔ n = 0 := by
  obtain ⟨calls, hcalls, hstart⟩ := overlap_eq (n := n) hc₀ hc₁ hgrants hfresh
  have hlines : (data.newOrder.row c₁.newId c₁.now).lines = data.items := NewOrder.lines_row ..
  obtain ⟨calls', hend, hrun⟩ := hstart.run hlines hpays hturns
  rw [hcalls] at hdone ⊢
  rw [hrun] at hdone ⊢
  have hsettled : ∀ call ∈ calls'.threads,
      (call.program data (data.newOrder.row c₁.newId c₁.now)).settlement ≠ none :=
    fun call hcall => hdone _ (List.mem_map_of_mem hcall)
  have hconfirmed : Pool.total confirmed calls'.threads = 1 := by
    rw [← hend.creates, Pool.countP_eq_total]
    exact Pool.total_congr fun call hcall => confirmed_of_settled hpays (hsettled call hcall)
  have hconfirms := hend.confirms
  have hreleases := hend.releases
  rw [hlines, hconfirmed] at hconfirms
  rw [hlines] at hreleases
  constructor
  · rintro ⟨honce, -⟩
    by_contra hn
    have hreleased := hend.released_pos hn hsettled
    rw [SettledOnce, Pool.map_state, Pool.map_state] at honce
    omega
  · rintro rfl
    have hreleased := hend.released_eq_zero
    refine ⟨?_, ?_⟩
    · rw [SettledOnce, Pool.map_state, Pool.map_state]
      omega
    · intro i _ _ o _ ho _ hcancelled
      obtain ⟨before, hbefore, hearlier⟩ :=
        hstart.run hlines hpays fun t ht => hturns t (List.mem_of_mem_take (i := i) ht)
      rw [hearlier, Pool.map_state] at ho
      exact absurd hcancelled (hbefore.status_ne_cancelled ho)

end Overlap

section Example

private def parcel : CreateOrderData :=
  ⟨"u", [⟨"a", 3⟩], ⟨"", "", "", "", ""⟩, some "pm_card_visa"⟩

private def stall : World := .opening (.single "a" ⟨10, 0, 5⟩)

private def approving : Turn := .smooth (.answered ⟨"pi", "succeeded"⟩) "o"

private theorem approving_approving : approving.Approving := ⟨rfl, rfl, by decide⟩

private def undisturbed : List (Nat × Turn) := List.replicate 5 (0, approving)

/-- The cancellation runs while the payment has been captured and is not recorded yet. -/
private def overtaken : List (Nat × Turn) :=
  (0, approving) :: List.replicate 4 (1, approving) ++ List.replicate 4 (0, approving)

theorem settledOnce_iff_undisturbed :
    (SettledOnce parcel.items (OrderPool.overlap parcel 0 approving approving stall).state
        (undisturbed.foldl OrderPool.turn (.overlap parcel 0 approving approving stall)).state ∧
      StaysCancelled "o" (.overlap parcel 0 approving approving stall) undisturbed ↔ 0 = 0) ∧
      (SettledOnce parcel.items (OrderPool.overlap parcel 1 approving approving stall).state
          (overtaken.foldl OrderPool.turn (.overlap parcel 1 approving approving stall)).state ∧
        StaysCancelled "o" (.overlap parcel 1 approving approving stall) overtaken ↔ 1 = 0) := by
  constructor
  · exact settledOnce_iff (by decide) approving_approving approving_approving (by decide) rfl
      (by simp [undisturbed, approving_approving]) (by decide)
  · exact settledOnce_iff (by decide) approving_approving approving_approving (by decide) rfl
      (by simp [overtaken, approving_approving]) (by decide)

/-- The three units are both confirmed and released, and the `CANCELLED` order ends up
`CONFIRMED`. -/
theorem not_settledOnce_overtaken :
    (∀ p ∈ (overtaken.foldl OrderPool.turn (.overlap parcel 1 approving approving stall)).threads,
        p.settlement ≠ none) ∧
      ¬ SettledOnce parcel.items (OrderPool.overlap parcel 1 approving approving stall).state
        (overtaken.foldl OrderPool.turn (.overlap parcel 1 approving approving stall)).state ∧
      ¬ StaysCancelled "o" (.overlap parcel 1 approving approving stall) overtaken := by
  refine ⟨by decide, by unfold SettledOnce; decide, fun h => ?_⟩
  exact h 5 9 (by decide) _ _ rfl rfl (by decide) (by decide)

end Example

end Ecommerce
