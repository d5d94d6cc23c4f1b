import Ecommerce.Lib.Pool
import Ecommerce.Lib.Runs
import Ecommerce.Order.Effect

namespace Ecommerce

abbrev OrderPool := Pool (OrderM Order) World

/-- The next operation of call `t.1` meets the environment's move `t.2`. -/
def OrderPool.turn (pool : OrderPool) (t : Nat × Turn) : OrderPool :=
  Pool.turn (fun c p w => Prog.step (World.handle c) p w) pool t

def OrderPool.readsPending (pool : OrderPool) (t : Nat × Turn) : Nat :=
  match (pool.threads[t.1]?).bind Prog.awaited, t.2.db with
  | some (.findUnique id), .accept =>
    if (pool.state.orders.find? id).any (·.status = .pending) then 1 else 0
  | _, _ => 0

/-- Whether the turn is an update that the database accepts. -/
def OrderPool.updates (pool : OrderPool) (t : Nat × Turn) : Nat :=
  match (pool.threads[t.1]?).bind Prog.awaited, t.2.db with
  | some (.update _ _), .accept => 1
  | _, _ => 0

def OrderPool.cancels (w : World) (order : Order) (n : Nat) : OrderPool :=
  ⟨List.replicate n (OrderService.cancel order.id order.userId), w⟩

/-- One call has resolved and released the order's lines once; the others have rejected, with a
`BadRequestError` or with an error of the database. -/
structure ReleasedOnce (w : World) (order : Order) (schedule : List (Nat × Turn))
    (pool : OrderPool) : Prop where
  stock : pool.state.inventory = w.inventory.shift 0 (-demand order.lines)
  once : pool.threads.countP Prog.resolved = 1
  rest : ∀ p ∈ pool.threads, ∀ e, p.settlement = some (.error e) →
    e = .badRequest "Order cannot be cancelled" ∨
      ∃ t ∈ schedule, ∃ m, t.2.db = .reject m ∧ e = .plain m

inductive CancelCall
  | reading
  | releasing (order : Order)
  | updating (order : Order)
  | publishing (order updated : Order)
  | resolved (updated : Order)
  | rejected (e : Error)
  /-- Rejected by the status update, after the release. -/
  | unwritten (e : Error)

def Order.at (order : Order) (status : OrderStatus) : Order := { order with status }

theorem Order.at_self {order : Order} {status : OrderStatus} (h : order.status = status) :
    order.at status = order := by rw [Order.at, ← h]

namespace CancelCall

variable (id : OrderId) (userId : UserId)

/-- The program that is left to run. -/
def program : CancelCall → OrderM Order
  | .reading => OrderService.cancel id userId
  | .releasing order => do
    let _ ← MessagingService.releaseStock order.lines
    let updatedOrder ← OrderRepository.updateStatus id .cancelled
    MessagingService.publish (.cancelled id userId order.lines)
    pure updatedOrder
  | .updating order => do
    let updatedOrder ← OrderRepository.updateStatus id .cancelled
    MessagingService.publish (.cancelled id userId order.lines)
    pure updatedOrder
  | .publishing order updated => do
    MessagingService.publish (.cancelled id userId order.lines)
    pure updated
  | .resolved updated => pure updated
  | .rejected e => throw e
  | .unwritten e => throw e

/-- Where `cancel` goes from the row that it has read. -/
def afterRead : Option Order → CancelCall
  | none => .rejected (.notFound "Order not found")
  | some order =>
    if order.userId ≠ userId then .rejected (.notFound "Order not found")
    else if order.status ∉ [.pending, .confirmed] then
      .rejected (.badRequest "Order cannot be cancelled")
    else .releasing order

def step (c : Turn) (call : CancelCall) (w : World) : CancelCall × World :=
  match call with
  | .reading =>
    match c.db with
    | .reject m => (.rejected (.plain m), w)
    | .accept => (afterRead userId (w.orders.find? id), w)
  | .releasing order => (.updating order, w.request c.rpc.ran .release order.lines)
  | .updating order =>
    match w.update c id (.status .cancelled) with
    | (.ok updated, w') => (.publishing order updated, w')
    | (.error e, w') => (.unwritten e, w')
  | .publishing order updated =>
    (.resolved updated, w.emit c.broker (.cancelled id userId order.lines))
  | call => (call, w)

theorem program_afterRead (order : Option Order) :
    (afterRead userId order).program id userId = (match order with
      | none => throw (.notFound "Order not found")
      | some order =>
        if order.userId ≠ userId then
          throw (.notFound "Order not found")
        else if order.status ∉ [.pending, .confirmed] then
          throw (.badRequest "Order cannot be cancelled")
        else (releasing order).program id userId) := by
  cases order with
  | none => rfl
  | some order =>
    by_cases huser : order.userId = userId
    · by_cases hstatus : order.status ∈ [.pending, .confirmed]
      · simp only [afterRead, huser, hstatus, ne_eq, not_true, if_false]
      · simp only [afterRead, huser, hstatus, ne_eq, not_true, not_false_iff, if_false, if_true]
        rfl
    · simp only [afterRead, huser, ne_eq, not_false_iff, if_true]
      rfl

/-- The control points follow the program operation by operation. -/
theorem step_program (c : Turn) (call : CancelCall) (w : World) :
    (call.program id userId).step (World.handle c) w =
      ((call.step id userId c w).1.program id userId, (call.step id userId c w).2) := by
  cases call with
  | reading =>
    change Prog.step _ (.await (OrderOp.findUnique id) _) w = _
    rw [Prog.step_await, step, World.handle, World.query]
    cases c.db with
    | reject m => rfl
    | accept =>
      rw [program_afterRead]
      cases w.orders.find? id <;> rfl
  | releasing order =>
    change Prog.step _ (.await (OrderOp.rpcCall .release order.lines) _) w = _
    rw [Prog.step_await, step, World.handle]
    cases c.rpc <;> rfl
  | updating order =>
    change Prog.step _ (.await (OrderOp.update id (.status .cancelled)) _) w = _
    rw [Prog.step_await, step, World.handle]
    rcases w.update c id (.status .cancelled) with ⟨e | updated, w'⟩ <;> rfl
  | publishing order updated =>
    change Prog.step _ (.await (OrderOp.publish (.cancelled id userId order.lines)) _) w = _
    rw [Prog.step_await, step, World.handle]
    cases c.broker <;> rfl
  | resolved updated => rfl
  | rejected e => rfl
  | unwritten e => rfl

def seen : CancelCall → Nat
  | .reading => 0
  | .rejected _ => 0
  | _ => 1

def released : CancelCall → Nat
  | .reading => 0
  | .releasing _ => 0
  | .rejected _ => 0
  | _ => 1

def written : CancelCall → Nat
  | .publishing _ _ => 1
  | .resolved _ => 1
  | _ => 0

/-- A call works on the order as it was, and rejects because the order was cancelled under it
or because of an error that was injected. -/
def Sound (order : Order) (injected : Error → Prop) : CancelCall → Prop
  | .reading => True
  | .releasing o => o = order
  | .updating o => o = order
  | .publishing o _ => o = order
  | .resolved _ => True
  | .rejected e => e = .badRequest "Order cannot be cancelled" ∨ injected e
  | .unwritten e => injected e

def reads (c : Turn) (status : OrderStatus) : CancelCall → Nat
  | .reading => if c.db = .accept ∧ status = .pending then 1 else 0
  | _ => 0

def writes (c : Turn) : CancelCall → Nat
  | .updating _ => if c.db = .accept then 1 else 0
  | _ => 0

def releases : CancelCall → Nat
  | .releasing _ => 1
  | _ => 0

structure Moves (order : Order) (status : OrderStatus) (c : Turn) (w : World)
    (call call' : CancelCall) (w' : World) : Prop where
  seen : call'.seen = call.seen + call.reads c status
  released : call'.released = call.released + call.releases
  written : call'.written = call.written + call.writes c
  inventory : w'.inventory = w.inventory.shift 0 (-(call.releases • demand order.lines))
  stored : w'.orders.find? order.id =
    some (order.at (if call.writes c = 0 then status else .cancelled))

theorem afterRead_of_pending (order : Order) {userId : UserId} (huser : order.userId = userId) :
    afterRead userId (some (order.at .pending)) = .releasing (order.at .pending) := by
  simp [afterRead, Order.at, huser]

theorem afterRead_of_cancelled (order : Order) {userId : UserId} (huser : order.userId = userId) :
    afterRead userId (some (order.at .cancelled)) =
      .rejected (.badRequest "Order cannot be cancelled") := by
  simp [afterRead, Order.at, huser]

section Step

variable {order : Order} {injected : Error → Prop} {c : Turn} {w : World} {status : OrderStatus}

theorem sound_step (hdb : ∀ m, c.db = .reject m → injected (.plain m))
    (hfind : w.orders.find? order.id = some (order.at status)) (hpending : order.status = .pending)
    (hstatus : status = .pending ∨ status = .cancelled) {call : CancelCall}
    (hcall : call.Sound order injected) :
    (call.step order.id order.userId c w).1.Sound order injected := by
  cases call with
  | reading =>
    cases hdb' : c.db with
    | reject m =>
      simp only [step, hdb']
      exact .inr (hdb m hdb')
    | accept =>
      simp only [step, hdb', hfind]
      rcases hstatus with rfl | rfl
      · rw [afterRead_of_pending order rfl]
        exact Order.at_self hpending
      · rw [afterRead_of_cancelled order rfl]
        exact .inl rfl
  | releasing o => exact hcall
  | updating o =>
    rw [step, World.update_of_some hfind]
    cases hdb' : c.db with
    | reject m => exact hdb m hdb'
    | accept => exact hcall
  | publishing o updated => trivial
  | resolved updated => trivial
  | rejected e => exact hcall
  | unwritten e => exact hcall

theorem moves_step (hrpc : c.rpc = .answered fun _ => .accept)
    (hstocked : w.inventory.Stocked order.lines)
    (hfind : w.orders.find? order.id = some (order.at status))
    (hstatus : status = .pending ∨ status = .cancelled) {call : CancelCall}
    (hcall : call.Sound order injected) :
    Moves order status c w call (call.step order.id order.userId c w).1
      (call.step order.id order.userId c w).2 := by
  have hkept : w.inventory = w.inventory.shift 0 (-((0 : Nat) • demand order.lines)) := by simp
  cases call with
  | reading =>
    cases hdb : c.db with
    | reject m =>
      simp only [step, hdb]
      exact ⟨by simp [reads, hdb, seen], rfl, rfl, hkept, hfind⟩
    | accept =>
      simp only [step, hdb, hfind]
      rcases hstatus with rfl | rfl
      · rw [afterRead_of_pending order rfl]
        exact ⟨by simp [reads, hdb, seen], rfl, rfl, hkept, hfind⟩
      · rw [afterRead_of_cancelled order rfl]
        exact ⟨by simp [reads, seen], rfl, rfl, hkept, hfind⟩
  | releasing o =>
    obtain rfl : o = order := hcall
    refine ⟨rfl, rfl, rfl, ?_, (World.request_orders ..).symm ▸ hfind⟩
    rw [step, World.inventory_release hrpc hstocked]
    simp [releases]
  | updating o =>
    rw [step, World.update_of_some hfind]
    cases hdb : c.db with
    | reject m =>
      refine ⟨rfl, rfl, by simp [writes, hdb, written], hkept, ?_⟩
      simpa [writes, hdb] using hfind
    | accept =>
      refine ⟨rfl, rfl, by simp [writes, hdb, written], hkept, ?_⟩
      simp only [World.find?_modify_self hfind, writes, hdb, if_true]
      rfl
  | publishing o updated =>
    refine ⟨rfl, rfl, rfl, ?_, ?_⟩
    · rw [step, World.emit_inventory]
      exact hkept
    · rw [step, World.emit_orders]
      exact hfind
  | resolved updated => exact ⟨rfl, rfl, rfl, hkept, hfind⟩
  | rejected e => exact ⟨rfl, rfl, rfl, hkept, hfind⟩
  | unwritten e => exact ⟨rfl, rfl, rfl, hkept, hfind⟩

end Step

structure Progress (w : World) (order : Order) (injected : Error → Prop)
    (calls : Pool CancelCall World) : Prop where
  inventory : calls.state.inventory =
    w.inventory.shift 0 (-(Pool.total released calls.threads • demand order.lines))
  stored : calls.state.orders.find? order.id =
    some (order.at (if Pool.total written calls.threads = 0 then .pending else .cancelled))
  sound : ∀ call ∈ calls.threads, call.Sound order injected

def Answering (injected : Error → Prop) (t : Nat × Turn) : Prop :=
  t.2.rpc = .answered (fun _ => .accept) ∧ ∀ m, t.2.db = .reject m → injected (.plain m)

section Progress

variable {w : World} {order : Order} {injected : Error → Prop} {calls : Pool CancelCall World}

theorem progress_start (hfind : w.orders.find? order.id = some order)
    (hpending : order.status = .pending) (n : Nat) :
    Progress w order injected ⟨List.replicate n .reading, w⟩ := by
  have hzero : ∀ f : CancelCall → Nat, f .reading = 0 →
      Pool.total f (List.replicate n .reading) = 0 := fun f hf => by simp [Pool.total, hf]
  refine ⟨?_, ?_, ?_⟩
  · rw [hzero released rfl]
    simp
  · rw [hzero written rfl, if_pos rfl, Order.at_self hpending]
    exact hfind
  · intro call hcall
    rw [List.eq_of_mem_replicate hcall]
    trivial

theorem Progress.moves (h : Progress w order injected calls)
    (hstocked : w.inventory.Stocked order.lines) {t : Nat × Turn} (ht : Answering injected t)
    {call : CancelCall} (hcall : calls.threads[t.1]? = some call) :
    Moves order (if Pool.total written calls.threads = 0 then .pending else .cancelled) t.2
      calls.state call (call.step order.id order.userId t.2 calls.state).1
      (call.step order.id order.userId t.2 calls.state).2 := by
  refine moves_step ht.1 ?_ h.stored ?_ (h.sound call (List.mem_of_getElem? hcall))
  · rw [h.inventory, Stock.stocked_shift]
    exact hstocked
  · split
    · exact .inl rfl
    · exact .inr rfl

theorem Progress.turn (h : Progress w order injected calls) (hpending : order.status = .pending)
    (hstocked : w.inventory.Stocked order.lines) {t : Nat × Turn} (ht : Answering injected t) :
    Progress w order injected (Pool.turn (CancelCall.step order.id order.userId) calls t) := by
  cases hcall : calls.threads[t.1]? with
  | none => simpa only [Pool.turn, hcall] using h
  | some call =>
    have hmoves := h.moves hstocked ht hcall
    rw [Pool.turn_of_some hcall]
    refine ⟨?_, ?_, ?_⟩
    · dsimp only
      rw [hmoves.inventory, h.inventory, Stock.shift_shift,
        Pool.total_set_add released hcall hmoves.released, add_nsmul, neg_add]
      simp
    · dsimp only
      rw [hmoves.stored, Pool.total_set_add written hcall hmoves.written]
      by_cases hnone : call.writes t.2 = 0 <;> simp [hnone]
    · intro call' hcall'
      rcases List.mem_or_eq_of_mem_set hcall' with hmem | rfl
      · exact h.sound call' hmem
      · refine sound_step ht.2 h.stored hpending ?_ (h.sound call (List.mem_of_getElem? hcall))
        split
        · exact .inl rfl
        · exact .inr rfl

theorem turn_program (order : Order) (calls : Pool CancelCall World) (t : Nat × Turn) :
    OrderPool.turn (calls.map (program order.id order.userId)) t =
      (Pool.turn (CancelCall.step order.id order.userId) calls t).map
        (program order.id order.userId) :=
  Pool.turn_map fun call _ => CancelCall.step_program order.id order.userId t.2 call calls.state

theorem Progress.readsPending (h : Progress w order injected calls) (t : Nat × Turn) :
    OrderPool.readsPending (calls.map (program order.id order.userId)) t =
      (calls.threads[t.1]?).elim 0 (reads t.2
        (if Pool.total written calls.threads = 0 then .pending else .cancelled)) := by
  have hfind := h.stored
  simp only [OrderPool.readsPending, Pool.map_threads, Pool.map_state, List.getElem?_map]
  cases calls.threads[t.1]? with
  | none => rfl
  | some call =>
    cases call with
    | reading =>
      have hawaited : (program order.id order.userId .reading).awaited =
        some (.findUnique order.id) := rfl
      simp only [Option.map_some, Option.bind_some, hawaited]
      cases hdb : t.2.db with
      | reject m => simp [reads, hdb]
      | accept => simp [reads, hdb, hfind, Order.at]
    | _ => rfl

theorem updates_program (t : Nat × Turn) :
    OrderPool.updates (calls.map (program order.id order.userId)) t =
      (calls.threads[t.1]?).elim 0 (writes t.2) := by
  simp only [OrderPool.updates, Pool.map_threads, List.getElem?_map]
  cases calls.threads[t.1]? with
  | none => rfl
  | some call =>
    cases call with
    | updating o =>
      have hawaited : (program order.id order.userId (.updating o)).awaited =
        some (.update order.id (.status .cancelled)) := rfl
      simp only [Option.map_some, Option.bind_some, hawaited]
      cases hdb : t.2.db <;> simp [writes, hdb]
    | _ => rfl

theorem Progress.seen_turn (h : Progress w order injected calls)
    (hstocked : w.inventory.Stocked order.lines) {t : Nat × Turn} (ht : Answering injected t) :
    Pool.total seen (Pool.turn (CancelCall.step order.id order.userId) calls t).threads =
      Pool.total seen calls.threads +
        OrderPool.readsPending (calls.map (program order.id order.userId)) t := by
  rw [h.readsPending]
  cases hcall : calls.threads[t.1]? with
  | none => simp [Pool.turn, hcall]
  | some call =>
    rw [Pool.turn_of_some hcall]
    exact Pool.total_set_add seen hcall (h.moves hstocked ht hcall).seen

theorem Progress.written_turn (h : Progress w order injected calls)
    (hstocked : w.inventory.Stocked order.lines) {t : Nat × Turn} (ht : Answering injected t) :
    Pool.total written (Pool.turn (CancelCall.step order.id order.userId) calls t).threads =
      Pool.total written calls.threads +
        OrderPool.updates (calls.map (program order.id order.userId)) t := by
  rw [updates_program]
  cases hcall : calls.threads[t.1]? with
  | none => simp [Pool.turn, hcall]
  | some call =>
    rw [Pool.turn_of_some hcall]
    exact Pool.total_set_add written hcall (h.moves hstocked ht hcall).written

theorem counts_of_settled {id : OrderId} {userId : UserId} {call : CancelCall}
    (h : (call.program id userId).settlement ≠ none) :
    call.released = call.seen ∧
      call.written = if (call.program id userId).resolved then 1 else 0 := by
  cases call with
  | resolved updated => exact ⟨rfl, rfl⟩
  | rejected e => exact ⟨rfl, rfl⟩
  | unwritten e => exact ⟨rfl, rfl⟩
  | _ => exact absurd rfl h

theorem written_le_released (call : CancelCall) : call.written ≤ call.released := by
  cases call <;> simp [written, released]

theorem Progress.rest (h : Progress w order injected calls) :
    ∀ p ∈ (calls.map (program order.id order.userId)).threads, ∀ e,
      p.settlement = some (.error e) →
        e = .badRequest "Order cannot be cancelled" ∨ injected e := by
  rintro p hp e he
  obtain ⟨call, hcall, rfl⟩ := List.mem_map.mp hp
  have hsound := h.sound call hcall
  cases call with
  | rejected e' =>
    obtain rfl : e' = e := Except.error.inj (Option.some.inj he)
    exact hsound
  | unwritten e' =>
    obtain rfl : e' = e := Except.error.inj (Option.some.inj he)
    exact .inr hsound
  | _ => cases he

end Progress

end CancelCall

/-- The stock tells how often the lines were released, unless they add up to nothing. -/
theorem shift_nsmul_eq_iff {s : Stock} {items : List Item} (hs : s.Stocked items) (k : Nat) :
    s.shift 0 (-(k • demand items)) = s.shift 0 (-demand items) ↔
      k = 1 ∨ ∀ p, demand items p = 0 := by
  have hzero : ∀ p, s p = none → demand items p = 0 := fun p hp => hs.demand_eq_zero hp
  constructor
  · intro h
    have hreserved := congrArg Stock.reserved h
    rw [Stock.reserved_shift fun p hp => by simp [hzero p hp],
      Stock.reserved_shift fun p hp => by simp [hzero p hp], add_right_inj, neg_inj] at hreserved
    by_cases hk : k = 1
    · exact .inl hk
    · refine .inr fun p => ?_
      have hp : (k : Int) * demand items p = demand items p := by
        simpa using congrFun hreserved p
      have hsub : ((k : Int) - 1) * demand items p = 0 := by rw [sub_mul, hp, one_mul, sub_self]
      exact (mul_eq_zero.mp hsub).resolve_left (by omega)
  · rintro (rfl | hdemand)
    · rw [one_nsmul]
    · have : demand items = 0 := funext hdemand
      simp [this]

section ReleasedOnce

open CancelCall

def Injected (schedule : List (Nat × Turn)) (e : Error) : Prop :=
  ∃ t ∈ schedule, ∃ m, t.2.db = .reject m ∧ e = .plain m

variable {w : World} {order : Order} {schedule : List (Nat × Turn)}

theorem run_cancels (hfind : w.orders.find? order.id = some order)
    (hpending : order.status = .pending) (hstocked : w.inventory.Stocked order.lines) (n : Nat)
    (hrpc : ∀ t ∈ schedule, t.2.rpc = .answered fun _ => .accept) :
    ∃ calls : Pool CancelCall World,
      schedule.foldl OrderPool.turn (.cancels w order n) =
        calls.map (program order.id order.userId) ∧
      Progress w order (Injected schedule) calls ∧
      Pool.total seen calls.threads =
        Runs.tally OrderPool.turn OrderPool.readsPending (.cancels w order n) schedule ∧
      Pool.total written calls.threads =
        Runs.tally OrderPool.turn OrderPool.updates (.cancels w order n) schedule := by
  have hanswering : Runs.Along (Pool.turn (CancelCall.step order.id order.userId))
      (fun _ t => Answering (Injected schedule) t) ⟨List.replicate n .reading, w⟩ schedule :=
    Runs.along_of_forall fun t ht => ⟨hrpc t ht, fun m hm => ⟨t, ht, m, hm, rfl⟩⟩
  have hstart : Progress w order (Injected schedule) _ := progress_start hfind hpending n
  have hnext : ∀ calls t, Progress w order (Injected schedule) calls →
      Answering (Injected schedule) t → Progress w order (Injected schedule)
        (Pool.turn (CancelCall.step order.id order.userId) calls t) :=
    fun calls t h ht => h.turn hpending hstocked ht
  have hseen := Runs.tally_eq (fun calls => Pool.total seen calls.threads)
    (fun calls t h ht => h.seen_turn hstocked ht) hnext hstart hanswering
  have hwritten := Runs.tally_eq (fun calls => Pool.total written calls.threads)
    (fun calls t h ht => h.written_turn hstocked ht) hnext hstart hanswering
  have hzero : ∀ f : CancelCall → Nat, f .reading = 0 →
      Pool.total f (List.replicate n .reading) = 0 := fun f hf => by simp [Pool.total, hf]
  rw [hzero seen rfl, Nat.zero_add] at hseen
  rw [hzero written rfl, Nat.zero_add] at hwritten
  have hcancels : OrderPool.cancels w order n =
      Pool.map (program order.id order.userId) ⟨List.replicate n .reading, w⟩ := by
    simp [OrderPool.cancels, Pool.map, program]
  rw [hcancels, Runs.foldl_map (turn_program order), Runs.tally_map (turn_program order),
    Runs.tally_map (turn_program order)]
  exact ⟨_, rfl, Runs.foldl_of_along hnext hstart hanswering, hseen, hwritten⟩

/-- When all calls are done, the stock and the settlements say how many calls have seen the order
`PENDING` and how many have written. -/
theorem CancelCall.Progress.releasedOnce_iff_seen {calls : Pool CancelCall World}
    (h : Progress w order (Injected schedule) calls) (hstocked : w.inventory.Stocked order.lines)
    (hdone : ∀ call ∈ calls.threads, (call.program order.id order.userId).settlement ≠ none) :
    ReleasedOnce w order schedule (calls.map (program order.id order.userId)) ↔
      (Pool.total seen calls.threads = 1 ∨ ∀ p, demand order.lines p = 0) ∧
        Pool.total written calls.threads = 1 := by
  have hreleased : Pool.total released calls.threads = Pool.total seen calls.threads :=
    Pool.total_congr fun call hcall => (counts_of_settled (hdone call hcall)).1
  have hcount : (calls.map (program order.id order.userId)).threads.countP Prog.resolved =
      Pool.total written calls.threads := by
    rw [Pool.countP_eq_total, Pool.map_threads, Pool.total_map]
    exact (Pool.total_congr fun call hcall => (counts_of_settled (hdone call hcall)).2).symm
  have hstock : (calls.map (program order.id order.userId)).state.inventory =
      w.inventory.shift 0 (-demand order.lines) ↔
        Pool.total seen calls.threads = 1 ∨ ∀ p, demand order.lines p = 0 := by
    rw [Pool.map_state, h.inventory, ← hreleased]
    exact shift_nsmul_eq_iff hstocked _
  constructor
  · exact fun honce => ⟨hstock.mp honce.stock, hcount.symm.trans honce.once⟩
  · exact fun honce => ⟨hstock.mpr honce.1, hcount.trans honce.2, h.rest⟩

/-- When all calls are done and one has resolved, stock was released exactly once if and only if
exactly one call has read the order as `PENDING`; for an order without stock it is enough that
exactly one status update was accepted. -/
theorem releasedOnce_iff (hfind : w.orders.find? order.id = some order)
    (hpending : order.status = .pending) (hstocked : w.inventory.Stocked order.lines) (n : Nat)
    (hrpc : ∀ t ∈ schedule, t.2.rpc = .answered fun _ => .accept)
    (hdone : ∀ p ∈ (schedule.foldl OrderPool.turn (.cancels w order n)).threads,
      p.settlement ≠ none)
    (hresolved : ∃ p ∈ (schedule.foldl OrderPool.turn (.cancels w order n)).threads,
      p.resolved) :
    ReleasedOnce w order schedule (schedule.foldl OrderPool.turn (.cancels w order n)) ↔
      Runs.tally OrderPool.turn OrderPool.readsPending (.cancels w order n) schedule = 1 ∨
      (∀ p, demand order.lines p = 0) ∧
        Runs.tally OrderPool.turn OrderPool.updates (.cancels w order n) schedule = 1 := by
  obtain ⟨calls, hrun, hprogress, hseen, hwritten⟩ := run_cancels hfind hpending hstocked n hrpc
  rw [hrun] at hdone hresolved ⊢
  rw [← hseen, ← hwritten,
    hprogress.releasedOnce_iff_seen hstocked fun call hcall => hdone _ (List.mem_map_of_mem hcall)]
  have hle : Pool.total written calls.threads ≤ Pool.total seen calls.threads := by
    rw [← Pool.total_congr fun call hcall =>
      (counts_of_settled (hdone _ (List.mem_map_of_mem hcall))).1]
    exact Pool.total_mono written_le_released calls.threads
  have hpos : 0 < Pool.total written calls.threads := by
    obtain ⟨p, hp, hres⟩ := hresolved
    obtain ⟨call, hcall, rfl⟩ := List.mem_map.mp hp
    refine Nat.lt_of_lt_of_le ?_ (Pool.le_total written hcall)
    rw [(counts_of_settled (hdone _ hp)).2, if_pos hres]
    exact Nat.one_pos
  constructor
  · rintro ⟨hone | hdemand, honce⟩
    · exact .inl hone
    · exact .inr ⟨hdemand, honce⟩
  · rintro (hone | ⟨hdemand, honce⟩)
    · exact ⟨.inl hone, by omega⟩
    · exact ⟨.inr hdemand, honce⟩

end ReleasedOnce

section Example

private def pendingOrder : Order :=
  ⟨"o", "u", .pending, .pending, 1000, 100, 1100, ⟨"", "", "", "", ""⟩, [⟨"a", 3, 0, 0⟩], 0⟩

/-- Three units reserved for one pending order. -/
private def waiting : World :=
  { World.opening (.single "a" ⟨10, 3, 5⟩) with orders := ⟨[pendingOrder], List.nodup_singleton _⟩ }

private def goesWell : Turn := .smooth (.failed "") ""

private def dbFails : Turn := { goesWell with db := .reject "Can't reach database server" }

private def oneAtATime : List (Nat × Turn) :=
  [(0, goesWell), (0, goesWell), (0, goesWell), (0, goesWell), (1, goesWell)]

private def retried : List (Nat × Turn) :=
  [(0, goesWell), (0, goesWell), (0, dbFails), (1, goesWell), (1, goesWell), (1, goesWell),
    (1, goesWell)]

private def overlapping : List (Nat × Turn) :=
  [(0, goesWell), (1, goesWell), (0, goesWell), (1, goesWell), (0, goesWell), (1, goesWell),
    (0, goesWell), (1, goesWell)]

theorem releasedOnce_iff_waiting :
    ReleasedOnce waiting pendingOrder oneAtATime
        (oneAtATime.foldl OrderPool.turn (.cancels waiting pendingOrder 2)) ↔
      Runs.tally OrderPool.turn OrderPool.readsPending (.cancels waiting pendingOrder 2)
        oneAtATime = 1 ∨
      (∀ p, demand pendingOrder.lines p = 0) ∧
        Runs.tally OrderPool.turn OrderPool.updates (.cancels waiting pendingOrder 2)
          oneAtATime = 1 :=
  releasedOnce_iff rfl rfl (by decide) 2 (by simp [oneAtATime, goesWell, Turn.smooth]) (by decide)
    (by decide)

private theorem not_releasedOnce_of_negative {schedule : List (Nat × Turn)} {pool : OrderPool}
    (h : pool.state.inventory "a" = some ⟨10, -3, 5⟩) :
    ¬ ReleasedOnce waiting pendingOrder schedule pool := by
  intro honce
  rw [honce.stock] at h
  revert h
  decide

/-- A cancellation retried after its status update failed, and two that overlap: all are done
and one has resolved, but the three units are given back twice. -/
theorem not_releasedOnce_waiting :
    ((∀ p ∈ (retried.foldl OrderPool.turn (.cancels waiting pendingOrder 2)).threads,
        p.settlement ≠ none) ∧
      (∃ p ∈ (retried.foldl OrderPool.turn (.cancels waiting pendingOrder 2)).threads,
        p.resolved) ∧
      ¬ ReleasedOnce waiting pendingOrder retried
        (retried.foldl OrderPool.turn (.cancels waiting pendingOrder 2))) ∧
    ((∀ p ∈ (overlapping.foldl OrderPool.turn (.cancels waiting pendingOrder 2)).threads,
        p.settlement ≠ none) ∧
      (∃ p ∈ (overlapping.foldl OrderPool.turn (.cancels waiting pendingOrder 2)).threads,
        p.resolved) ∧
      ¬ ReleasedOnce waiting pendingOrder overlapping
        (overlapping.foldl OrderPool.turn (.cancels waiting pendingOrder 2))) :=
  ⟨⟨by decide, by decide, not_releasedOnce_of_negative (by decide)⟩,
    ⟨by decide, by decide, not_releasedOnce_of_negative (by decide)⟩⟩

end Example

end Ecommerce
