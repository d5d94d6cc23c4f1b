import Ecommerce.Lib.Runs
import Ecommerce.Order.Effect

namespace Ecommerce

/-- The stock that an order is entitled to while it is `PENDING`. -/
def Order.reserves (order : Order) : ProductId → Int :=
  if order.status = .pending then demand order.lines else 0

/-- Everything reserved is reserved for a pending order, once. -/
def Ledger (w : World) : Prop :=
  ∀ p, w.inventory.reserved p = w.orders.sum fun order => order.reserves p

/-- No failure but a declined payment: database and RPCs answer, and `uuidv4()` is fresh. -/
structure Turn.Reliable (w : World) (t : Turn) : Prop where
  db : t.db = .accept
  rpc : t.rpc = .answered fun _ => .accept
  fresh : w.orders.find? t.newId = none

/-- The calls of the saga: quantities are positive, and nothing but a payment fails. -/
def Regular (w : World) (call : OrderCall × Script Turn) : Prop :=
  (∀ n, (call.2 n).Reliable w) ∧ ∀ data, call.1 = .create data → Positive data.items

/-- Not a payment declined after stock was reserved, and not a cancellation of a confirmed
order; unless there are no items to count twice. -/
def SettlesOnce (w : World) : OrderCall × Script Turn → Prop
  | (.create data, env) => data.pays.isSome → (env 2).stripe.captures = false →
      InventoryService.Reservable w.inventory data.items → data.items = []
  | (.cancel id userId, _) => ∀ order, w.orders.find? id = some order → order.userId = userId →
      order.status = .confirmed → order.items = []

def Stored (w : World) : Prop :=
  ∀ order ∈ w.orders.rows, Positive order.lines ∧ w.inventory.Stocked order.lines

@[simp] theorem OrderUpdate.lines_apply (data : OrderUpdate) (order : Order) :
    (data.apply order).lines = order.lines := by cases data <;> rfl

theorem Order.reserves_of_pending {order : Order} (h : order.status = .pending) :
    order.reserves = demand order.lines := if_pos h

theorem Order.reserves_of_ne {order : Order} (h : order.status ≠ .pending) :
    order.reserves = 0 := if_neg h

theorem sum_reserves_status {w : World} {id : OrderId} {order : Order}
    (hfind : w.orders.find? id = some order) {status : OrderStatus} (hstatus : status ≠ .pending)
    (p : ProductId) :
    (w.modify id (.status status)).orders.sum (fun order => order.reserves p) =
      (w.orders.sum fun order => order.reserves p) - order.reserves p := by
  have hnew : ((OrderUpdate.status status).apply order).reserves = 0 := Order.reserves_of_ne hstatus
  rw [World.modify_orders, eq_sub_iff_add_eq, Table.sum_modify (fun order => order.reserves p) hfind,
    hnew, Pi.zero_apply, add_zero]

theorem sum_reserves_paymentStatus (w : World) (id : OrderId) (status : PaymentStatus)
    (p : ProductId) :
    (w.modify id (.paymentStatus status)).orders.sum (fun order => order.reserves p) =
      w.orders.sum fun order => order.reserves p := by
  rw [World.modify_orders]
  exact Table.sum_modify_of_eq _ fun _ => rfl

section Settles

variable {env env' : Script Turn} {data : CreateOrderData} {id : OrderId} {order : Order}
  {total : Int} {w w' : World}
  (henv : ∀ n, (env n).db = .accept ∧ (env n).rpc = .answered fun _ => .accept)
  (horder : w.orders.find? id = some order) (hlines : order.lines = data.items)
  (hpending : order.status = .pending) (hstocked : w.inventory.Stocked data.items)
include henv

include horder hlines hpending hstocked in
theorem Settles.ledger (hledger : Ledger w)
    (h : Settles env data id total w (.ok ()) env' w') : Ledger w' := by
  cases h with
  | unpaid hpays => exact hledger
  | confirmed hpays reply hstripe hdb hdb' =>
    intro p
    have hfind := World.find?_modify_self
      (w := w.capture ⟨reply.id, id, total * 100⟩) horder (.paymentStatus .completed)
    have hreserves : ((OrderUpdate.paymentStatus .completed).apply order).reserves =
        demand data.items := by
      rw [← hlines]
      exact Order.reserves_of_pending hpending
    rw [World.request_orders, sum_reserves_status hfind (by decide), hreserves,
      sum_reserves_paymentStatus, World.reserved_confirm (henv 3).2 (by exact hstocked)]
    exact congrArg (· - demand data.items p) (hledger p)

omit henv in
theorem Settles.captured_of_ok (h : Settles env data id total w (.ok ()) env' w')
    (hpays : data.pays.isSome) : (env 0).stripe.captures := by
  cases h with
  | unpaid hnone => simp [hnone] at hpays
  | confirmed _ _ hstripe => exact hstripe

theorem Settles.declined_of_error {e : Error}
    (h : Settles env data id total w (.error e) env' w') :
    data.pays.isSome ∧ (env 0).stripe.captures = false ∧ env' 0 = env 2 ∧
      w' = w.request (env 1).rpc.ran .release data.items := by
  cases h with
  | declined hpays hstripe => exact ⟨by rw [hpays]; rfl, hstripe, rfl, rfl⟩
  | unrecorded hpays reply hstripe hdb => simp [(henv 1).1] at hdb
  | unconfirmed hpays reply hstripe hdb hdb' => simp [(henv 2).1] at hdb'

end Settles

theorem CreateOrderData.reserves_row (data : CreateOrderData) (id : OrderId) (now : Nat) :
    (data.newOrder.row id now).reserves = demand data.items := by
  rw [Order.reserves_of_pending rfl, NewOrder.lines_row]
  rfl

section Step

variable {w : World} {env : Script Turn}

theorem Ledger.insert (hledger : Ledger w) (hrpc : (env 0).rpc = .answered fun _ => .accept)
    {data : CreateOrderData} (hgrants : InventoryService.grants w.inventory data.items)
    {id : OrderId} {now : Nat} {orders : OrderTable}
    (hinsert : w.orders.insert (data.newOrder.row id now) = some orders) :
    Ledger ((w.request (env 0).rpc.ran .reserve data.items).store orders) := by
  intro p
  rw [World.store_orders, World.store_inventory, Table.sum_insert _ hinsert, data.reserves_row,
    World.reserved_reserve hrpc hgrants, hledger p]

/-- Once an order's stock is taken off the reservations too often, only an empty order is
still in balance. -/
theorem ledger_iff_of_overdrawn {w' : World} {items : List Item} (hledger : Ledger w)
    (hpos : Positive items) {k : Int} (hk : 0 < k)
    (hsum : ∀ p, (w'.orders.sum fun order => order.reserves p) =
      w.orders.sum fun order => order.reserves p)
    (hreserved : ∀ p, w'.inventory.reserved p = w.inventory.reserved p - k * demand items p) :
    Ledger w' ↔ items = [] := by
  rw [← hpos.demand_eq_zero_iff]
  apply forall_congr'
  intro p
  rw [hsum, hreserved, hledger p, sub_eq_self, mul_eq_zero]
  exact or_iff_right hk.ne'

theorem ledger_create_iff (hledger : Ledger w) (henv : ∀ n, (env n).Reliable w)
    {data : CreateOrderData} (hpos : Positive data.items) :
    Ledger (OrderCall.serve w (.create data, env)) ↔ SettlesOnce w (.create data, env) := by
  have hrpc := (henv 0).rpc
  have henv' : ∀ n, (env.tail.tail n).db = .accept ∧
      (env.tail.tail n).rpc = .answered fun _ => .accept :=
    fun n => ⟨(henv _).db, (henv _).rpc⟩
  have h := creates env w data
  rw [OrderCall.serve, OrderCall.program]
  generalize Prog.play World.handle env (OrderService.create data) w = result at h
  cases h with
  | refused hreply =>
    rw [World.reply_reserve hrpc] at hreply
    refine iff_of_true (fun p => ?_) fun _ _ hreservable => ?_
    · rw [World.request_orders, World.inventory_reserve hrpc, hreply]
      exact hledger p
    · rw [(InventoryService.grants_iff hpos).mpr hreservable] at hreply
      simp at hreply
  | notInserted hreply hinsert =>
    rcases hinsert with ⟨m, hreject⟩ | htaken
    · simp [(henv 1).db] at hreject
    · exact absurd (henv 1).fresh htaken
  | failed hreply hdb hinsert hsettle =>
    rw [World.reply_reserve hrpc] at hreply
    obtain ⟨hpays, hstripe, henv₂, rfl⟩ := hsettle.declined_of_error henv'
    rw [henv₂]
    have hstocked := (World.stocked_request w (env 0).rpc.ran .reserve data.items _).mpr
      (InventoryService.stocked_of_grants hreply)
    have hinserted := hledger.insert hrpc hreply hinsert
    refine (ledger_iff_of_overdrawn hinserted hpos (k := 2) (by decide) (fun p => ?_)
      (fun p => ?_)).trans ?_
    · rw [World.request_orders, World.request_orders]
    · rw [World.reserved_release (henv' 2).2 ((World.stocked_request ..).mpr (by exact hstocked)),
        World.reserved_release (henv' 1).2 (by exact hstocked)]
      omega
    · have hreservable := (InventoryService.grants_iff hpos).mp hreply
      exact ⟨fun h _ _ _ => h, fun h => h hpays hstripe hreservable⟩
  | placed hreply hdb hinsert hsettle =>
    rw [World.reply_reserve hrpc] at hreply
    have hstocked := (World.stocked_request w (env 0).rpc.ran .reserve data.items _).mpr
      (InventoryService.stocked_of_grants hreply)
    have hfind := (Table.find?_insert hinsert _).trans (if_pos rfl)
    have hledger' := hsettle.ledger henv' hfind (NewOrder.lines_row ..) rfl (by exact hstocked)
      (hledger.insert hrpc hreply hinsert)
    refine iff_of_true (fun p => ?_) fun hpays hstripe _ => ?_
    · rw [World.emit_inventory, World.emit_orders]
      exact hledger' p
    · have hcaptured := hsettle.captured_of_ok hpays
      rw [Script.tail_apply, Script.tail_apply, hstripe] at hcaptured
      simp at hcaptured

theorem ledger_cancel_iff (hledger : Ledger w) (hstored : Stored w)
    (henv : ∀ n, (env n).Reliable w) {id : OrderId} {userId : UserId} :
    Ledger (OrderCall.serve w (.cancel id userId, env)) ↔ SettlesOnce w (.cancel id userId, env) := by
  have h := cancels env w id userId
  rw [OrderCall.serve, OrderCall.program]
  generalize Prog.play World.handle env (OrderService.cancel id userId) w = result at h
  cases h with
  | unread hdb => simp [(henv 0).db] at hdb
  | missing hdb hfind =>
    exact iff_of_true hledger fun order horder huser _ => absurd huser (hfind order horder)
  | settled hdb hfind huser hstatus =>
    apply iff_of_true hledger
    intro order' hfind' _ hconfirmed
    obtain rfl := Option.some.inj (hfind.symm.trans hfind')
    simp [hconfirmed] at hstatus
  | unwritten hdb hfind huser hstatus hdb' => simp [(henv 2).db] at hdb'
  | @cancelled order hdb hfind huser hstatus hdb' =>
    obtain ⟨hpos, hstocked⟩ := hstored order (Table.mem_of_find? hfind)
    have hsum : ∀ p, (((w.request (env 1).rpc.ran .release order.lines).modify id
        (.status .cancelled)).orders.sum fun order => order.reserves p) =
        (w.orders.sum fun order => order.reserves p) - order.reserves p := by
      intro p
      have hfind' : (w.request (env 1).rpc.ran .release order.lines).orders.find? id =
          some order := by rw [World.request_orders, hfind]
      rw [sum_reserves_status hfind' (by decide),
        World.request_orders]
    have hreserved := World.reserved_release (henv 1).rpc hstocked
    simp only [List.mem_cons, List.not_mem_nil, or_false] at hstatus
    rcases hstatus with hpending | hconfirmed
    · refine iff_of_true (fun p => ?_) fun order' hfind' _ hconfirmed => ?_
      · rw [World.emit_inventory, World.emit_orders, World.modify_inventory, hsum, hreserved,
          hledger p, Order.reserves_of_pending hpending]
      · obtain rfl := Option.some.inj (hfind.symm.trans hfind')
        simp [hconfirmed] at hpending
    · have hzero : order.reserves = 0 := Order.reserves_of_ne (by rw [hconfirmed]; decide)
      refine (ledger_iff_of_overdrawn hledger hpos (k := 1) (by decide) (fun p => ?_)
        (fun p => ?_)).trans ?_
      · rw [World.emit_orders, hsum, hzero, Pi.zero_apply, sub_zero]
      · rw [World.emit_inventory, World.modify_inventory, hreserved, one_mul]
      · rw [Order.lines, List.map_eq_nil_iff]
        constructor
        · intro hempty order' hfind' _ _
          obtain rfl := Option.some.inj (hfind.symm.trans hfind')
          exact hempty
        · exact fun hsettles => hsettles order hfind huser hconfirmed

end Step

section Stored

variable {w : World}

theorem Stored.request (h : Stored w) (ran : Option (Script DbTurn)) (queue : InventoryQueue)
    (items : List Item) : Stored (w.request ran queue items) := by
  intro order horder
  rw [World.request_orders] at horder
  exact ⟨(h order horder).1, (World.stocked_request ..).mpr (h order horder).2⟩

theorem Stored.modify (h : Stored w) (id : OrderId) (data : OrderUpdate) :
    Stored (w.modify id data) :=
  Table.forall_modify data.apply_id h fun order horder => by rwa [OrderUpdate.lines_apply]

theorem Stored.emit (h : Stored w) (broker : Option String) (event : OrderEvent) :
    Stored (w.emit broker event) := by
  intro order horder
  rw [World.emit_orders] at horder
  rw [World.emit_inventory]
  exact h order horder

theorem Stored.settles (h : Stored w) {env env' : Script Turn} {data : CreateOrderData}
    {id : OrderId} {total : Int} {r : Except Error Unit} {w' : World}
    (hsettle : Settles env data id total w r env' w') : Stored w' := by
  cases hsettle with
  | unpaid => exact h
  | declined => exact h.request _ _ _
  | unrecorded => exact h
  | unconfirmed => exact Stored.modify (w := w.capture _) h _ _
  | confirmed => exact ((Stored.modify (w := w.capture _) h _ _).modify _ _).request _ _ _

theorem Stored.serve (h : Stored w) {call : OrderCall × Script Turn} (hcall : Regular w call) :
    Stored (OrderCall.serve w call) := by
  obtain ⟨call, env⟩ := call
  obtain ⟨henv, hpos⟩ := hcall
  cases call with
  | create data =>
    have hinserted : ∀ {orders : OrderTable},
        (w.reply (env 0).rpc .reserve data.items).success →
        w.orders.insert (data.newOrder.row (env 1).newId (env 1).now) = some orders →
        Stored ((w.request (env 0).rpc.ran .reserve data.items).store orders) := by
      intro orders hreply hinsert
      rw [World.reply_reserve (henv 0).rpc] at hreply
      have hrequest := h.request (env 0).rpc.ran .reserve data.items
      rw [Stored, World.request_orders] at hrequest
      refine Table.forall_insert hinsert hrequest ⟨?_, ?_⟩
      · rw [NewOrder.lines_row]
        exact hpos data rfl
      · rw [NewOrder.lines_row]
        exact (World.stocked_request ..).mpr (InventoryService.stocked_of_grants hreply)
    have hcreates := creates env w data
    rw [OrderCall.serve, OrderCall.program]
    generalize Prog.play World.handle env (OrderService.create data) w = result at hcreates
    cases hcreates with
    | refused => exact h.request _ _ _
    | notInserted => exact (h.request _ _ _).request _ _ _
    | failed hreply hdb hinsert hsettle =>
      exact ((hinserted hreply hinsert).settles hsettle).request _ _ _
    | placed hreply hdb hinsert hsettle =>
      exact ((hinserted hreply hinsert).settles hsettle).emit _ _
  | cancel id userId =>
    have hcancels := cancels env w id userId
    rw [OrderCall.serve, OrderCall.program]
    generalize Prog.play World.handle env (OrderService.cancel id userId) w = result at hcancels
    cases hcancels with
    | unread | missing | settled => exact h
    | unwritten => exact h.request _ _ _
    | cancelled => exact ((h.request _ _ _).modify _ _).emit _ _

end Stored

/-- From an empty order table and unreserved stock, the ledger is kept by exactly those runs in
which no payment is declined after its stock was reserved and no confirmed order is cancelled. -/
theorem ledger_always_iff {w : World} (horders : w.orders = .empty)
    (hstock : ∀ p row, w.inventory p = some row → row.reservedQuantity = 0 ∧ 0 ≤ row.quantity)
    {calls : List (OrderCall × Script Turn)} (hcalls : Runs.Along OrderCall.serve Regular w calls) :
    Runs.Always OrderCall.serve Ledger w calls ↔ Runs.Along OrderCall.serve SettlesOnce w calls := by
  refine Runs.always_iff_along (J := Stored) (Q := Regular) ?_ ?_ ?_ ?_ hcalls
  · rintro w ⟨call, env⟩ hledger hstored ⟨henv, hpos⟩
    cases call with
    | create data => exact ledger_create_iff hledger henv (hpos data rfl)
    | cancel id userId => exact ledger_cancel_iff hledger hstored henv
  · exact fun w call _ hstored hcall _ => hstored.serve hcall
  · intro p
    rw [horders, Table.sum_empty]
    cases hrow : w.inventory p with
    | none => simp [Stock.reserved, hrow]
    | some row => rw [Stock.reserved_of_some hrow, (hstock p row hrow).1]
  · intro order horder
    rw [horders] at horder
    cases horder

section Example

private def shop : World := .opening (.single "a" ⟨10, 0, 5⟩)

private def threeOfA : CreateOrderData := ⟨"u", [⟨"a", 3⟩], ⟨"", "", "", "", ""⟩, some "card"⟩

private def approved (newId : OrderId) : Script Turn :=
  fun _ => .smooth (.answered ⟨"pi", "succeeded"⟩) newId

private def declined (newId : OrderId) : Script Turn :=
  fun _ => .smooth (.failed "Your card was declined.") newId

theorem ledger_always_iff_shop :
    Runs.Always OrderCall.serve Ledger shop [(.create threeOfA, approved "o")] ↔
      Runs.Along OrderCall.serve SettlesOnce shop [(.create threeOfA, approved "o")] := by
  refine ledger_always_iff rfl ?_ ⟨⟨fun n => ⟨rfl, rfl, rfl⟩, ?_⟩, trivial⟩
  · intro p row h
    by_cases hp : p = "a"
    · subst hp
      obtain rfl : ⟨10, 0, 5⟩ = row := by simpa [shop, World.opening, Stock.single] using h
      decide
    · simp [shop, World.opening, Stock.single, hp] at h
  · rintro data ⟨⟩
    decide

/-- A declined payment leaves `-3` reserved for a pending order of three; a confirmed order
that is cancelled leaves `-3` reserved for none. -/
theorem not_ledger_always_shop :
    ¬ Runs.Always OrderCall.serve Ledger shop [(.create threeOfA, declined "o")] ∧
    ¬ Runs.Always OrderCall.serve Ledger shop
      [(.create threeOfA, approved "o"), (.cancel "o" "u", approved "p")] := by
  refine ⟨fun h => ?_, fun h => ?_⟩
  · have hledger := h.1 "a"
    revert hledger
    decide
  · have hledger := h.2.1 "a"
    revert hledger
    decide

end Example

end Ecommerce
