import Ecommerce.Lib.Runs
import Ecommerce.Order.Effect

namespace Ecommerce

def World.chargesOf (w : World) (id : OrderId) : List Int :=
  (w.charges.filter (·.orderId = id)).map (·.amount)

def Backed (charges : List Int) : Option Order → Prop
  | none => charges = []
  | some order =>
    if order.status = .confirmed then
      charges = [order.total * 100] ∧ order.paymentStatus = .completed
    else charges = []

instance (charges : List Int) : (order : Option Order) → Decidable (Backed charges order)
  | none => inferInstanceAs (Decidable (charges = []))
  | some order => inferInstanceAs (Decidable (if order.status = .confirmed then
      charges = [order.total * 100] ∧ order.paymentStatus = .completed else charges = []))

def MoneyConserved (w : World) : Prop := ∀ id, Backed (w.chargesOf id) (w.orders.find? id)

/-- Both status updates after a captured payment are accepted, and no confirmed order has its
cancellation written. -/
def KeepsMoney (w : World) : OrderCall × Script Turn → Prop
  | (.create data, env) => (w.reply (env 0).rpc .reserve data.items).success →
      (env 1).db = .accept → w.orders.find? (env 1).newId = none →
      data.pays.isSome → (env 2).stripe.captures →
      (env 3).db = .accept ∧ (env 4).db = .accept
  | (.cancel id userId, env) => (env 0).db = .accept → ∀ order, w.orders.find? id = some order →
      order.userId = userId → order.status = .confirmed → ∃ m, (env 2).db = .reject m

namespace World

variable (w : World)

theorem chargesOf_eq {w w' : World} (h : w'.charges = w.charges) (id : OrderId) :
    w'.chargesOf id = w.chargesOf id := by rw [chargesOf, h]; rfl

@[simp] theorem chargesOf_request (ran : Option (Script DbTurn)) (queue : InventoryQueue)
    (items : List Item) (id : OrderId) :
    (w.request ran queue items).chargesOf id = w.chargesOf id := chargesOf_eq (request_charges ..) id

@[simp] theorem chargesOf_modify (id' : OrderId) (data : OrderUpdate) (id : OrderId) :
    (w.modify id' data).chargesOf id = w.chargesOf id := rfl

theorem chargesOf_capture_self (transactionId : String) (id : OrderId) (amount : Int) :
    (w.capture ⟨transactionId, id, amount⟩).chargesOf id = w.chargesOf id ++ [amount] := by
  simp [chargesOf]

theorem chargesOf_capture_of_ne (transactionId : String) {id id' : OrderId} (h : id' ≠ id)
    (amount : Int) :
    (w.capture ⟨transactionId, id, amount⟩).chargesOf id' = w.chargesOf id' := by
  have hne : ¬id = id' := fun e => h e.symm
  simp [chargesOf, hne]

end World

section Backed

theorem backed_of_ne {charges : List Int} {order : Order} (h : order.status ≠ .confirmed) :
    Backed charges (some order) ↔ charges = [] := by
  rw [Backed, if_neg h]

theorem backed_of_confirmed {charges : List Int} {order : Order} (h : order.status = .confirmed) :
    Backed charges (some order) ↔
      charges = [order.total * 100] ∧ order.paymentStatus = .completed := by
  rw [Backed, if_pos h]

end Backed

theorem moneyConserved_congr {w w' : World} (hcharges : w'.charges = w.charges)
    (horders : w'.orders = w.orders) : MoneyConserved w' ↔ MoneyConserved w := by
  apply forall_congr'
  intro id
  rw [World.chargesOf_eq hcharges, horders]

theorem moneyConserved_request (w : World) (ran : Option (Script DbTurn)) (queue : InventoryQueue)
    (items : List Item) : MoneyConserved (w.request ran queue items) ↔ MoneyConserved w :=
  moneyConserved_congr (World.request_charges ..) (World.request_orders ..)

theorem moneyConserved_emit (w : World) (broker : Option String) (event : OrderEvent) :
    MoneyConserved (w.emit broker event) ↔ MoneyConserved w :=
  moneyConserved_congr (World.emit_charges ..) (World.emit_orders ..)

section Frame

variable {w w' : World} (hmoney : MoneyConserved w)
include hmoney

/-- A step that touches one order is judged by that order alone. -/
theorem MoneyConserved.iff_of_frame (id : OrderId)
    (hcharges : ∀ id', id' ≠ id → w'.chargesOf id' = w.chargesOf id')
    (horders : ∀ id', id' ≠ id → w'.orders.find? id' = w.orders.find? id') :
    MoneyConserved w' ↔ Backed (w'.chargesOf id) (w'.orders.find? id) := by
  constructor
  · exact fun h => h id
  · intro h id'
    by_cases hid : id' = id
    · rw [hid]
      exact h
    · rw [hcharges id' hid, horders id' hid]
      exact hmoney id'

theorem MoneyConserved.store {data : CreateOrderData} {id : OrderId} {now : Nat}
    {orders : OrderTable} (hinsert : w.orders.insert (data.newOrder.row id now) = some orders) :
    MoneyConserved (w.store orders) := by
  have hnone : w.orders.find? id = none := Table.find?_of_insert hinsert
  have huncharged := hmoney id
  rw [hnone] at huncharged
  have hframe : MoneyConserved (w.store orders) ↔
      Backed ((w.store orders).chargesOf id) (orders.find? id) := by
    refine hmoney.iff_of_frame id (fun _ _ => rfl) fun id' hid => ?_
    rw [World.store_orders, Table.find?_insert hinsert]
    exact if_neg hid
  have hpending : (data.newOrder.row id now).status ≠ .confirmed := by
    change OrderStatus.pending ≠ .confirmed
    decide
  rw [hframe, (Table.find?_insert hinsert id).trans (if_pos rfl), backed_of_ne hpending]
  exact huncharged

end Frame

theorem Settles.moneyConserved_iff {env env' : Script Turn} {data : CreateOrderData} {id : OrderId}
    {w w' : World} {r : Except Error Unit} (order : Order) (hmoney : MoneyConserved w)
    (hfind : w.orders.find? id = some order) (hpending : order.status = .pending)
    (h : Settles env data id order.total w r env' w') :
    MoneyConserved w' ↔ (data.pays.isSome → (env 0).stripe.captures →
      (env 1).db = .accept ∧ (env 2).db = .accept) := by
  have huncharged : w.chargesOf id = [] := by
    have h := hmoney id
    rw [hfind] at h
    exact (backed_of_ne (by rw [hpending]; decide)).mp h
  cases h with
  | unpaid hpays => exact iff_of_true hmoney fun hsome => by simp [hpays] at hsome
  | declined hpays hstripe =>
    apply iff_of_true ((moneyConserved_request ..).mpr hmoney)
    intro _ hcaptured
    simp [hstripe] at hcaptured
  | unrecorded hpays reply hstripe hdb =>
    refine iff_of_false (fun hmoney' => ?_) fun h => ?_
    · have hbacked := hmoney' id
      rw [World.capture_orders, hfind, backed_of_ne (by rw [hpending]; decide),
        World.chargesOf_capture_self] at hbacked
      simp at hbacked
    · obtain ⟨haccept, -⟩ := h (by rw [hpays]; rfl) hstripe
      simp [hdb] at haccept
  | unconfirmed hpays reply hstripe hdb hdb' =>
    refine iff_of_false (fun hmoney' => ?_) fun h => ?_
    · have hbacked := hmoney' id
      have hstatus : ((OrderUpdate.paymentStatus .completed).apply order).status ≠ .confirmed := by
        rw [OrderUpdate.apply, hpending]
        decide
      rw [World.find?_modify_self (w := w.capture _) hfind, backed_of_ne hstatus,
        World.chargesOf_modify, World.chargesOf_capture_self] at hbacked
      simp at hbacked
    · obtain ⟨-, haccept⟩ := h (by rw [hpays]; rfl) hstripe
      simp [hdb'] at haccept
  | confirmed hpays reply hstripe hdb hdb' =>
    refine iff_of_true ?_ fun _ _ => ⟨hdb, hdb'⟩
    have hpaid := World.find?_modify_self (w := w.capture ⟨reply.id, id, order.total * 100⟩) hfind
      (.paymentStatus .completed)
    rw [hmoney.iff_of_frame id]
    · rw [World.request_orders, World.find?_modify_self hpaid, backed_of_confirmed rfl]
      refine ⟨?_, rfl⟩
      rw [World.chargesOf_request, World.chargesOf_modify, World.chargesOf_modify,
        World.chargesOf_capture_self, huncharged]
      rfl
    · intro id' hid
      rw [World.chargesOf_request, World.chargesOf_modify, World.chargesOf_modify,
        World.chargesOf_capture_of_ne _ _ hid]
    · intro id' hid
      rw [World.request_orders, World.find?_modify_of_ne hid, World.find?_modify_of_ne hid,
        World.capture_orders]

section Step

variable {w : World} {env : Script Turn}

theorem Settles.keepsMoney_iff {data : CreateOrderData} {orders : OrderTable} {env' : Script Turn}
    {w' : World} {r : Except Error Unit} (hmoney : MoneyConserved w)
    (hreply : (w.reply (env 0).rpc .reserve data.items).success) (hdb : (env 1).db = .accept)
    (hinsert : w.orders.insert (data.newOrder.row (env 1).newId (env 1).now) = some orders)
    (h : Settles env.tail.tail data (env 1).newId 1100
      ((w.request (env 0).rpc.ran .reserve data.items).store orders) r env' w') :
    MoneyConserved w' ↔ KeepsMoney w (.create data, env) := by
  have hnone := Table.find?_of_insert hinsert
  have hfind := (Table.find?_insert hinsert (env 1).newId).trans (if_pos rfl)
  rw [← World.request_orders w (env 0).rpc.ran .reserve data.items] at hinsert
  have hstored := ((moneyConserved_request ..).mpr hmoney).store hinsert
  rw [h.moneyConserved_iff (data.newOrder.row (env 1).newId (env 1).now) hstored hfind rfl]
  exact ⟨fun h _ _ _ => h, fun h => h hreply hdb hnone⟩

theorem moneyConserved_create_iff (hmoney : MoneyConserved w) (data : CreateOrderData) :
    MoneyConserved (OrderCall.serve w (.create data, env)) ↔ KeepsMoney w (.create data, env) := by
  have hreserved : MoneyConserved (w.request (env 0).rpc.ran .reserve data.items) :=
    (moneyConserved_request ..).mpr hmoney
  have hcreates := creates env w data
  rw [OrderCall.serve, OrderCall.program]
  generalize Prog.play World.handle env (OrderService.create data) w = result at hcreates
  cases hcreates with
  | refused hreply => exact iff_of_true hreserved fun h => by simp [hreply] at h
  | notInserted hreply hinsert =>
    apply iff_of_true ((moneyConserved_request ..).mpr hreserved)
    intro _ hdb hnone
    rcases hinsert with ⟨m, hm⟩ | hm
    · simp [hdb] at hm
    · exact absurd hnone hm
  | failed hreply hdb hinsert hsettle =>
    rw [moneyConserved_request]
    exact hsettle.keepsMoney_iff hmoney hreply hdb hinsert
  | placed hreply hdb hinsert hsettle =>
    rw [moneyConserved_emit]
    exact hsettle.keepsMoney_iff hmoney hreply hdb hinsert

theorem moneyConserved_cancel_iff (hmoney : MoneyConserved w) (id : OrderId) (userId : UserId) :
    MoneyConserved (OrderCall.serve w (.cancel id userId, env)) ↔
      KeepsMoney w (.cancel id userId, env) := by
  have hcancels := cancels env w id userId
  rw [OrderCall.serve, OrderCall.program]
  generalize Prog.play World.handle env (OrderService.cancel id userId) w = result at hcancels
  cases hcancels with
  | unread hdb => exact iff_of_true hmoney fun h => by simp [hdb] at h
  | missing hdb hfind =>
    exact iff_of_true hmoney fun _ order horder huser => absurd huser (hfind order horder)
  | settled hdb hfind huser hstatus =>
    apply iff_of_true hmoney
    intro _ order hfind' _ hconfirmed
    obtain rfl := Option.some.inj (hfind.symm.trans hfind')
    simp [hconfirmed] at hstatus
  | unwritten hdb hfind huser hstatus hdb' =>
    exact iff_of_true ((moneyConserved_request ..).mpr hmoney) fun _ _ _ _ _ => ⟨_, hdb'⟩
  | @cancelled order hdb hfind huser hstatus hdb' =>
    have hcancelled : ((OrderUpdate.status .cancelled).apply order).status ≠ .confirmed := by
      change OrderStatus.cancelled ≠ .confirmed
      decide
    have hframe : MoneyConserved ((w.request (env 1).rpc.ran .release order.lines).modify id
        (.status .cancelled)) ↔ w.chargesOf id = [] := by
      rw [hmoney.iff_of_frame id]
      · rw [World.find?_modify_self (by rw [World.request_orders, hfind]), backed_of_ne hcancelled,
          World.chargesOf_modify, World.chargesOf_request]
      · intro id' _
        rw [World.chargesOf_modify, World.chargesOf_request]
      · intro id' hid
        rw [World.find?_modify_of_ne hid, World.request_orders]
    have hbacked := hmoney id
    rw [hfind] at hbacked
    rw [moneyConserved_emit, hframe]
    by_cases hconfirmed : order.status = .confirmed
    · rw [backed_of_confirmed hconfirmed] at hbacked
      apply iff_of_false (by simp [hbacked.1])
      intro h
      obtain ⟨m, hm⟩ := h hdb order hfind huser hconfirmed
      simp [hdb'] at hm
    · rw [backed_of_ne hconfirmed] at hbacked
      apply iff_of_true hbacked
      intro _ order' hfind' _ hconfirmed'
      obtain rfl := Option.some.inj (hfind.symm.trans hfind')
      exact absurd hconfirmed' hconfirmed

end Step

/-- Money is conserved along exactly those runs in which every captured payment gets its order
confirmed and no confirmed order gets cancelled. -/
theorem moneyConserved_always_iff {w : World} (hmoney : MoneyConserved w)
    (calls : List (OrderCall × Script Turn)) :
    Runs.Always OrderCall.serve MoneyConserved w calls ↔
      Runs.Along OrderCall.serve KeepsMoney w calls := by
  refine Runs.always_iff_along (J := fun _ => True) (Q := fun _ _ => True) ?_
    (fun _ _ _ _ _ _ => trivial) hmoney trivial (Runs.along_of_forall fun _ _ => trivial)
  rintro w ⟨call, env⟩ hmoney - -
  cases call with
  | create data => exact moneyConserved_create_iff hmoney data
  | cancel id userId => exact moneyConserved_cancel_iff hmoney id userId

section Example

private def boutique : World := .opening (.single "a" ⟨10, 0, 5⟩)

private def oneOfA : CreateOrderData := ⟨"u", [⟨"a", 1⟩], ⟨"", "", "", "", ""⟩, some "card"⟩

private def paid : Script Turn := fun _ => .smooth (.answered ⟨"pi", "succeeded"⟩) "o"

/-- The database goes away after `updatePaymentStatus`. -/
private def cutOff : Script Turn := fun n =>
  if n = 4 then { paid n with db := .reject "Can't reach database server" } else paid n

private theorem moneyConserved_boutique : MoneyConserved boutique := fun _ => rfl

theorem moneyConserved_always_iff_boutique :
    Runs.Always OrderCall.serve MoneyConserved boutique [(.create oneOfA, paid)] ↔
      Runs.Along OrderCall.serve KeepsMoney boutique [(.create oneOfA, paid)] :=
  moneyConserved_always_iff moneyConserved_boutique _

/-- A `create` that has rejected keeps the charge of a pending order, and a cancelled order
keeps the charge it was confirmed with. -/
theorem not_moneyConserved_boutique :
    ¬ Runs.Always OrderCall.serve MoneyConserved boutique [(.create oneOfA, cutOff)] ∧
    ¬ Runs.Always OrderCall.serve MoneyConserved boutique
      [(.create oneOfA, paid), (.cancel "o" "u", paid)] := by
  refine ⟨fun h => ?_, fun h => ?_⟩
  · have hbacked := h.1 "o"
    revert hbacked
    decide
  · have hbacked := h.2.1 "o"
    revert hbacked
    decide

end Example

end Ecommerce
