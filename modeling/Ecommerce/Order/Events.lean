import Ecommerce.Lib.Runs
import Ecommerce.Order.Effect

namespace Ecommerce

namespace OrderEvent

def announces (id : OrderId) : OrderEvent → Bool
  | .created orderId .. => orderId = id
  | .cancelled .. => false

def withdraws (id : OrderId) : OrderEvent → Bool
  | .created .. => false
  | .cancelled orderId .. => orderId = id

end OrderEvent

/-- Each order is created once and cancelled once, in this order. -/
structure Orderly (events : List OrderEvent) : Prop where
  created : ∀ id, events.countP (·.announces id) ≤ 1
  cancelled : ∀ id, events.countP (·.withdraws id) ≤ 1
  paired : ∀ id before event after, events = before ++ event :: after → event.withdraws id →
    before.any (·.announces id)

/-- The only order that the call announces is the one that it resolves with, as a `create`. -/
def AnnouncesItsOwn (w : World) (call : OrderCall × Script Turn) : Prop :=
  ∃ published, (OrderCall.serve w call).events = w.events ++ published ∧
    ∀ id, published.any (·.announces id) → ∃ data order, call.1 = .create data ∧
      (Prog.play World.handle call.2 call.1.program w).1 = .ok order ∧ order.id = id

def CreateOrderData.GoesThrough (data : CreateOrderData) (env : Script Turn) : Prop :=
  data.pays.isSome → (env 0).stripe.captures ∧ (env 1).db = .accept ∧ (env 2).db = .accept

/-- The call is a `create` that stores the order `id` and then fails. -/
def Abandons (w : World) (call : OrderCall × Script Turn) (id : OrderId) : Prop :=
  match call with
  | (.create data, env) => (w.reply (env 0).rpc .reserve data.items).success ∧
      (env 1).db = .accept ∧ w.orders.find? (env 1).newId = none ∧
      ¬ data.GoesThrough env.tail.tail ∧ (env 1).newId = id
  | (.cancel _ _, _) => False

/-- The call is a cancellation of the order `id` that goes through. -/
def Withdraws (w : World) (call : OrderCall × Script Turn) (id : OrderId) : Prop :=
  match call with
  | (.create _, _) => False
  | (.cancel id' userId, env) => ((env 0).db = .accept ∧ (env 2).db = .accept ∧
      ∃ order, w.orders.find? id' = some order ∧ order.userId = userId ∧
        order.status ∈ [.pending, .confirmed]) ∧ id' = id

namespace World

variable (w : World)

@[simp] theorem request_events (ran : Option (Script DbTurn)) (queue : InventoryQueue)
    (items : List Item) : (w.request ran queue items).events = w.events := by
  cases ran <;> rfl

@[simp] theorem store_events (orders : OrderTable) : (w.store orders).events = w.events := rfl

@[simp] theorem capture_events (c : Charge) : (w.capture c).events = w.events := rfl

@[simp] theorem modify_events (id : OrderId) (data : OrderUpdate) :
    (w.modify id data).events = w.events := rfl

@[simp] theorem isSome_modify (id : OrderId) (data : OrderUpdate) (id' : OrderId) :
    ((w.modify id data).orders.find? id').isSome = (w.orders.find? id').isSome := by
  rw [modify_orders, Table.find?_modify]
  split
  · next hid => rw [Option.isSome_map, hid]
  · rfl

theorem emit_events {broker : Option String} (h : broker = none) (event : OrderEvent) :
    (w.emit broker event).events = w.events ++ [event] := by
  rw [h]
  rfl

def Unannounced (id : OrderId) : Prop :=
  (w.orders.find? id).isSome ∧ w.events.any (·.announces id) = false

end World

/-- The table bears out what the stream tells. -/
structure Told (w : World) : Prop where
  created : ∀ id, w.events.any (·.announces id) → (w.orders.find? id).isSome
  cancelled : ∀ id, w.events.any (·.withdraws id) →
    ∃ order, w.orders.find? id = some order ∧ order.status = .cancelled

section Settles

variable {env env' : Script Turn} {data : CreateOrderData} {id : OrderId} {total : Int}
  {w w' : World} {r : Except Error Unit}

theorem Settles.events_eq (h : Settles env data id total w r env' w') : w'.events = w.events := by
  cases h <;> simp

theorem Settles.goesThrough_iff (h : Settles env data id total w r env' w') :
    data.GoesThrough env ↔ r = .ok () := by
  cases h with
  | unpaid hpays => simp [CreateOrderData.GoesThrough, hpays]
  | declined hpays hstripe => simp [CreateOrderData.GoesThrough, hpays, hstripe]
  | unrecorded hpays reply hstripe hdb => simp [CreateOrderData.GoesThrough, hpays, hdb]
  | unconfirmed hpays reply hstripe hdb hdb' => simp [CreateOrderData.GoesThrough, hpays, hdb']
  | confirmed hpays reply hstripe hdb hdb' =>
    simp [CreateOrderData.GoesThrough, hstripe, hdb, hdb']

theorem Settles.isSome_find? (h : Settles env data id total w r env' w') (id' : OrderId) :
    (w'.orders.find? id').isSome = (w.orders.find? id').isSome := by
  cases h with
  | unpaid => rfl
  | declined => rw [World.request_orders]
  | unrecorded => rfl
  | unconfirmed => rw [World.isSome_modify, World.capture_orders]
  | confirmed =>
    rw [World.request_orders, World.isSome_modify, World.isSome_modify, World.capture_orders]

theorem Settles.forall_script (h : Settles env data id total w r env' w') {P : Turn → Prop}
    (henv : ∀ n, P (env n)) (n : Nat) : P (env' n) := by
  cases h <;> exact henv _

end Settles

def Touches (id : OrderId) (w w' : World) : Prop :=
  ∀ id', id' ≠ id → w'.orders.find? id' = w.orders.find? id'

inductive Tells (w : World) (call : OrderCall × Script Turn) (w' : World) : Prop
  | silent (horders : w'.orders = w.orders) (hevents : w'.events = w.events)
      (habandons : ∀ id, ¬ Abandons w call id) (hwithdraws : ∀ id, ¬ Withdraws w call id)
  | stored (id : OrderId) (hnone : w.orders.find? id = none)
      (hsome : (w'.orders.find? id).isSome) (htouches : Touches id w w')
      (hevents : w'.events = w.events) (habandons : ∀ id', Abandons w call id' ↔ id = id')
      (hwithdraws : ∀ id, ¬ Withdraws w call id)
  | placed (id : OrderId) (event : OrderEvent) (hnone : w.orders.find? id = none)
      (hsome : (w'.orders.find? id).isSome) (htouches : Touches id w w')
      (hevents : w'.events = w.events ++ [event]) (hannounces : ∀ id', event.announces id' ↔ id = id')
      (hkeeps : ∀ id', event.withdraws id' = false) (habandons : ∀ id, ¬ Abandons w call id)
      (hwithdraws : ∀ id, ¬ Withdraws w call id)
  | cancelled (id : OrderId) (event : OrderEvent) (order : Order)
      (hfind : w.orders.find? id = some order) (hopen : order.status ∈ [.pending, .confirmed])
      (hfind' : w'.orders.find? id = some { order with status := .cancelled })
      (htouches : Touches id w w') (hevents : w'.events = w.events ++ [event])
      (hannounces : ∀ id', event.announces id' = false)
      (hwithdrawn : ∀ id', event.withdraws id' ↔ id = id') (habandons : ∀ id, ¬ Abandons w call id)
      (hwithdraws : ∀ id', Withdraws w call id' ↔ id = id')

theorem Settles.touches {env env' : Script Turn} {data : CreateOrderData} {id : OrderId}
    {total : Int} {w w₁ w' : World} {orders : OrderTable} {r : Except Error Unit} {row : Order}
    (h : Settles env data id total (w₁.store orders) r env' w')
    (hinsert : w.orders.insert row = some orders) (hid : row.id = id) :
    (w'.orders.find? id).isSome ∧ Touches id w w' := by
  constructor
  · rw [h.isSome_find?, World.store_orders, Table.find?_insert hinsert, if_pos hid.symm]
    rfl
  · intro id' hne
    rw [h.find?_of_ne hne, World.store_orders, Table.find?_insert hinsert, hid, if_neg hne]

theorem tells_create (w : World) (data : CreateOrderData) {env : Script Turn}
    (hbroker : ∀ n, (env n).broker = none) :
    Tells w (.create data, env) (OrderCall.serve w (.create data, env)) ∧
      AnnouncesItsOwn w (.create data, env) := by
  have hcreates := creates env w data
  rw [AnnouncesItsOwn, OrderCall.serve, OrderCall.program]
  generalize Prog.play World.handle env (OrderService.create data) w = result at hcreates
  cases hcreates with
  | refused hreply =>
    refine ⟨.silent (by simp) (by simp) ?_ fun _ => id, [], by simp, by simp⟩
    rintro id ⟨hsuccess, -⟩
    simp [hreply] at hsuccess
  | notInserted hreply hinsert =>
    refine ⟨.silent (by simp) (by simp) ?_ fun _ => id, [], by simp, by simp⟩
    rintro id ⟨-, hdb, hnone, -⟩
    rcases hinsert with ⟨m, hm⟩ | hm
    · simp [hdb] at hm
    · exact hm hnone
  | failed hreply hdb hinsert hsettle =>
    have hnone := Table.find?_of_insert hinsert
    obtain ⟨hsome, htouches⟩ := hsettle.touches hinsert rfl
    have hevents := hsettle.events_eq
    rw [World.store_events, World.request_events] at hevents
    have hfails : ¬ data.GoesThrough env.tail.tail := by
      rw [hsettle.goesThrough_iff]
      rintro ⟨⟩
    refine ⟨.stored (env 1).newId hnone ?_ ?_ ?_ ?_ fun _ => id, [], ?_, by simp⟩
    · rw [World.request_orders]
      exact hsome
    · intro id' hne
      rw [World.request_orders]
      exact htouches id' hne
    · rw [World.request_events, hevents]
    · intro id'
      exact ⟨fun h => h.2.2.2.2, fun h => ⟨hreply, hdb, hnone, hfails, h⟩⟩
    · rw [World.request_events, hevents, List.append_nil]
  | @placed env' orders w' hreply hdb hinsert hsettle =>
    have hnone := Table.find?_of_insert hinsert
    obtain ⟨hsome, htouches⟩ := hsettle.touches hinsert rfl
    have hevents := hsettle.events_eq
    rw [World.store_events, World.request_events] at hevents
    have hworks := hsettle.forall_script (P := fun t => t.broker = none) (fun n => hbroker (n + 2)) 0
    have hgoes := hsettle.goesThrough_iff.mpr rfl
    have hemits := World.emit_events w' hworks
      (OrderService.createdEvent data (data.newOrder.row (env 1).newId (env 1).now) 1100)
    rw [hevents] at hemits
    refine ⟨.placed (env 1).newId _ hnone ?_ ?_ hemits ?_ ?_ ?_ fun _ => id, _, hemits, ?_⟩
    · rw [World.emit_orders]
      exact hsome
    · intro id' hne
      rw [World.emit_orders]
      exact htouches id' hne
    · intro id'
      simp [OrderEvent.announces, OrderService.createdEvent, NewOrder.row]
    · intro id'
      rfl
    · rintro id ⟨-, -, -, hfails, -⟩
      exact hfails hgoes
    · intro id' h
      refine ⟨data, _, rfl, rfl, ?_⟩
      simpa [OrderEvent.announces, OrderService.createdEvent] using h

theorem tells_cancel (w : World) (id : OrderId) (userId : UserId) {env : Script Turn}
    (hbroker : ∀ n, (env n).broker = none) :
    Tells w (.cancel id userId, env) (OrderCall.serve w (.cancel id userId, env)) ∧
      AnnouncesItsOwn w (.cancel id userId, env) := by
  have hcancels := cancels env w id userId
  rw [AnnouncesItsOwn, OrderCall.serve, OrderCall.program]
  generalize Prog.play World.handle env (OrderService.cancel id userId) w = result at hcancels
  cases hcancels with
  | unread hdb =>
    refine ⟨.silent rfl rfl (fun _ => False.elim) ?_, [], by simp, by simp⟩
    rintro id' ⟨⟨haccept, -⟩, -⟩
    simp [hdb] at haccept
  | missing hdb hfind =>
    refine ⟨.silent rfl rfl (fun _ => False.elim) ?_, [], by simp, by simp⟩
    rintro id' ⟨⟨-, -, order, horder, huser, -⟩, -⟩
    exact hfind order horder huser
  | settled hdb hfind huser hstatus =>
    refine ⟨.silent rfl rfl (fun _ => False.elim) ?_, [], by simp, by simp⟩
    rintro id' ⟨⟨-, -, order, horder, -, hopen⟩, -⟩
    obtain rfl := Option.some.inj (hfind.symm.trans horder)
    exact hstatus hopen
  | unwritten hdb hfind huser hstatus hdb' =>
    refine ⟨.silent (by simp) (by simp) (fun _ => False.elim) ?_, [], by simp, by simp⟩
    rintro id' ⟨⟨-, haccept, -⟩, -⟩
    simp [hdb'] at haccept
  | @cancelled order hdb hfind huser hstatus hdb' =>
    have hemits := World.emit_events ((w.request (env 1).rpc.ran .release order.lines).modify id
      (.status .cancelled)) (hbroker 3) (.cancelled id userId order.lines)
    rw [World.modify_events, World.request_events] at hemits
    refine ⟨.cancelled id _ order hfind hstatus ?_ ?_ hemits (fun _ => rfl) ?_ (fun _ => False.elim) ?_,
      _, hemits, ?_⟩
    · rw [World.emit_orders, World.find?_modify_self (by rw [World.request_orders, hfind])]
      rfl
    · intro id' hne
      rw [World.emit_orders, World.find?_modify_of_ne hne, World.request_orders]
    · intro id'
      simp [OrderEvent.withdraws]
    · intro id'
      exact ⟨fun h => h.2, fun h => ⟨⟨hdb, hdb', order, hfind, huser, hstatus⟩, h⟩⟩
    · intro id' h
      simp [OrderEvent.announces] at h

theorem tells (w : World) {call : OrderCall × Script Turn}
    (hbroker : ∀ n, (call.2 n).broker = none) :
    Tells w call (OrderCall.serve w call) ∧ AnnouncesItsOwn w call := by
  obtain ⟨call, env⟩ := call
  cases call with
  | create data => exact tells_create w data hbroker
  | cancel id userId => exact tells_cancel w id userId hbroker

section Orderly

theorem any_concat {α : Type} {p : α → Bool} {xs : List α} {x : α} :
    (xs ++ [x]).any p ↔ xs.any p ∨ p x := by
  rw [List.any_append, List.any_cons, List.any_nil, Bool.or_false, Bool.or_eq_true]

theorem countP_concat_le_one {α : Type} {p : α → Bool} {xs : List α} {x : α} :
    (xs ++ [x]).countP p ≤ 1 ↔ xs.countP p ≤ 1 ∧ (p x → xs.any p = false) := by
  rw [List.countP_append, List.countP_singleton]
  by_cases hx : p x
  · have hany : xs.any p = false ↔ xs.countP p = 0 := by
      rw [List.countP_eq_zero, List.any_eq_false]
    simp only [hx, if_true, hany, true_imp_iff]
    omega
  · simp [hx]

theorem orderly_concat {events : List OrderEvent} {event : OrderEvent} :
    Orderly (events ++ [event]) ↔ Orderly events ∧
      (∀ id, event.announces id → events.any (·.announces id) = false) ∧
      (∀ id, event.withdraws id →
        events.any (·.withdraws id) = false ∧ events.any (·.announces id)) := by
  constructor
  · intro h
    refine ⟨⟨?_, ?_, ?_⟩, ?_, ?_⟩
    · exact fun id => (countP_concat_le_one.mp (h.created id)).1
    · exact fun id => (countP_concat_le_one.mp (h.cancelled id)).1
    · intro id before event' after heq
      exact h.paired id before event' (after ++ [event]) (by simp [heq])
    · exact fun id => (countP_concat_le_one.mp (h.created id)).2
    · intro id hid
      exact ⟨(countP_concat_le_one.mp (h.cancelled id)).2 hid, h.paired id events event [] rfl hid⟩
  · rintro ⟨h, hannounces, hwithdraws⟩
    refine ⟨fun id => ?_, fun id => ?_, fun id before event' after heq hid => ?_⟩
    · exact countP_concat_le_one.mpr ⟨h.created id, hannounces id⟩
    · exact countP_concat_le_one.mpr ⟨h.cancelled id, fun hid => (hwithdraws id hid).1⟩
    · rcases List.eq_nil_or_concat after with rfl | ⟨after, event'', rfl⟩
      · obtain ⟨rfl, heq⟩ := List.append_inj' heq rfl
        obtain rfl : event = event' := by simpa using heq
        exact (hwithdraws id hid).2
      · rw [List.concat_eq_append, ← List.cons_append, ← List.append_assoc] at heq
        obtain ⟨rfl, -⟩ := List.append_inj' heq rfl
        exact h.paired id before event' after rfl hid

end Orderly

section Step

variable {w w' : World} {call : OrderCall × Script Turn}

theorem Touches.isSome {id : OrderId} (h : Touches id w w') (hsome : (w'.orders.find? id).isSome)
    {id' : OrderId} (h' : (w.orders.find? id').isSome) : (w'.orders.find? id').isSome := by
  by_cases hid : id' = id
  · rw [hid]
    exact hsome
  · rw [h id' hid]
    exact h'

theorem Touches.find?_eq {id : OrderId} (h : Touches id w w') (hnone : w.orders.find? id = none)
    {id' : OrderId} {order : Order} (horder : w.orders.find? id' = some order) :
    w'.orders.find? id' = some order := by
  have hne : id' ≠ id := by
    rintro rfl
    simp [hnone] at horder
  rw [h id' hne, horder]

theorem Told.any_announces (hw : Told w) {id : OrderId} (hnone : w.orders.find? id = none) :
    w.events.any (·.announces id) = false := by
  rw [← Bool.not_eq_true]
  intro h
  simpa [hnone] using hw.created id h

theorem Told.any_withdraws (hw : Told w) {id : OrderId} {order : Order}
    (hfind : w.orders.find? id = some order) (hopen : order.status ∈ [.pending, .confirmed]) :
    w.events.any (·.withdraws id) = false := by
  rw [← Bool.not_eq_true]
  intro h
  obtain ⟨order', horder', hcancelled⟩ := hw.cancelled id h
  obtain rfl := Option.some.inj (hfind.symm.trans horder')
  simp [hcancelled] at hopen

theorem Told.tells (hw : Told w) (h : Tells w call w') : Told w' := by
  cases h with
  | silent horders hevents =>
    constructor
    · rw [horders, hevents]
      exact hw.created
    · rw [horders, hevents]
      exact hw.cancelled
  | stored id hnone hsome htouches hevents =>
    constructor
    · intro id' h
      rw [hevents] at h
      exact htouches.isSome hsome (hw.created id' h)
    · intro id' h
      rw [hevents] at h
      obtain ⟨order, horder, hcancelled⟩ := hw.cancelled id' h
      exact ⟨order, htouches.find?_eq hnone horder, hcancelled⟩
  | placed id event hnone hsome htouches hevents hannounces hkeeps =>
    constructor
    · intro id' h
      rw [hevents, any_concat] at h
      rcases h with h | h
      · exact htouches.isSome hsome (hw.created id' h)
      · rw [← (hannounces id').mp h]
        exact hsome
    · intro id' h
      rw [hevents, any_concat] at h
      rcases h with h | h
      · obtain ⟨order, horder, hcancelled⟩ := hw.cancelled id' h
        exact ⟨order, htouches.find?_eq hnone horder, hcancelled⟩
      · simp [hkeeps] at h
  | cancelled id event order hfind hopen hfind' htouches hevents hannounces hwithdrawn =>
    have hsome : (w'.orders.find? id).isSome := by
      rw [hfind']
      rfl
    constructor
    · intro id' h
      rw [hevents, any_concat] at h
      rcases h with h | h
      · exact htouches.isSome hsome (hw.created id' h)
      · simp [hannounces] at h
    · intro id' h
      by_cases hid : id' = id
      · rw [hid]
        exact ⟨_, hfind', rfl⟩
      · rw [hevents, any_concat] at h
        rw [htouches id' hid]
        rcases h with h | h
        · exact hw.cancelled id' h
        · exact absurd ((hwithdrawn id').mp h).symm hid

theorem Tells.unannounced_iff (hw : Told w) (h : Tells w call w') (id : OrderId) :
    w'.Unannounced id ↔ w.Unannounced id ∨ Abandons w call id := by
  cases h with
  | silent horders hevents habandons =>
    simp [World.Unannounced, horders, hevents, habandons]
  | stored id₀ hnone hsome htouches hevents habandons =>
    rw [habandons, World.Unannounced, World.Unannounced, hevents]
    by_cases hid : id = id₀
    · subst hid
      simp [hsome, hw.any_announces hnone]
    · rw [htouches id hid]
      simp [Ne.symm hid]
  | placed id₀ event hnone hsome htouches hevents hannounces hkeeps habandons =>
    rw [World.Unannounced, World.Unannounced, hevents]
    by_cases hid : id = id₀
    · subst hid
      simp [hnone, habandons, (hannounces id).mpr rfl]
    · have hother : event.announces id = false := by
        rw [← Bool.not_eq_true, hannounces]
        exact Ne.symm hid
      simp [htouches id hid, habandons, hother]
  | cancelled id₀ event order hfind hopen hfind' htouches hevents hannounces hwithdrawn habandons =>
    rw [World.Unannounced, World.Unannounced, hevents]
    by_cases hid : id = id₀
    · subst hid
      simp [hfind, hfind', habandons, hannounces]
    · simp [htouches id hid, habandons, hannounces]

theorem Tells.orderly_iff (hw : Told w) (ho : Orderly w.events) (h : Tells w call w') :
    Orderly w'.events ↔ ∀ id, w.Unannounced id → ¬ Withdraws w call id := by
  cases h with
  | silent horders hevents habandons hwithdraws =>
    rw [hevents]
    exact iff_of_true ho fun id _ => hwithdraws id
  | stored id hnone hsome htouches hevents habandons hwithdraws =>
    rw [hevents]
    exact iff_of_true ho fun id _ => hwithdraws id
  | placed id event hnone hsome htouches hevents hannounces hkeeps habandons hwithdraws =>
    rw [hevents, orderly_concat]
    refine iff_of_true ⟨ho, fun id' h => ?_, fun id' h => ?_⟩ fun id _ => hwithdraws id
    · obtain rfl := (hannounces id').mp h
      exact hw.any_announces hnone
    · simp [hkeeps] at h
  | cancelled id event order hfind hopen hfind' htouches hevents hannounces hwithdrawn habandons
      hwithdraws =>
    -- A cancelled order is not cancelled again, so what is left is whether it was announced.
    have hfirst := hw.any_withdraws hfind hopen
    rw [hevents, orderly_concat]
    constructor
    · rintro ⟨-, -, h⟩ id' ⟨-, hunannounced⟩ hid
      obtain rfl := (hwithdraws id').mp hid
      obtain ⟨-, hannounced⟩ := h id ((hwithdrawn id).mpr rfl)
      simp [hannounced] at hunannounced
    · intro h
      refine ⟨ho, fun id' h => ?_, fun id' h' => ?_⟩
      · simp [hannounces] at h
      · obtain rfl := (hwithdrawn id').mp h'
        refine ⟨hfirst, ?_⟩
        by_contra hunannounced
        exact h id ⟨by rw [hfind]; rfl, by simpa using hunannounced⟩ ((hwithdraws id).mpr rfl)

end Step

/-- In a shop that starts without orders, the stream is well formed along exactly those runs in
which no order that a failed `create` has left behind is cancelled. -/
theorem eventStream_iff (inventory : Stock) {calls : List (OrderCall × Script Turn)}
    (hbroker : ∀ call ∈ calls, ∀ n, (call.2 n).broker = none) :
    (Runs.Always OrderCall.serve (fun w => Orderly w.events) (.opening inventory) calls ∧
        Runs.Along OrderCall.serve AnnouncesItsOwn (.opening inventory) calls) ↔
      Runs.Unfollowed OrderCall.serve Abandons Withdraws (.opening inventory) calls := by
  have htold : Told (.opening inventory) := by
    constructor <;> intro id h <;> simp [World.opening] at h
  have horderly : Orderly (World.opening inventory).events := by
    constructor <;> simp [World.opening]
  have hworks : Runs.Along OrderCall.serve (fun _ call => ∀ n, (call.2 n).broker = none)
      (.opening inventory) calls := Runs.along_of_forall hbroker
  have hown : Runs.Along OrderCall.serve AnnouncesItsOwn (.opening inventory) calls :=
    hworks.mono fun w call h => (tells w h).2
  have hmarked := Runs.along_iff_unfollowed (Q := Withdraws) (M := World.Unannounced)
    (fun w call id hw h => (tells w h).1.unannounced_iff hw id)
    (fun w call hw h => hw.tells (tells w h).1) htold hbroker
  have hnone : ∀ id, ¬ (World.opening inventory).Unannounced id := by
    rintro id ⟨⟨⟩, -⟩
  rw [and_iff_left hown, Runs.always_iff_along (fun w call ho hw h =>
    (tells w h).1.orderly_iff hw ho) (fun w call _ hw h _ => hw.tells (tells w h).1) horderly htold
    hworks, hmarked]
  exact and_iff_right fun id h => absurd h (hnone id)

section Example

private def cardStall : World := .opening (.single "a" ⟨10, 0, 5⟩)

private def oneByCard : CreateOrderData := ⟨"u", [⟨"a", 1⟩], ⟨"", "", "", "", ""⟩, some "card"⟩

private def refusedCard : Script Turn := fun _ => .smooth (.answered ⟨"pi", "requires_action"⟩) "o"

private def takenCard : Script Turn := fun _ => .smooth (.answered ⟨"pi", "succeeded"⟩) "p"

/-- One order is left behind, and another one is placed and cancelled. -/
private def leftBehind : List (OrderCall × Script Turn) :=
  [(.create oneByCard, refusedCard), (.create oneByCard, takenCard), (.cancel "p" "u", takenCard)]

private theorem unfollowed_leftBehind :
    Runs.Unfollowed OrderCall.serve Abandons Withdraws cardStall leftBehind := by
  refine ⟨?_, ?_, ?_, trivial⟩
  · rintro id ⟨-, -, -, -, rfl⟩
    exact ⟨fun h => h, fun h => absurd h.2 (by decide), trivial⟩
  · rintro id ⟨-, -, -, hfails, -⟩
    exact absurd (fun _ => ⟨rfl, rfl, rfl⟩) hfails
  · exact fun id h => h.elim

theorem eventStream_iff_stall :
    (Runs.Always OrderCall.serve (fun w => Orderly w.events) cardStall leftBehind ∧
        Runs.Along OrderCall.serve AnnouncesItsOwn cardStall leftBehind) ∧
      ((Runs.Always OrderCall.serve (fun w => Orderly w.events) cardStall
          [(.create oneByCard, refusedCard), (.cancel "o" "u", refusedCard)] ∧
        Runs.Along OrderCall.serve AnnouncesItsOwn cardStall
          [(.create oneByCard, refusedCard), (.cancel "o" "u", refusedCard)]) ↔
        Runs.Unfollowed OrderCall.serve Abandons Withdraws cardStall
          [(.create oneByCard, refusedCard), (.cancel "o" "u", refusedCard)]) := by
  constructor
  · refine (eventStream_iff _ ?_).mpr unfollowed_leftBehind
    simp [leftBehind, refusedCard, takenCard, Turn.smooth]
  · exact eventStream_iff _ (by simp [refusedCard, Turn.smooth])

/-- The card is refused, the order stays behind, and its owner cancels it. -/
theorem not_eventStream_stall :
    ¬ Runs.Always OrderCall.serve (fun w => Orderly w.events) cardStall
      [(.create oneByCard, refusedCard), (.cancel "o" "u", refusedCard)] := by
  rintro ⟨-, h, -⟩
  have hpaired := h.paired "o" [] (.cancelled "o" "u" [⟨"a", 1⟩]) [] (by decide) (by decide)
  simp at hpaired

end Example

end Ecommerce
