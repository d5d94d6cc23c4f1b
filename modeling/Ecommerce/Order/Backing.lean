import Ecommerce.Order.Effect

namespace Ecommerce

def RpcTurn.Carries (t : RpcTurn) (s : Stock) (items : List Item) : Prop :=
  ∃ db, t.ran = some db ∧ InventoryService.served db s items = items

def Applied (queue : InventoryQueue) (items : List Item) (w w' : World) : Prop :=
  w.handled.count (queue, items) < w'.handled.count (queue, items)

/-- A paid order resolves as `CONFIRMED`, and no order is `CONFIRMED` without its confirmation;
a rejected call confirms nothing. -/
def CreateBacked (data : CreateOrderData) (w : World) : Except Error Order × World → Prop
  | (.ok order, w') => ∀ stored, w'.orders.find? order.id = some stored →
      (data.pays.isSome → stored.status = .confirmed) ∧
      (stored.status = .confirmed → Applied .confirm data.items w w')
  | (.error _, w') => ∀ id stored, w'.orders.find? id = some stored → stored.status = .confirmed →
      w.orders.find? id = some stored

/-- A cancelled order has been released; a rejected call cancels nothing. -/
def CancelBacked (id : OrderId) (w : World) : Except Error Order × World → Prop
  | (.ok _, w') => ∀ order, w.orders.find? id = some order → Applied .release order.lines w w'
  | (.error _, w') => w'.orders = w.orders

theorem carries_congr {t : RpcTurn} {s s' : Stock} (h : ∀ p, (s p).isSome = (s' p).isSome)
    (items : List Item) : t.Carries s items ↔ t.Carries s' items := by
  simp only [RpcTurn.Carries, InventoryService.served_congr h]

/-- The confirmation that a paid order ends with is carried out. -/
def ConfirmCarried (env : Script Turn) (data : CreateOrderData) (w : World) : Prop :=
  (w.reply (env 0).rpc .reserve data.items).success →
    (env 1).db = .accept → w.orders.find? (env 1).newId = none →
    data.pays.isSome → (env 2).stripe.captures → (env 3).db = .accept → (env 4).db = .accept →
    (env 5).rpc.Carries w.inventory data.items

/-- The release that precedes the status update of a cancellation is carried out. -/
def ReleaseCarried (env : Script Turn) (id : OrderId) (userId : UserId) (w : World) : Prop :=
  (env 0).db = .accept → ∀ order, w.orders.find? id = some order → order.userId = userId →
    order.status ∈ [.pending, .confirmed] → (env 2).db = .accept →
    (env 1).rpc.Carries w.inventory order.lines

section Handled

variable {w : World} {t : RpcTurn} {queue : InventoryQueue} {items : List Item}

theorem World.handled_request_of_carries (hqueue : queue ≠ .reserve)
    (h : t.Carries w.inventory items) :
    (w.request t.ran queue items).handled = w.handled ++ [(queue, items)] := by
  obtain ⟨db, hran, hserved⟩ := h
  have hsuccess := (InventoryMessaging.exec_success_iff hqueue db items w.inventory).mpr hserved
  rw [hran]
  exact if_pos hsuccess

theorem World.handled_request_of_not (hqueue : queue ≠ .reserve)
    (h : ¬t.Carries w.inventory items) : (w.request t.ran queue items).handled = w.handled := by
  cases hran : t.ran with
  | none => rfl
  | some db =>
    have hfailed : ¬(InventoryMessaging.exec db queue items w.inventory).1.success :=
      fun hsuccess => h ⟨db, hran,
        (InventoryMessaging.exec_success_iff hqueue db items w.inventory).mp hsuccess⟩
    exact if_neg hfailed

variable (w t items) in
theorem applied_request_iff (hqueue : queue ≠ .reserve) :
    Applied queue items w (w.request t.ran queue items) ↔ t.Carries w.inventory items := by
  by_cases h : t.Carries w.inventory items
  · refine iff_of_true ?_ h
    rw [Applied, World.handled_request_of_carries hqueue h]
    simp
  · refine iff_of_false ?_ h
    rw [Applied, World.handled_request_of_not hqueue h]
    simp

theorem World.count_handled_reserve (ran : Option (Script DbTurn)) :
    (w.request ran .reserve items).handled.count (.confirm, items) =
      w.handled.count (.confirm, items) := by
  cases ran with
  | none => rfl
  | some db =>
    simp only [World.request, World.serve]
    split <;> simp

end Handled

theorem Settles.applied_confirm_iff {w w' : World} {env env' : Script Turn}
    {data : CreateOrderData} {id : OrderId} {total : Int} {orders : OrderTable}
    {ran : Option (Script DbTurn)} (hpays : data.pays.isSome)
    (h : Settles env data id total ((w.request ran .reserve data.items).store orders) (.ok ())
      env' w') :
    Applied .confirm data.items w w' ↔ (env 3).rpc.Carries w.inventory data.items := by
  cases h with
  | unpaid hnone => simp [hnone] at hpays
  | confirmed _ reply =>
    have happlied := applied_request_iff
      (((((w.request ran .reserve data.items).store orders).capture
        ⟨reply.id, id, total * 100⟩).modify id (.paymentStatus .completed)).modify id
          (.status .confirmed))
      (env 3).rpc data.items (show InventoryQueue.confirm ≠ .reserve by decide)
    rw [Applied, World.modify_handled, World.modify_handled, World.capture_handled,
      World.store_handled, World.count_handled_reserve] at happlied
    apply Iff.trans happlied
    exact carries_congr (World.isSome_request w ran .reserve data.items) data.items

section Create

variable {env env' : Script Turn} {data : CreateOrderData} {w w' : World} {orders : OrderTable}
  (hinsert : w.orders.insert (data.newOrder.row (env 1).newId (env 1).now) = some orders)
include hinsert

theorem Settles.createBacked_of_error {e : Error}
    (hsettle : Settles env.tail.tail data (env 1).newId 1100
      ((w.request (env 0).rpc.ran .reserve data.items).store orders) (.error e) env' w') :
    CreateBacked data w (.error e, w'.request (env' 0).rpc.ran .release data.items) := by
  intro id stored hstored hconfirmed
  rw [World.request_orders] at hstored
  by_cases hid : id = (env 1).newId
  · obtain ⟨order, hfind, hpending⟩ :=
      hsettle.pending_of_error ((Table.find?_insert hinsert (env 1).newId).trans (if_pos rfl)) rfl
    obtain rfl := Option.some.inj (hfind.symm.trans (hid ▸ hstored))
    simp [hpending] at hconfirmed
  · rw [hsettle.find?_of_ne hid, World.store_orders, Table.find?_insert hinsert] at hstored
    exact (if_neg hid).symm.trans hstored

theorem Settles.createBacked_of_unpaid {event : OrderEvent} (hpays : data.pays = none)
    (hsettle : Settles env.tail.tail data (env 1).newId 1100
      ((w.request (env 0).rpc.ran .reserve data.items).store orders) (.ok ()) env' w') :
    CreateBacked data w
      (.ok (data.newOrder.row (env 1).newId (env 1).now), w'.emit (env' 0).broker event) := by
  intro stored hstored
  cases hsettle with
  | confirmed hsome => simp [hsome] at hpays
  | unpaid =>
    rw [World.emit_orders] at hstored
    have hnew := (Table.find?_insert hinsert (env 1).newId).trans (if_pos rfl)
    obtain rfl := Option.some.inj (hnew.symm.trans hstored)
    exact ⟨fun hsome => by simp [hpays] at hsome, fun hconfirmed => by cases hconfirmed⟩

theorem Settles.createBacked_iff_of_paid {event : OrderEvent} (hpays : data.pays.isSome)
    (hsettle : Settles env.tail.tail data (env 1).newId 1100
      ((w.request (env 0).rpc.ran .reserve data.items).store orders) (.ok ()) env' w') :
    CreateBacked data w
        (.ok (data.newOrder.row (env 1).newId (env 1).now), w'.emit (env' 0).broker event) ↔
      (env 5).rpc.Carries w.inventory data.items := by
  have happlied : Applied .confirm data.items w (w'.emit (env' 0).broker event) ↔
      (env 5).rpc.Carries w.inventory data.items := by
    rw [Applied, World.emit_handled]
    exact hsettle.applied_confirm_iff hpays
  have hstored := hsettle.confirmed_of_ok hpays
    ((Table.find?_insert hinsert (env 1).newId).trans (if_pos rfl))
  constructor
  · intro h
    exact happlied.mp ((h _ (by rw [World.emit_orders]; exact hstored)).2 rfl)
  · intro h stored hstored'
    rw [World.emit_orders] at hstored'
    obtain rfl := Option.some.inj (hstored.symm.trans hstored')
    exact ⟨fun _ => rfl, fun _ => happlied.mpr h⟩

end Create

theorem createBacked_iff (env : Script Turn) (data : CreateOrderData) (w : World) :
    CreateBacked data w (Prog.play World.handle env (OrderService.create data) w) ↔
      ConfirmCarried env data w := by
  have hcreates := creates env w data
  generalize Prog.play World.handle env (OrderService.create data) w = result at hcreates
  cases hcreates with
  | refused hreply =>
    refine iff_of_true (fun id stored hstored _ => ?_) fun h => by simp [hreply] at h
    rwa [World.request_orders] at hstored
  | notInserted hreply hinsert =>
    refine iff_of_true (fun id stored hstored _ => ?_) fun _ hdb hnone => ?_
    · rwa [World.request_orders, World.request_orders] at hstored
    · rcases hinsert with ⟨m, hm⟩ | htaken
      · simp [hdb] at hm
      · exact absurd hnone htaken
  | failed hreply hdb hinsert hsettle =>
    apply iff_of_true (hsettle.createBacked_of_error hinsert)
    intro _ _ _ hpays hcaptures h3 h4
    cases hsettle with
    | declined _ hstripe => simp [hcaptures] at hstripe
    | unrecorded _ _ _ hreject => simp [h3] at hreject
    | unconfirmed _ _ _ _ hreject => simp [h4] at hreject
  | placed hreply hdb hinsert hsettle =>
    have hnone := Table.find?_of_insert hinsert
    cases hpays : data.pays with
    | none =>
      apply iff_of_true (hsettle.createBacked_of_unpaid hinsert hpays)
      intro _ _ _ hsome
      simp [hpays] at hsome
    | some m =>
      have hsome : data.pays.isSome := by rw [hpays]; rfl
      rw [hsettle.createBacked_iff_of_paid hinsert hsome]
      constructor
      · exact fun hcarries _ _ _ _ _ _ _ => hcarries
      · intro h
        cases hsettle with
        | unpaid hunpaid => simp [hunpaid] at hpays
        | confirmed _ _ hstripe h3 h4 => exact h hreply hdb hnone hsome hstripe h3 h4

theorem cancelBacked_iff (env : Script Turn) (id : OrderId) (userId : UserId) (w : World) :
    CancelBacked id w (Prog.play World.handle env (OrderService.cancel id userId) w) ↔
      ReleaseCarried env id userId w := by
  have hcancels := cancels env w id userId
  generalize Prog.play World.handle env (OrderService.cancel id userId) w = result at hcancels
  cases hcancels with
  | unread hdb => exact iff_of_true rfl fun h => by simp [hdb] at h
  | missing hdb hfind =>
    exact iff_of_true rfl fun _ order horder huser => absurd huser (hfind order horder)
  | settled hdb hfind huser hstatus =>
    apply iff_of_true rfl
    intro _ order hfind' _ hopen
    obtain rfl := Option.some.inj (hfind.symm.trans hfind')
    exact absurd hopen hstatus
  | unwritten hdb hfind huser hstatus hdb' =>
    exact iff_of_true (World.request_orders ..) fun _ _ _ _ _ haccept => by simp [hdb'] at haccept
  | @cancelled order hdb hfind huser hstatus hdb' =>
    have happlied : Applied .release order.lines w
        (((w.request (env 1).rpc.ran .release order.lines).modify id (.status .cancelled)).emit
          (env 3).broker (.cancelled id userId order.lines)) ↔
        (env 1).rpc.Carries w.inventory order.lines := by
      rw [Applied, World.emit_handled, World.modify_handled]
      exact applied_request_iff w _ _ (by decide)
    constructor
    · intro h _ order' hfind' _ _ _
      obtain rfl := Option.some.inj (hfind.symm.trans hfind')
      exact happlied.mp (h order hfind)
    · intro h order' hfind'
      obtain rfl := Option.some.inj (hfind.symm.trans hfind')
      exact happlied.mpr (h hdb order hfind huser hstatus hdb')

/-- A stored status has its inventory effect behind it exactly when the confirmation, or the
release, that the call sends last is carried out: neither reply is looked at. -/
theorem backed_iff (env : Script Turn) (w : World) :
    (∀ data, CreateBacked data w (Prog.play World.handle env (OrderService.create data) w) ↔
      ConfirmCarried env data w) ∧
    (∀ id userId, CancelBacked id w (Prog.play World.handle env (OrderService.cancel id userId) w) ↔
      ReleaseCarried env id userId w) :=
  ⟨fun data => createBacked_iff env data w, fun id userId => cancelBacked_iff env id userId w⟩

section Example

private def kiosk : World := .opening (.single "a" ⟨10, 0, 5⟩)

private def oneUnit : CreateOrderData := ⟨"u", [⟨"a", 1⟩], ⟨"", "", "", "", ""⟩, some "card"⟩

private def charged : Script Turn := fun _ => .smooth (.answered ⟨"pi", "succeeded"⟩) "o"

/-- The inventory service is down from the sixth operation on. -/
private def unconfirmed : Script Turn := fun n =>
  if n < 5 then charged n else { charged n with rpc := .failed none "RPC timeout" }

private def unreleased : Script Turn := fun n =>
  { charged n with rpc := .failed none "RPC timeout" }

private def soldWorld : World := OrderCall.serve kiosk (.create oneUnit, charged)

/-- An order is confirmed without its confirmation, and one is cancelled without its release. -/
theorem not_backed_kiosk :
    ¬ CreateBacked oneUnit kiosk
      (Prog.play World.handle unconfirmed (OrderService.create oneUnit) kiosk) ∧
    ¬ CancelBacked "o" soldWorld
      (Prog.play World.handle unreleased (OrderService.cancel "o" "u") soldWorld) := by
  constructor
  · intro h
    obtain ⟨db, hran, -⟩ := (createBacked_iff ..).mp h (by decide) (by decide) (by decide)
      (by decide) (by decide) (by decide) (by decide)
    cases hran
  · intro h
    obtain ⟨db, hran, -⟩ := (cancelBacked_iff ..).mp h rfl _ rfl rfl (by decide) rfl
    cases hran

end Example

end Ecommerce
