import Ecommerce.Order.Requests

namespace Ecommerce

open Prog EventLoop

abbrev OrderLog := List (Nat × OrderDoing)

abbrev OrderLoop :=
  EventLoop ServiceRequest OrderOp OrderOp.Res Error (ApiResponse OrderData) World

namespace OrderLog

def placements (log : OrderLog) : List (Nat × Order) :=
  log.filterMap fun entry => (OrderDoing.placed entry.2).map fun order => (entry.1, order)

def orders (log : OrderLog) : List Order := log.placements.map Prod.snd

def charges (log : OrderLog) : List Charge := log.filterMap fun entry => OrderDoing.charging entry.2

end OrderLog

open OrderDoing

def Order.Same (order stored : Order) : Prop :=
  stored = { order with status := stored.status, paymentStatus := stored.paymentStatus }

/-- The stored order is the one that was written, and its statuses have moved as its owner asked:
its owner cancels it, and the request that places it records its payment and confirms it. -/
structure Follows (requests : List ServiceRequest) (placed : List Order) (order stored : Order) :
    Prop where
  same : order.Same stored
  status : stored.status = order.status ∨
    stored.status = .cancelled ∧ .cancel order.id order.userId ∈ requests ∨
    stored.status = .confirmed ∧ stored.paymentStatus = .completed ∧ order ∈ placed
  paymentStatus : stored.paymentStatus = order.paymentStatus ∨
    stored.paymentStatus = .completed ∧ order ∈ placed

structure Books (w : World) (requests : List ServiceRequest) (w' : World) (log : OrderLog) :
    Prop where
  rows : List.Forall₂ (Follows requests log.orders) (w.orders.rows ++ log.orders) w'.orders.rows
  asked : ∀ p ∈ log.placements, ∃ request data, requests[p.1]? = some request ∧
    request.asked = some data ∧ ∃ id now, p.2 = data.newOrder.row id now
  single : (log.placements.map Prod.fst).Nodup
  shown : ∀ entry ∈ log, ∀ order ∈ seen entry.2, ∃ stored ∈ w'.orders.rows, order.Same stored
  charges : w'.charges = w.charges ++ log.charges
  once : (log.charges.map Charge.orderId).Nodup
  captured : ∀ entry ∈ log, ∀ c, charging entry.2 = some c →
    ∃ order, (entry.1, order) ∈ log.placements ∧ c.orderId = order.id ∧ c.amount = order.total * 100
  recorded : ∀ id, Recorded id (log.map Prod.snd) → ∀ stored ∈ w'.orders.rows, stored.id = id →
    stored.paymentStatus = .completed
  paid : ∀ order ∈ log.orders, ∀ stored ∈ w'.orders.rows, stored.id = order.id →
    stored.paymentStatus = .completed → ∃ c ∈ log.charges, c.orderId = order.id

section Same

variable {order stored : Order}

theorem Order.Same.refl (order : Order) : order.Same order := rfl

theorem Order.Same.id (h : order.Same stored) : stored.id = order.id := by rw [h]

theorem Order.Same.userId (h : order.Same stored) : stored.userId = order.userId := by rw [h]

theorem Order.Same.apply (h : order.Same stored) (data : OrderUpdate) :
    order.Same (data.apply stored) := by
  rw [Order.Same] at h
  cases data <;> rw [Order.Same, OrderUpdate.apply, h]

end Same

section Log

variable {log : OrderLog} {i : Nat} {d : OrderDoing}

theorem placements_quiet (hd : placed d = none) :
    OrderLog.placements (log ++ [(i, d)]) = log.placements := by
  simp [OrderLog.placements, List.filterMap_append, hd]

theorem placements_placed {order : Order} (hd : placed d = some order) :
    OrderLog.placements (log ++ [(i, d)]) = log.placements ++ [(i, order)] := by
  simp [OrderLog.placements, List.filterMap_append, hd]

theorem orders_quiet (hd : placed d = none) : OrderLog.orders (log ++ [(i, d)]) = log.orders := by
  rw [OrderLog.orders, placements_quiet hd, OrderLog.orders]

theorem orders_placed {order : Order} (hd : placed d = some order) :
    OrderLog.orders (log ++ [(i, d)]) = log.orders ++ [order] := by
  rw [OrderLog.orders, placements_placed hd, List.map_append, OrderLog.orders]
  rfl

theorem charges_quiet (hd : charging d = none) :
    OrderLog.charges (log ++ [(i, d)]) = log.charges := by
  simp [OrderLog.charges, List.filterMap_append, hd]

theorem charges_charged {c : Charge} (hd : charging d = some c) :
    OrderLog.charges (log ++ [(i, d)]) = log.charges ++ [c] := by
  simp [OrderLog.charges, List.filterMap_append, hd]

theorem mem_placements {order : Order} :
    (i, order) ∈ log.placements ↔ order ∈ (turnsOf log i).filterMap placed := by
  simp only [OrderLog.placements, List.mem_filterMap, mem_turnsOf]
  constructor
  · rintro ⟨⟨j, d⟩, hd, horder⟩
    obtain ⟨order', horder', heq⟩ := Option.map_eq_some_iff.mp horder
    obtain ⟨rfl, rfl⟩ := Prod.mk.inj heq
    exact ⟨d, hd, horder'⟩
  · rintro ⟨d, hd, horder⟩
    exact ⟨(i, d), hd, by rw [horder]; rfl⟩

theorem mem_orders_of_turnsOf {order : Order} (h : order ∈ (turnsOf log i).filterMap placed) :
    order ∈ log.orders :=
  List.mem_map.mpr ⟨_, mem_placements.mpr h, rfl⟩

theorem mem_charges_of_turnsOf {c : Charge} (h : c ∈ (turnsOf log i).filterMap charging) :
    c ∈ log.charges := by
  obtain ⟨d, hd, hc⟩ := List.mem_filterMap.mp h
  exact List.mem_filterMap.mpr ⟨(i, d), mem_turnsOf.mp hd, hc⟩

theorem Recorded.of_turnsOf {id : OrderId} (h : Recorded id (turnsOf log i)) :
    Recorded id (log.map Prod.snd) :=
  h.imp fun _ hrow => ⟨hrow.1, List.mem_map.mpr ⟨_, mem_turnsOf.mp hrow.2, rfl⟩⟩

theorem recorded_snoc {id : OrderId} (h : Recorded id ((log ++ [(i, d)]).map Prod.snd)) :
    Recorded id (log.map Prod.snd) ∨
      ∃ row : Order, d = ⟨.update id (.paymentStatus .completed), .ok row⟩ := by
  obtain ⟨row, hid, hrow⟩ := h
  rw [List.map_append, List.mem_append] at hrow
  exact hrow.imp (fun h => ⟨row, hid, h⟩) fun h => ⟨row, (List.mem_singleton.mp h).symm⟩

end Log

section Follows

variable {requests requests' : List ServiceRequest} {placed placed' : List Order}
  {order stored : Order}

theorem Follows.refl (order : Order) : Follows requests placed order order :=
  ⟨.refl order, .inl rfl, .inl rfl⟩

theorem Follows.mono (h : Follows requests placed order stored)
    (hrequests : ∀ request ∈ requests, request ∈ requests') (hplaced : ∀ o ∈ placed, o ∈ placed') :
    Follows requests' placed' order stored where
  same := h.same
  status := h.status.imp_right fun h => h.imp (fun h => ⟨h.1, hrequests _ h.2⟩)
    fun h => ⟨h.1, h.2.1, hplaced _ h.2.2⟩
  paymentStatus := h.paymentStatus.imp_right fun h => ⟨h.1, hplaced _ h.2⟩

theorem Follows.cancel (h : Follows requests placed order stored)
    (hasked : .cancel order.id order.userId ∈ requests) :
    Follows requests placed order (OrderUpdate.apply (.status .cancelled) stored) where
  same := h.same.apply _
  status := .inr (.inl ⟨rfl, hasked⟩)
  paymentStatus := h.paymentStatus

theorem Follows.confirm (h : Follows requests placed order stored)
    (hpaid : stored.paymentStatus = .completed) (hplaced : order ∈ placed) :
    Follows requests placed order (OrderUpdate.apply (.status .confirmed) stored) where
  same := h.same.apply _
  status := .inr (.inr ⟨rfl, hpaid, hplaced⟩)
  paymentStatus := h.paymentStatus

theorem Follows.record (h : Follows requests placed order stored) (hplaced : order ∈ placed) :
    Follows requests placed order (OrderUpdate.apply (.paymentStatus .completed) stored) where
  same := h.same.apply _
  status := h.status.imp_right fun h => h.imp_right fun h => ⟨h.1, rfl, h.2.2⟩
  paymentStatus := .inr ⟨rfl, hplaced⟩

end Follows

section Books

variable {w w' w'' : World} {requests : List ServiceRequest} {log : OrderLog} {i : Nat}
  {d : OrderDoing}

theorem Books.ids (h : Books w requests w' log) :
    (w.orders.rows ++ log.orders).map Order.id = w'.orders.rows.map Order.id := by
  refine List.forall₂_eq_eq_eq ▸ ?_
  rw [List.forall₂_map_left_iff, List.forall₂_map_right_iff]
  exact h.rows.imp fun order stored h => h.same.id.symm

theorem Books.inj (h : Books w requests w' log) {a b : Order}
    (ha : a ∈ w.orders.rows ++ log.orders) (hb : b ∈ w.orders.rows ++ log.orders)
    (hid : a.id = b.id) : a = b := by
  have hnodup : ((w.orders.rows ++ log.orders).map Order.id).Nodup := h.ids ▸ w'.orders.nodup
  exact List.inj_on_of_nodup_map hnodup ha hb hid

theorem Books.start (h : Books w requests w' log) (request : ServiceRequest) :
    Books w (requests ++ [request]) w' log :=
  { h with
    rows := h.rows.imp fun _ _ h => h.mono (fun _ => List.mem_append_left _) fun _ => id
    asked := fun p hp => by
      obtain ⟨request', data, hlabel, hrest⟩ := h.asked p hp
      have hlt := (List.getElem?_eq_some_iff.mp hlabel).1
      exact ⟨request', data, by rw [List.getElem?_append_left hlt, hlabel], hrest⟩ }

theorem books_idle (w : World) : Books w [] w [] where
  rows := by
    rw [OrderLog.orders, OrderLog.placements, List.filterMap_nil, List.map_nil, List.append_nil]
    exact List.forall₂_same.mpr fun order _ => .refl order
  asked := by simp [OrderLog.placements]
  single := by simp [OrderLog.placements]
  shown := by simp
  charges := by simp [OrderLog.charges]
  once := by simp [OrderLog.charges]
  captured := by simp
  recorded := by simp [Recorded]
  paid := by simp [OrderLog.orders, OrderLog.placements]

theorem Books.exists_recorded (h : Books w requests w' log) {id : OrderId}
    (hid : Recorded id (log.map Prod.snd)) : ∃ stored ∈ w'.orders.rows, stored.id = id := by
  obtain ⟨row, rfl, hrow⟩ := hid
  obtain ⟨entry, hentry, hd⟩ := List.mem_map.mp hrow
  obtain ⟨stored, hstored, hsame⟩ :=
    h.shown entry hentry row (by rw [hd]; exact List.mem_singleton_self row)
  exact ⟨stored, hstored, hsame.id⟩

theorem forall_snoc {P : Nat × OrderDoing → Prop} (h : ∀ entry ∈ log, P entry) (hd : P (i, d)) :
    ∀ entry ∈ log ++ [(i, d)], P entry := by
  intro entry hentry
  rcases List.mem_append.mp hentry with hentry | hentry
  · exact h entry hentry
  · exact List.mem_singleton.mp hentry ▸ hd

theorem Books.quiet (h : Books w requests w' log) (horders : w''.orders = w'.orders)
    (hcharges : w''.charges = w'.charges) (hplaced : placed d = none) (hcharged : charging d = none)
    (hseen : ∀ order ∈ seen d, ∃ stored ∈ w'.orders.rows, order.Same stored)
    (hrecorded : ∀ id (row : Order), d ≠ ⟨.update id (.paymentStatus .completed), .ok row⟩) :
    Books w requests w'' (log ++ [(i, d)]) where
  rows := by
    rw [orders_quiet hplaced, horders]
    exact h.rows
  asked := by
    rw [placements_quiet hplaced]
    exact h.asked
  single := by
    rw [placements_quiet hplaced]
    exact h.single
  shown := by
    rw [horders]
    exact forall_snoc h.shown hseen
  charges := by rw [charges_quiet hcharged, hcharges, h.charges]
  once := by
    rw [charges_quiet hcharged]
    exact h.once
  captured := by
    rw [placements_quiet hplaced]
    exact forall_snoc h.captured fun c hc => by simp [hcharged] at hc
  recorded id hid := by
    rw [horders]
    obtain hid | ⟨row, hrow⟩ := recorded_snoc hid
    · exact h.recorded id hid
    · exact absurd hrow (hrecorded id row)
  paid := by
    rw [orders_quiet hplaced, charges_quiet hcharged, horders]
    exact h.paid

theorem Books.silent (h : Books w requests w' log) (horders : w''.orders = w'.orders)
    (hcharges : w''.charges = w'.charges) (hplaced : placed d = none) (hcharged : charging d = none)
    (hseen : seen d = []) : Books w requests w'' (log ++ [(i, d)]) := by
  refine h.quiet horders hcharges hplaced hcharged (fun order horder => ?_) fun id row hd => ?_
  · rw [hseen] at horder
    cases horder
  · rw [hd] at hseen
    cases hseen

theorem Books.place (h : Books w requests w' log) {request : ServiceRequest}
    {data : CreateOrderData} {order : Order} {orders : OrderTable}
    (hrequest : requests[i]? = some request) (hasked : request.asked = some data)
    (horder : ∃ id now, order = data.newOrder.row id now)
    (hinsert : w'.orders.insert order = some orders)
    (hunplaced : (turnsOf log i).filterMap placed = []) (new : NewOrder) :
    Books w requests (w'.store orders) (log ++ [(i, ⟨.create new, .ok order⟩)]) := by
  have hrows : orders.rows = w'.orders.rows ++ [order] := Table.rows_insert hinsert
  have hfresh : ∀ stored ∈ w'.orders.rows, stored.id ≠ order.id := fun stored hstored hid =>
    Table.find?_eq_none.mp (Table.find?_of_insert hinsert) (hid ▸ List.mem_map_of_mem hstored)
  have hplaced : placed ⟨.create new, .ok order⟩ = some order := rfl
  have hpending : order.paymentStatus = .pending := by
    obtain ⟨id, now, rfl⟩ := horder
    rfl
  constructor
  case rows =>
    rw [World.store_orders, hrows, orders_placed hplaced, ← List.append_assoc]
    refine List.rel_append (h.rows.imp fun _ _ h => h.mono (fun _ => id) ?_) (.cons (.refl _) .nil)
    exact fun _ => List.mem_append_left _
  case asked =>
    rw [placements_placed hplaced]
    intro p hp
    rcases List.mem_append.mp hp with hp | hp
    · exact h.asked p hp
    · obtain rfl := List.mem_singleton.mp hp
      exact ⟨request, data, hrequest, hasked, horder⟩
  case single =>
    rw [placements_placed hplaced, List.map_append]
    refine List.nodup_append.mpr ⟨h.single, List.nodup_singleton _, ?_⟩
    rintro j hj k hk rfl
    obtain ⟨⟨j, placed⟩, hp, rfl⟩ := List.mem_map.mp hj
    obtain rfl : j = i := List.mem_singleton.mp hk
    rw [mem_placements, hunplaced] at hp
    cases hp
  case shown =>
    rw [World.store_orders, hrows]
    refine forall_snoc (fun entry hentry row hrow => ?_) fun row hrow => ?_
    · obtain ⟨stored, hstored, hsame⟩ := h.shown entry hentry row hrow
      exact ⟨stored, List.mem_append_left _ hstored, hsame⟩
    · obtain rfl := List.mem_singleton.mp hrow
      exact ⟨row, List.mem_append_right _ (List.mem_singleton_self row), .refl row⟩
  case charges =>
    rw [charges_quiet rfl]
    exact h.charges
  case once =>
    rw [charges_quiet rfl]
    exact h.once
  case captured =>
    rw [placements_placed hplaced]
    refine forall_snoc (fun entry hentry c hc => ?_) fun c hc => by cases hc
    obtain ⟨o, ho, hrest⟩ := h.captured entry hentry c hc
    exact ⟨o, List.mem_append_left _ ho, hrest⟩
  case recorded =>
    intro id hid stored hstored hstoredId
    rw [World.store_orders, hrows] at hstored
    obtain hold | ⟨row, hrow⟩ := recorded_snoc hid
    · rcases List.mem_append.mp hstored with hstored | hstored
      · exact h.recorded id hold stored hstored hstoredId
      · obtain rfl := List.mem_singleton.mp hstored
        obtain ⟨old, hold, holdId⟩ := h.exists_recorded hold
        exact absurd (holdId.trans hstoredId.symm) (hfresh old hold)
    · cases hrow
  case paid =>
    rw [charges_quiet rfl, orders_placed hplaced, World.store_orders, hrows]
    intro placed hplaced stored hstored hid hcompleted
    rcases List.mem_append.mp hstored with hold | hstored
    · rcases List.mem_append.mp hplaced with hplaced | hplaced
      · exact h.paid placed hplaced stored hold hid hcompleted
      · obtain rfl := List.mem_singleton.mp hplaced
        exact absurd hid (hfresh stored hold)
    · obtain rfl := List.mem_singleton.mp hstored
      rw [hpending] at hcompleted
      cases hcompleted

theorem Books.placement_inj (h : Books w requests w' log) {a b : Nat × Order}
    (ha : a ∈ log.placements) (hb : b ∈ log.placements) (hid : a.2.id = b.2.id) : a = b := by
  have hnodup : (log.placements.map fun p => p.2.id).Nodup := by
    have hall : ((w.orders.rows ++ log.orders).map Order.id).Nodup := h.ids ▸ w'.orders.nodup
    rw [List.map_append] at hall
    have hplaced := (List.nodup_append.mp hall).2.1
    rwa [OrderLog.orders, List.map_map] at hplaced
  exact List.inj_on_of_nodup_map hnodup ha hb hid

theorem Books.charge (h : Books w requests w' log) {params : PaymentIntentParams}
    {reply : StripeObject} {c : Charge}
    (huncharged : (turnsOf log i).filterMap charging = []) {order : Order}
    (horder : order ∈ (turnsOf log i).filterMap placed) (hid : c.orderId = order.id)
    (hamount : c.amount = order.total * 100)
    (hd : charging ⟨.paymentIntent params, .ok reply⟩ = some c) :
    Books w requests (w'.capture c) (log ++ [(i, ⟨.paymentIntent params, .ok reply⟩)]) where
  rows := by
    rw [orders_quiet rfl]
    exact h.rows
  asked := by
    rw [placements_quiet rfl]
    exact h.asked
  single := by
    rw [placements_quiet rfl]
    exact h.single
  shown := forall_snoc h.shown fun _ hrow => absurd hrow List.not_mem_nil
  charges := by rw [charges_charged hd, World.capture_charges, h.charges, List.append_assoc]
  once := by
    rw [charges_charged hd, List.map_append]
    refine List.nodup_append.mpr ⟨h.once, List.nodup_singleton _, ?_⟩
    rintro id hmem id' hid' rfl
    obtain ⟨c', hc', rfl⟩ := List.mem_map.mp hmem
    have hsame : c'.orderId = c.orderId := List.mem_singleton.mp hid'
    -- whoever made the other charge has placed this order, so it was this request
    obtain ⟨⟨j, d⟩, hentry, hcharged⟩ := List.mem_filterMap.mp hc'
    obtain ⟨order', horder', hid', -⟩ := h.captured (j, d) hentry c' hcharged
    have heq : (j, order') = (i, order) :=
      h.placement_inj horder' (mem_placements.mpr horder) (hid'.symm.trans (hsame.trans hid))
    obtain ⟨rfl, rfl⟩ := Prod.mk.inj heq
    have hmine : c' ∈ (turnsOf log j).filterMap OrderDoing.charging :=
      List.mem_filterMap.mpr ⟨d, mem_turnsOf.mpr hentry, hcharged⟩
    rw [huncharged] at hmine
    cases hmine
  captured := by
    rw [placements_quiet rfl]
    refine forall_snoc h.captured fun c' hc' => ?_
    obtain rfl := Option.some.inj (hd.symm.trans hc')
    exact ⟨order, mem_placements.mpr horder, hid, hamount⟩
  recorded id hid := by
    obtain hid | ⟨row, hrow⟩ := recorded_snoc hid
    · exact h.recorded id hid
    · cases hrow
  paid := by
    rw [orders_quiet rfl, charges_charged hd]
    intro order horder stored hstored hid hcompleted
    obtain ⟨c', hc', hid'⟩ := h.paid order horder stored hstored hid hcompleted
    exact ⟨c', List.mem_append_left _ hc', hid'⟩

theorem mem_modify {id : OrderId} {data : OrderUpdate} {moved : Order}
    (h : moved ∈ (w'.modify id data).orders.rows) : ∃ stored ∈ w'.orders.rows,
      moved = if stored.id = id then data.apply stored else stored := by
  obtain ⟨stored, hstored, rfl⟩ := List.mem_map.mp h
  exact ⟨stored, hstored, rfl⟩

theorem Books.update (h : Books w requests w' log) {id : OrderId} {data : OrderUpdate} {old : Order}
    (hfind : w'.orders.find? id = some old)
    (hfollows : ∀ order ∈ w.orders.rows ++ log.orders, ∀ stored ∈ w'.orders.rows, stored.id = id →
      Follows requests log.orders order stored →
        Follows requests log.orders order (data.apply stored))
    (hstatus : ∀ status, data = .paymentStatus status → status = .completed ∧
      ∃ c ∈ log.charges, c.orderId = id) :
    Books w requests (w'.modify id data)
      (log ++ [(i, ⟨.update id data, .ok (data.apply old)⟩)]) := by
  have hmoves : ∀ stored : Order, (data.apply stored).paymentStatus = stored.paymentStatus ∨
      (data.apply stored).paymentStatus = .completed ∧ ∃ c ∈ log.charges, c.orderId = id := by
    intro stored
    cases data with
    | status s => exact .inl rfl
    | paymentStatus s => exact .inr (hstatus s rfl)
  constructor
  case rows =>
    rw [orders_quiet rfl, World.modify_orders, Table.modify, List.forall₂_map_right_iff]
    obtain ⟨hlength, hzip⟩ := List.forall₂_iff_zip.mp h.rows
    refine List.forall₂_iff_zip.mpr ⟨hlength, fun {order stored} hmem => ?_⟩
    split
    · next hid =>
      obtain ⟨horder, hstored⟩ := List.of_mem_zip hmem
      exact hfollows order horder stored hstored hid (hzip hmem)
    · exact hzip hmem
  case asked =>
    rw [placements_quiet rfl]
    exact h.asked
  case single =>
    rw [placements_quiet rfl]
    exact h.single
  case shown =>
    have hkept : ∀ order : Order, (∃ stored ∈ w'.orders.rows, order.Same stored) →
        ∃ stored ∈ (w'.modify id data).orders.rows, order.Same stored := by
      rintro order ⟨stored, hstored, hsame⟩
      refine ⟨_, List.mem_map_of_mem hstored, ?_⟩
      split
      · exact hsame.apply data
      · exact hsame
    refine forall_snoc (fun entry hentry order horder => hkept order ?_) fun order horder => ?_
    · exact h.shown entry hentry order horder
    · obtain rfl := List.mem_singleton.mp horder
      refine ⟨_, List.mem_map_of_mem (Table.mem_of_find? hfind), ?_⟩
      rw [if_pos (Table.key_of_find? hfind)]
      exact .refl _
  case charges =>
    rw [charges_quiet rfl]
    exact h.charges
  case once =>
    rw [charges_quiet rfl]
    exact h.once
  case captured =>
    rw [placements_quiet rfl]
    exact forall_snoc h.captured fun c hc => by cases hc
  case recorded =>
    intro id' hid moved hmoved hmovedId
    obtain ⟨stored, hstored, rfl⟩ := mem_modify hmoved
    obtain hid | ⟨row, hrow⟩ := recorded_snoc hid
    · split
      · next hstoredId =>
        rw [if_pos hstoredId, OrderUpdate.apply_id] at hmovedId
        exact (hmoves stored).elim (fun hkept => hkept.trans (h.recorded id' hid stored hstored
          hmovedId)) And.left
      · next hstoredId =>
        rw [if_neg hstoredId] at hmovedId
        exact h.recorded id' hid stored hstored hmovedId
    · obtain ⟨hop, -⟩ := Sigma.mk.inj hrow
      obtain ⟨rfl, rfl⟩ := OrderOp.update.inj hop
      split
      · rfl
      · next hne =>
        rw [if_neg hne] at hmovedId
        exact absurd hmovedId hne
  case paid =>
    rw [orders_quiet rfl, charges_quiet rfl]
    intro order horder moved hmoved hid hcompleted
    obtain ⟨stored, hstored, rfl⟩ := mem_modify hmoved
    split at hid
    · next hstoredId =>
      rw [if_pos hstoredId] at hcompleted
      rw [OrderUpdate.apply_id] at hid
      rcases hmoves stored with hkept | ⟨-, c, hc, hcharged⟩
      · exact h.paid order horder stored hstored hid (hkept.symm.trans hcompleted)
      · exact ⟨c, hc, hcharged.trans (hstoredId.symm.trans hid)⟩
    · next hstoredId =>
      rw [if_neg hstoredId] at hcompleted
      exact h.paid order horder stored hstored hid hcompleted

theorem mem_ordersOf {newestFirst : NewestFirst} {userId : UserId} {order : Order}
    (h : order ∈ w.ordersOf newestFirst userId) :
    order ∈ w.orders.rows ∧ order.userId = userId := by
  rw [World.ordersOf, (newestFirst.perm _).mem_iff] at h
  exact (List.mem_filter.mp h).imp_right of_decide_eq_true

theorem fits_handle (c : Turn) (op : OrderOp) (w : World) : Fits op (World.handle c op w).1 := by
  cases op with
  | findMany userId =>
    rw [World.handle, World.query]
    cases c.db with
    | reject m => trivial
    | accept => exact fun order horder => (mem_ordersOf horder).2
  | findUnique id =>
    rw [World.handle, World.query]
    cases c.db with
    | reject m => trivial
    | accept => exact fun order horder => Table.key_of_find? (Option.mem_toList.mp horder)
  | create data =>
    obtain ⟨e, hinsert, -⟩ | ⟨orders, hinsert, -⟩ := World.insert_cases c data w
    · rw [World.handle, hinsert]
      trivial
    · rw [World.handle, hinsert]
      exact ⟨_, _, rfl⟩
  | update id data =>
    rw [World.handle, World.update]
    cases c.db with
    | reject m => trivial
    | accept =>
      cases hfind : w.orders.find? id with
      | none => trivial
      | some order => exact (data.apply_id order).trans (Table.key_of_find? hfind)
  | paymentIntent params => trivial
  | refund transactionId => trivial
  | rpcCall queue items => trivial
  | publish event => trivial

theorem Books.move (h : Books w requests w' log) {request : ServiceRequest} {id : OrderId}
    {data : OrderUpdate} {old : Order} (hrequest : requests[i]? = some request)
    (hallowed : Allowed request (turnsOf log i) (.update id data))
    (hfind : w'.orders.find? id = some old) :
    Books w requests (w'.modify id data)
      (log ++ [(i, ⟨.update id data, .ok (data.apply old)⟩)]) := by
  have hplaced : ∀ {placed : Order}, placed ∈ (turnsOf log i).filterMap OrderDoing.placed →
      placed.id = id → ∀ order ∈ w.orders.rows ++ log.orders, order.id = id →
        order ∈ log.orders := by
    intro placed hplaced hid order horder horderId
    have hmem := mem_orders_of_turnsOf hplaced
    rwa [h.inj horder (List.mem_append_right _ hmem) (horderId.trans hid.symm)]
  cases data with
  | paymentStatus status =>
    obtain ⟨rfl, ⟨placed, hmem, hid⟩, c, hc, hcharged⟩ := hallowed
    refine h.update hfind (fun order horder stored _ hstored hfollows => ?_) fun status hdata => ?_
    · exact hfollows.record (hplaced hmem hid order horder (hfollows.same.id.symm.trans hstored))
    · exact ⟨(OrderUpdate.paymentStatus.inj hdata).symm, c, mem_charges_of_turnsOf hc, hcharged⟩
  | status status =>
    refine h.update hfind (fun order horder stored hmem hstored hfollows => ?_)
      fun status hdata => by cases hdata
    have horderId : order.id = id := hfollows.same.id.symm.trans hstored
    cases status with
    | confirmed =>
      obtain ⟨⟨placed, hmem', hid⟩, hrecorded⟩ := hallowed
      exact hfollows.confirm (h.recorded id hrecorded.of_turnsOf stored hmem hstored)
        (hplaced hmem' hid order horder horderId)
    | cancelled =>
      -- the row that the request has seen is still that user's
      obtain ⟨userId, rfl, own, hown, hownId, huser⟩ := hallowed
      obtain ⟨d, hd, hseen⟩ := List.mem_flatMap.mp hown
      obtain ⟨row, hrow, hsame⟩ := h.shown (i, d) (mem_turnsOf.mp hd) own hseen
      have hrow' : row = stored := List.inj_on_of_nodup_map w'.orders.nodup hrow hmem
        (hsame.id.trans (hownId.trans hstored.symm))
      have huser' : order.userId = userId := by
        rw [← hfollows.same.userId, ← hrow', hsame.userId, huser]
      refine hfollows.cancel ?_
      rw [horderId, huser']
      exact List.mem_of_getElem? hrequest
    | _ => exact hallowed.elim

theorem Books.handle (h : Books w requests w' log) {request : ServiceRequest} {op : OrderOp}
    (hrequest : requests[i]? = some request) (hallowed : Allowed request (turnsOf log i) op)
    (c : Turn) : Books w requests (World.handle c op w').2
      (log ++ [(i, ⟨op, (World.handle c op w').1⟩)]) := by
  cases op with
  | findMany userId =>
    refine h.quiet rfl rfl rfl rfl (fun order horder => ?_) fun _ _ hd => by cases hd
    rw [World.handle, World.query] at horder
    cases hdb : c.db with
    | reject m =>
      rw [hdb] at horder
      cases horder
    | accept =>
      rw [hdb] at horder
      exact ⟨order, (mem_ordersOf horder).1, .refl order⟩
  | findUnique id =>
    refine h.quiet rfl rfl rfl rfl (fun order horder => ?_) fun _ _ hd => by cases hd
    rw [World.handle, World.query] at horder
    cases hdb : c.db with
    | reject m =>
      rw [hdb] at horder
      cases horder
    | accept =>
      rw [hdb] at horder
      exact ⟨order, Table.mem_of_find? (Option.mem_toList.mp horder), .refl order⟩
  | create data =>
    obtain ⟨e, hinsert, -⟩ | ⟨orders, hinsert, -, horders⟩ := World.insert_cases c data w'
    · rw [World.handle, hinsert]
      exact h.silent rfl rfl rfl rfl rfl
    · rw [World.handle, hinsert]
      obtain ⟨⟨asked, hasked, rfl⟩, hunplaced⟩ := hallowed
      exact h.place hrequest hasked ⟨_, _, rfl⟩ horders hunplaced _
  | update id data =>
    rw [World.handle, World.update]
    cases c.db with
    | reject m => exact h.silent rfl rfl rfl rfl rfl
    | accept =>
      cases hfind : w'.orders.find? id with
      | none => exact h.silent rfl rfl rfl rfl rfl
      | some old => exact h.move hrequest hallowed hfind
  | paymentIntent params =>
    obtain ⟨huncharged, order, horder, hid, hamount⟩ := hallowed
    rw [World.handle]
    cases c.stripe with
    | failed m => exact h.silent rfl rfl rfl rfl rfl
    | answered reply =>
      change Books w requests (w'.charge params reply) _
      rw [World.charge]
      split
      · next hsucceeded =>
        exact h.charge huncharged horder hid hamount (by rw [charging, if_pos hsucceeded])
      · next hsucceeded =>
        exact h.silent rfl rfl rfl (by rw [charging, if_neg hsucceeded]) rfl
  | refund transactionId => exact hallowed.elim
  | rpcCall queue items =>
    rw [World.handle]
    cases c.rpc with
    | answered db => exact h.silent rfl rfl rfl rfl rfl
    | failed ran m =>
      exact h.silent (World.request_orders ..) (World.request_charges ..) rfl rfl rfl
  | publish event => exact h.silent (World.emit_orders ..) (World.emit_charges ..) rfl rfl rfl

end Books

namespace OrderLoop

def requests (l : OrderLoop) : List ServiceRequest := l.tasks.map Prod.fst

/-- What a request was answered with. -/
def Answers (l : OrderLoop) (request : ServiceRequest) (response : ApiResponse OrderData) : Prop :=
  ∃ p, (request, p) ∈ l.tasks ∧ p.settlement = some (.ok response)

end OrderLoop

/-- Requests that overlap: one may start while others wait; `sync` says what is not waited for. -/
def ServiceRequest.run (sync : OrderOp → Bool) (zodMessage : List Issue → String) (w : World)
    (events : List (LoopEvent ServiceRequest Turn)) : OrderLoop :=
  events.foldl (EventLoop.step sync (fun _ => World.handle) (handler zodMessage)) (.idle w)

/-- What the requests have made of the table, and what they have been shown. -/
structure OwnOnly (w : World) (l : OrderLoop) : Prop where
  rows : ∃ placed : List (Nat × Order), (placed.map Prod.fst).Nodup ∧
    (∀ p ∈ placed, ∃ request data, l.requests[p.1]? = some request ∧ request.asked = some data ∧
      ∃ id now, p.2 = data.newOrder.row id now) ∧
    List.Forall₂ (Follows l.requests (placed.map Prod.snd)) (w.orders.rows ++ placed.map Prod.snd)
      l.state.orders.rows
  shown : ∀ request response, l.Answers request response →
    ∀ found, response.data = some found → ∀ order ∈ found.rows,
      request.userId = some order.userId ∧ ∃ stored ∈ l.state.orders.rows, order.Same stored
  others : ∀ userId, (∀ request ∈ l.requests, request.userId ≠ some userId) →
    l.state.owned userId = w.owned userId

/-- What the requests have paid. -/
structure PaidOnce (w : World) (l : OrderLoop) : Prop where
  charges : ∃ taken : List Charge, l.state.charges = w.charges ++ taken ∧
    (taken.map Charge.orderId).Nodup ∧
    (∀ c ∈ taken, w.orders.find? c.orderId = none ∧
      ∃ order ∈ l.state.orders.rows, c.orderId = order.id ∧ c.amount = order.total * 100) ∧
    ∀ order ∈ l.state.orders.rows, w.orders.find? order.id = none →
      order.paymentStatus = .completed → ∃ c ∈ taken, c.orderId = order.id
  confirmed : ∀ order ∈ l.state.orders.rows, w.orders.find? order.id = none →
    order.status = .confirmed → order.paymentStatus = .completed
  answered : ∀ request response, l.Answers request response → response.status < 300 →
    ∀ body, request = .create body → ∃ data order, request.asked = some data ∧
      response.data = some (.order order) ∧ w.orders.find? order.id = none ∧
      ∃ stored ∈ l.state.orders.rows, order.Same stored ∧
        (data.pays.isSome → stored.paymentStatus = .completed)

section Run

variable (sync : OrderOp → Bool) (zodMessage : List Issue → String) (w : World)
  (events : List (LoopEvent ServiceRequest Turn))

theorem audited_run : (ServiceRequest.run sync zodMessage w events).Audited Fits Allowed
    (fun request done r => ∀ response, r = .ok response → Responds request done response)
    (Books w) :=
  (Audited.idle (books_idle w)).foldl (fun _ => fits_handle) (monitored_handler zodMessage)
    (fun _ request _ _ h => h.start request)
    (fun _ _ _ c _ _ _ hrequest hallowed h => h.handle hrequest hallowed c) events

end Run

section Read

variable {w w' : World} {requests : List ServiceRequest} {log : OrderLog} {i : Nat} {order : Order}

theorem Books.exists_stored (h : Books w requests w' log)
    (hseen : order ∈ (turnsOf log i).flatMap seen) :
    ∃ stored ∈ w'.orders.rows, order.Same stored := by
  obtain ⟨d, hd, horder⟩ := List.mem_flatMap.mp hseen
  exact h.shown (i, d) (mem_turnsOf.mp hd) order horder

theorem Books.find?_placed (h : Books w requests w' log) (horder : order ∈ log.orders) :
    w.orders.find? order.id = none := by
  have hnodup : ((w.orders.rows ++ log.orders).map Order.id).Nodup := h.ids ▸ w'.orders.nodup
  rw [List.map_append] at hnodup
  exact Table.find?_eq_none.mpr fun hold =>
    (List.nodup_append.mp hnodup).2.2 _ hold _ (List.mem_map_of_mem horder) rfl

theorem Books.exists_placed (h : Books w requests w' log) {stored : Order}
    (hstored : stored ∈ w'.orders.rows) (hnew : w.orders.find? stored.id = none) :
    ∃ order ∈ log.orders, Follows requests log.orders order stored := by
  obtain ⟨order, horder, hfollows⟩ : ∃ order ∈ w.orders.rows ++ log.orders,
      Follows requests log.orders order stored := by
    obtain ⟨hlength, hzip⟩ := List.forall₂_iff_zip.mp h.rows
    obtain ⟨n, hn, rfl⟩ := List.mem_iff_getElem.mp hstored
    refine ⟨_, List.getElem_mem (hlength ▸ hn), hzip ?_⟩
    exact List.mem_iff_getElem.mpr ⟨n, by simpa [hlength] using hn, by simp⟩
  refine ⟨order, (List.mem_append.mp horder).resolve_left fun hold => ?_, hfollows⟩
  rw [hfollows.same.id] at hnew
  exact Table.find?_eq_none.mp hnew (List.mem_map_of_mem hold)

theorem Books.userId_placed (h : Books w requests w' log) (horder : order ∈ log.orders) :
    order.status = .pending ∧ ∃ request ∈ requests, request.userId = some order.userId := by
  obtain ⟨p, hp, rfl⟩ := List.mem_map.mp horder
  obtain ⟨request, data, hrequest, hasked, id, now, hrow⟩ := h.asked p hp
  rw [hrow]
  refine ⟨rfl, request, List.mem_of_getElem? hrequest, ?_⟩
  cases request with
  | create body =>
    rw [ServiceRequest.userId, hasked]
    rfl
  | _ => cases hasked

end Read

theorem filter_of_forall₂ {α : Type} {R : α → α → Prop} {p : α → Bool} {as bs : List α}
    (h : List.Forall₂ R as bs) (hp : ∀ a b, R a b → p b = p a) (heq : ∀ a b, R a b → p a → b = a) :
    bs.filter p = as.filter p := by
  induction h with
  | nil => rfl
  | @cons a b as bs hab _ ih =>
    rw [List.filter_cons, List.filter_cons, hp a b hab, ih]
    split
    · next hpa => rw [heq a b hab hpa]
    · rfl

section Main

variable (sync : OrderOp → Bool) (zodMessage : List Issue → String) (w : World)
  (events : List (LoopEvent ServiceRequest Turn))

/-- However requests overlap and whatever fails: every row is as it was first written but for the
statuses that its owner's requests move, every reply shows its user's rows only, and nothing is
changed for a user who asks for nothing. -/
theorem overlapping_requests : OwnOnly w (ServiceRequest.run sync zodMessage w events) := by
  have haudited := audited_run sync zodMessage w events
  generalize ServiceRequest.run sync zodMessage w events = l at haudited
  have hbooks : Books w l.requests l.state l.log := haudited.kept
  constructor
  case rows => exact ⟨_, hbooks.single, hbooks.asked, hbooks.rows⟩
  case shown =>
    rintro request response ⟨p, hp, hsettled⟩ found hfound order horder
    obtain ⟨i, hi⟩ := List.mem_iff_getElem?.mp hp
    have hresponds := haudited.settled hi hsettled response rfl
    obtain ⟨hseen, own, hown, hid, huser⟩ := hresponds.shown found hfound order horder
    obtain ⟨stored, hstored, hsame⟩ := hbooks.exists_stored hseen
    obtain ⟨stored', hstored', hsame'⟩ := hbooks.exists_stored hown
    have hrow : stored' = stored := List.inj_on_of_nodup_map l.state.orders.nodup hstored' hstored
      (hsame'.id.trans (hid.trans hsame.id.symm))
    refine ⟨huser.trans (congrArg some ?_), stored, hstored, hsame⟩
    rw [← hsame'.userId, hrow, hsame.userId]
  case others =>
    intro userId hothers
    have hplaced : ∀ order ∈ OrderLog.orders l.log, order.userId ≠ userId := by
      rintro order horder rfl
      obtain ⟨-, request, hrequest, huser⟩ := hbooks.userId_placed horder
      exact hothers request hrequest huser
    have hkept : ∀ order stored, Follows l.requests (OrderLog.orders l.log) order stored →
        order.userId = userId → stored = order := by
      rintro order stored hfollows rfl
      have hpaymentStatus : stored.paymentStatus = order.paymentStatus :=
        hfollows.paymentStatus.resolve_right fun h => hplaced order h.2 rfl
      have hstatus : stored.status = order.status := by
        rcases hfollows.status with h | ⟨-, h⟩ | ⟨-, -, h⟩
        · exact h
        · exact absurd rfl (hothers _ h)
        · exact absurd rfl (hplaced order h)
      rw [hfollows.same, hstatus, hpaymentStatus]
    rw [World.owned, World.owned, filter_of_forall₂ hbooks.rows, List.filter_append]
    · have hnone :
          (OrderLog.orders l.log).filter (fun order => decide (order.userId = userId)) = [] :=
        List.filter_eq_nil_iff.mpr fun order horder h => hplaced order horder (of_decide_eq_true h)
      rw [hnone, List.append_nil]
    · intro order stored hfollows
      rw [hfollows.same.userId]
    · exact fun order stored hfollows huser => hkept order stored hfollows (of_decide_eq_true huser)

/-- However requests overlap and whatever fails: an order is charging once at most, by its total and
before its payment is recorded, and confirmed only after that. -/
theorem overlapping_payments : PaidOnce w (ServiceRequest.run sync zodMessage w events) := by
  have haudited := audited_run sync zodMessage w events
  generalize ServiceRequest.run sync zodMessage w events = l at haudited
  have hbooks : Books w l.requests l.state l.log := haudited.kept
  constructor
  case charges =>
    refine ⟨_, hbooks.charges, hbooks.once, fun c hc => ?_,
      fun stored hstored hnew hcompleted => ?_⟩
    · obtain ⟨entry, hentry, hcharged⟩ := List.mem_filterMap.mp hc
      obtain ⟨order, hplacement, hid, hamount⟩ := hbooks.captured entry hentry c hcharged
      have horder : order ∈ OrderLog.orders l.log := List.mem_map.mpr ⟨_, hplacement, rfl⟩
      obtain ⟨stored, hstored, hsame⟩ :=
        hbooks.exists_stored (mem_seen_of_placed (mem_placements.mp hplacement))
      refine ⟨hid ▸ hbooks.find?_placed horder, stored, hstored, hid.trans hsame.id.symm, ?_⟩
      rw [hamount, hsame]
    · obtain ⟨order, horder, hfollows⟩ := hbooks.exists_placed hstored hnew
      obtain ⟨c, hc, hid⟩ := hbooks.paid order horder stored hstored hfollows.same.id hcompleted
      exact ⟨c, hc, hid.trans hfollows.same.id.symm⟩
  case confirmed =>
    intro stored hstored hnew hconfirmed
    obtain ⟨order, horder, hfollows⟩ := hbooks.exists_placed hstored hnew
    rcases hfollows.status with h | ⟨h, -⟩ | ⟨-, h, -⟩
    · rw [hconfirmed, (hbooks.userId_placed horder).1] at h
      cases h
    · rw [hconfirmed] at h
      cases h
    · exact h
  case answered =>
    rintro request response ⟨p, hp, hsettled⟩ hstatus body hcreate
    obtain ⟨i, hi⟩ := List.mem_iff_getElem?.mp hp
    have hresponds := haudited.settled hi hsettled response rfl
    obtain ⟨data, order, hasked, hdata, hcompletes⟩ := hresponds.completes body hcreate hstatus
    obtain ⟨stored, hstored, hsame⟩ :=
      hbooks.exists_stored (mem_seen_of_placed hcompletes.placed)
    have hnew := hbooks.find?_placed (mem_orders_of_turnsOf hcompletes.placed)
    refine ⟨data, order, hasked, hdata, hnew, stored, hstored, hsame, fun hpays => ?_⟩
    exact hbooks.recorded order.id (hcompletes.recorded hpays).of_turnsOf stored hstored hsame.id

end Main

end Ecommerce
