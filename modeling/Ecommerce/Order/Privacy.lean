import Ecommerce.Order.Controller
import Ecommerce.Order.Effect

namespace Ecommerce

/-- The requests of a user. -/
inductive OrderRequest
  | getUserOrders
  | getById (id : OrderId)
  | cancel (id : OrderId)

def OrderRequest.handler (userId : UserId) : OrderRequest → OrderM (ApiResponse OrderData)
  | .getUserOrders => OrderController.getUserOrders userId
  | .getById id => OrderController.getById id userId
  | .cancel id => OrderController.cancel id userId

namespace World

/-- The rows of a user, in the order they are stored. -/
def owned (w : World) (userId : UserId) : List Order := w.orders.rows.filter (·.userId = userId)

def foreign (w : World) (userId : UserId) : List Order := w.orders.rows.filter (·.userId ≠ userId)

def own (w : World) (userId : UserId) (id : OrderId) : Option Order :=
  (w.orders.find? id).filter (·.userId = userId)

variable {w w₁ w₂ : World} {userId : UserId} {id : OrderId} {order : Order}

theorem own_eq_some : w.own userId id = some order ↔ order ∈ w.owned userId ∧ order.id = id := by
  simp only [own, owned, Option.filter_eq_some_iff, Table.find?_eq_some, List.mem_filter]
  exact and_right_comm

theorem own_eq_none :
    w.own userId id = none ↔ ∀ order, w.orders.find? id = some order → order.userId ≠ userId := by
  simp [own, Option.filter_eq_none_iff]

theorem own_congr (h : w₁.owned userId = w₂.owned userId) :
    w₁.own userId id = w₂.own userId id :=
  Option.ext fun order => by simp only [own_eq_some, h]

theorem ordersOf_congr (newestFirst : NewestFirst) (h : w₁.owned userId = w₂.owned userId) :
    w₁.ordersOf newestFirst userId = w₂.ordersOf newestFirst userId :=
  congrArg newestFirst.sort h

end World

def cancelReply (env : Script Turn) (own : Option Order) : Except Error Order :=
  match (env 0).db with
  | .reject m => .error (.plain m)
  | .accept =>
    match own with
    | none => .error (.notFound "Order not found")
    | some order =>
      if order.status ∉ [.pending, .confirmed] then
        .error (.badRequest "Order cannot be cancelled")
      else
        match (env 2).db with
        | .reject m => .error (.plain m)
        | .accept => .ok { order with status := .cancelled }

section Cancel

variable {env : Script Turn} {w : World} {userId : UserId} {id : OrderId}
  {out : Except Error Order × World}

theorem own_of_find {order : Order} (hfind : w.orders.find? id = some order)
    (huser : order.userId = userId) : w.own userId id = some order := by
  simp [World.own, hfind, huser]

theorem Cancels.reply (h : Cancels env id userId w out) :
    out.1 = cancelReply env (w.own userId id) := by
  cases h with
  | unread hdb => simp [cancelReply, hdb]
  | missing hdb hfind => simp [cancelReply, hdb, World.own_eq_none.mpr hfind]
  | settled hdb hfind huser hstatus =>
    simp only [cancelReply, hdb, own_of_find hfind huser, hstatus, not_false_iff, if_true]
  | unwritten hdb hfind huser hstatus hdb' =>
    simp only [cancelReply, hdb, own_of_find hfind huser, hstatus, not_true, if_false, hdb']
  | cancelled hdb hfind huser hstatus hdb' =>
    simp only [cancelReply, hdb, own_of_find hfind huser, hstatus, not_true, if_false, hdb']

theorem owned_modify (data : OrderUpdate) :
    (w.modify id data).owned userId =
      (w.owned userId).map fun order => if order.id = id then data.apply order else order := by
  simp only [World.owned, World.modify_orders, Table.modify, List.filter_map]
  congr 2
  funext order
  by_cases hid : order.id = id
  · cases data <;> simp [hid, OrderUpdate.apply]
  · simp [hid]

theorem foreign_modify {order : Order} (hfind : w.orders.find? id = some order)
    (huser : order.userId = userId) (data : OrderUpdate) :
    (w.modify id data).foreign userId = w.foreign userId := by
  have hkeep : ∀ row ∈ w.orders.rows, row.userId ≠ userId → row.id ≠ id := by
    rintro row hmem hne rfl
    rw [Table.find?_of_mem hmem, Option.some.injEq] at hfind
    exact hne (hfind ▸ huser)
  simp only [World.foreign, World.modify_orders, Table.modify, List.filter_map]
  have hsame : ∀ row ∈ w.orders.rows,
      decide ((if row.id = id then data.apply row else row).userId ≠ userId) =
        decide (row.userId ≠ userId) := by
    intro row hmem
    by_cases hid : row.id = id
    · cases data <;> simp [hid, OrderUpdate.apply]
    · simp [hid]
  apply (congrArg (List.map _) (List.filter_congr hsame)).trans
  refine (List.map_congr_left fun row hrow => ?_).trans (List.map_id' _)
  rw [List.mem_filter, decide_eq_true_eq] at hrow
  rw [if_neg (hkeep row hrow.1 hrow.2)]

theorem Cancels.owned (h : Cancels env id userId w out) : out.2.owned userId =
    match out.1 with
    | .ok _ => (w.owned userId).map fun order =>
        if order.id = id then { order with status := .cancelled } else order
    | .error _ => w.owned userId := by
  cases h with
  | unread hdb => rfl
  | missing hdb hfind => rfl
  | settled hdb hfind huser hstatus => rfl
  | unwritten hdb hfind huser hstatus hdb' => simp [World.owned]
  | cancelled hdb hfind huser hstatus hdb' =>
    have hemit : ∀ (w : World) broker event, (w.emit broker event).owned userId = w.owned userId :=
      fun w broker event => by simp [World.owned]
    have hrequest : ∀ ran queue items, (w.request ran queue items).owned userId = w.owned userId :=
      fun ran queue items => by simp [World.owned]
    rw [hemit, owned_modify, hrequest]
    rfl

end Cancel

/-- What `w'` may differ from `w` in after a request of a user: other users' rows are as they were,
and stock is only released for an order of that user. -/
structure Confined (userId : UserId) (w w' : World) : Prop where
  foreign : w'.foreign userId = w.foreign userId
  stock : w'.inventory = w.inventory ∧ w'.handled = w.handled ∨
    ∃ order ∈ w.owned userId, ∃ ran,
      w'.inventory = (w.request ran .release order.lines).inventory ∧
      w'.handled = (w.request ran .release order.lines).handled

theorem Confined.refl (userId : UserId) (w : World) : Confined userId w w := ⟨rfl, .inl ⟨rfl, rfl⟩⟩

theorem Cancels.confined {env : Script Turn} {w : World} {userId : UserId} {id : OrderId}
    {out : Except Error Order × World} (h : Cancels env id userId w out) :
    Confined userId w out.2 := by
  cases h with
  | unread hdb => exact .refl userId w
  | missing hdb hfind => exact .refl userId w
  | settled hdb hfind huser hstatus => exact .refl userId w
  | @unwritten order m hdb hfind huser hstatus hdb' =>
    have hmem := (World.own_eq_some.mp (own_of_find hfind huser)).1
    exact ⟨by simp [World.foreign], .inr ⟨order, hmem, _, rfl, rfl⟩⟩
  | @cancelled order hdb hfind huser hstatus hdb' =>
    have hmem := (World.own_eq_some.mp (own_of_find hfind huser)).1
    refine ⟨?_, .inr ⟨order, hmem, (env 1).rpc.ran, by simp, by simp⟩⟩
    have hemit : ∀ (w : World) broker event,
        (w.emit broker event).foreign userId = w.foreign userId :=
      fun w broker event => by simp [World.foreign]
    have hrequest : ∀ ran queue items,
        (w.request ran queue items).foreign userId = w.foreign userId :=
      fun ran queue items => by simp [World.foreign]
    have hfind' :
        (w.request (env 1).rpc.ran .release order.lines).orders.find? id = some order := by
      rw [World.request_orders, hfind]
    rw [hemit, foreign_modify hfind' huser, hrequest]

section Respond

open OrderController

variable (env : Script Turn) (w : World)

def present (rethrown : List ErrorClass) (fallback : String) :
    Except Error (ApiResponse OrderData) → ApiResponse OrderData
  | .ok response => response
  | .error err =>
    if rethrown.any err.isInstance then errorHandler err
    else .failure 500 (orFallback err.message fallback)

theorem respond_guarded (rethrown : List ErrorClass) (fallback : String)
    (body : OrderM (ApiResponse OrderData)) :
    respond env (guarded rethrown fallback body) w =
      (present rethrown fallback (body.play World.handle env w).1,
        (body.play World.handle env w).2) := by
  have hplay := Prog.play_tryCatch_settled World.handle env body
    (f := fun err => if rethrown.any err.isInstance then throw err
      else pure (.failure 500 (orFallback err.message fallback)))
    (g := fun err => if rethrown.any err.isInstance then .error err
      else .ok (.failure 500 (orFallback err.message fallback)))
    (fun err s => by split <;> rfl) w
  rw [respond, guarded, hplay]
  cases (body.play World.handle env w).1 with
  | ok response => rfl
  | error err => by_cases hrethrown : rethrown.any err.isInstance <;> simp [present, hrethrown]

theorem respond_getUserOrders (userId : UserId) :
    respond env (getUserOrders userId) w =
      (present [.badRequest] "Failed to fetch orders"
        (if userId = "" then .error (.badRequest "userId is required")
          else (World.query (env 0) (w.ordersOf (env 0).newestFirst userId)).map fun orders =>
            .success 200 "Orders fetched successfully" (.orders orders)), w) := by
  rw [getUserOrders, respond_guarded]
  split
  · rfl
  · rw [OrderService.getUserOrders, OrderRepository.findByUserId]
    have hplay := Prog.play_map World.handle env (.perform (OrderOp.findMany userId))
      (fun orders => ApiResponse.success 200 "Orders fetched successfully" (OrderData.orders orders))
      w
    rw [Prog.play_perform] at hplay
    exact congrArg (fun r => (present _ _ r.1, r.2)) hplay

theorem play_getById (id : OrderId) (userId : UserId) :
    (OrderService.getById id userId).play World.handle env w =
      ((World.query (env 0) (w.orders.find? id)).bind fun order =>
        if order.any (·.userId ≠ userId) then .error (.notFound "Order not found")
        else .ok order, w) := by
  rw [OrderService.getById, OrderRepository.findById,
    Prog.play_bind_settled World.handle env _ (g := fun order =>
      if order.any (·.userId ≠ userId) then .error (.notFound "Order not found") else .ok order)
      (fun order s => by
        cases order with
        | none => rfl
        | some order => by_cases huser : order.userId = userId <;> simp [huser]),
    Prog.play_perform]
  rfl

/-- A row of somebody else and no row at all are the same `NotFoundError`. -/
theorem respond_getById (id : OrderId) (userId : UserId) :
    respond env (getById id userId) w =
      (present [.notFound] "Failed to fetch order"
        ((World.query (env 0) (w.own userId id)).bind fun own =>
          match own with
          | none => .error (.notFound "Order not found")
          | some order => .ok (.success 200 "Order fetched successfully" (.order order))), w) := by
  rw [getById, respond_guarded,
    Prog.play_bind_settled World.handle env _ (g := fun own =>
      match own with
      | none => .error (.notFound "Order not found")
      | some order => .ok (.success 200 "Order fetched successfully" (.order order)))
      (fun own s => by cases own <;> rfl), play_getById]
  simp only [World.query, World.own]
  cases (env 0).db with
  | reject m => rfl
  | accept =>
    cases w.orders.find? id with
    | none => rfl
    | some order =>
      by_cases huser : order.userId = userId <;> simp [huser, Option.filter_some, Except.bind, bind]

theorem respond_cancel (id : OrderId) (userId : UserId) :
    respond env (cancel id userId) w =
      (present [.notFound, .badRequest] "Failed to cancel order"
        ((cancelReply env (w.own userId id)).map fun order =>
          .success 200 "Order cancelled successfully" (.order order)),
        ((OrderService.cancel id userId).play World.handle env w).2) := by
  rw [OrderController.cancel, respond_guarded, Prog.play_map, (cancels env w id userId).reply]

end Respond

/-- A user gets the same response from two stores that agree on the user's orders, of which the
database sorts those of one time alike; afterwards they still agree, and neither has been changed
beyond those orders. -/
theorem order_privacy (userId : UserId) (request : OrderRequest) (env : Script Turn)
    {w₁ w₂ : World} (hagree : w₁.owned userId = w₂.owned userId) :
    (respond env (request.handler userId) w₁).1 = (respond env (request.handler userId) w₂).1 ∧
      (respond env (request.handler userId) w₁).2.owned userId =
        (respond env (request.handler userId) w₂).2.owned userId ∧
      Confined userId w₁ (respond env (request.handler userId) w₁).2 ∧
      Confined userId w₂ (respond env (request.handler userId) w₂).2 := by
  cases request with
  | getUserOrders =>
    simp only [OrderRequest.handler, respond_getUserOrders, World.ordersOf_congr _ hagree]
    exact ⟨trivial, hagree, .refl userId w₁, .refl userId w₂⟩
  | getById id =>
    simp only [OrderRequest.handler, respond_getById, World.own_congr hagree]
    exact ⟨trivial, hagree, .refl userId w₁, .refl userId w₂⟩
  | cancel id =>
    have h₁ := cancels env w₁ id userId
    have h₂ := cancels env w₂ id userId
    have hreply : (OrderService.cancel id userId |>.play World.handle env w₁).1 =
        (OrderService.cancel id userId |>.play World.handle env w₂).1 := by
      rw [h₁.reply, h₂.reply, World.own_congr hagree]
    simp only [OrderRequest.handler, respond_cancel, World.own_congr hagree]
    refine ⟨trivial, ?_, h₁.confined, h₂.confined⟩
    rw [h₁.owned, h₂.owned, hreply, hagree]

section Example

private def address : ShippingAddress := ⟨"", "", "", "", ""⟩

private def stored (id : OrderId) (userId : UserId) : Order :=
  ⟨id, userId, .pending, .pending, 1000, 100, 1100, address, [⟨"a", 2, 0, 0⟩], 0⟩

/-- One order of the user, and one of somebody else. -/
private def shared : World :=
  { World.opening (Stock.single "a" ⟨5, 2, 1⟩) with
    orders := ⟨[stored "1" "u", stored "2" "v"], by decide⟩ }

private def alone : World :=
  { World.opening (Stock.single "a" ⟨5, 2, 1⟩) with orders := ⟨[stored "1" "u"], by decide⟩ }

theorem order_privacy_shared :
    (respond (fun _ => .smooth (.failed "") "") (OrderRequest.handler "u" (.cancel "2")) shared).1 =
        (respond (fun _ => .smooth (.failed "") "") (OrderRequest.handler "u" (.cancel "2")) alone).1 ∧
      (respond (fun _ => .smooth (.failed "") "") (OrderRequest.handler "u" (.cancel "2"))
          shared).2.owned "u" =
        (respond (fun _ => .smooth (.failed "") "") (OrderRequest.handler "u" (.cancel "2"))
          alone).2.owned "u" ∧
      Confined "u" shared
        (respond (fun _ => .smooth (.failed "") "") (OrderRequest.handler "u" (.cancel "2")) shared).2 ∧
      Confined "u" alone
        (respond (fun _ => .smooth (.failed "") "") (OrderRequest.handler "u" (.cancel "2")) alone).2 :=
  order_privacy "u" (.cancel "2") (fun _ => .smooth (.failed "") "") (by decide)

end Example

end Ecommerce
