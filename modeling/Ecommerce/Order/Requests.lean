import Ecommerce.Lib.Monitor
import Ecommerce.Order.Privacy

namespace Ecommerce

open Prog

/-- A request to the order service, which takes the user from the query or the body. -/
inductive ServiceRequest
  | list (userId : UserId)
  | get (id : OrderId) (userId : UserId)
  | create (body : Option Json)
  | cancel (id : OrderId) (userId : UserId)

namespace ServiceRequest

def handler (zodMessage : List Issue → String) : ServiceRequest → OrderM (ApiResponse OrderData)
  | list userId => OrderController.getUserOrders userId
  | get id userId => OrderController.getById id userId
  | create body => OrderController.create zodMessage body
  | cancel id userId => OrderController.cancel id userId

def asked : ServiceRequest → Option CreateOrderData
  | create body =>
    (Schema.parse OrderController.createOrderSchema body).toOption.map CreateOrderData.ofFields
  | _ => none

def userId : ServiceRequest → Option UserId
  | list userId => some userId
  | get _ userId => some userId
  | create body => (create body).asked.map CreateOrderData.userId
  | cancel _ userId => some userId

end ServiceRequest

abbrev OrderDoing := Performed OrderOp OrderOp.Res Error

def OrderData.rows : OrderData → List Order
  | .orders rows => rows
  | .order row => [row]

namespace OrderDoing

/-- The order that it has put into the table. -/
def placed : OrderDoing → Option Order
  | ⟨.create _, .ok order⟩ => some order
  | _ => none

def charging : OrderDoing → Option Charge
  | ⟨.paymentIntent params, .ok reply⟩ =>
    if reply.status = "succeeded" then some ⟨reply.id, params.orderId, params.amount⟩ else none
  | _ => none

def seen : OrderDoing → List Order
  | ⟨.findMany _, .ok found⟩ => found
  | ⟨.findUnique _, .ok found⟩ => found.toList
  | ⟨.create _, .ok order⟩ => [order]
  | ⟨.update _ _, .ok order⟩ => [order]
  | _ => []

end OrderDoing

open OrderDoing

def Fits : (op : OrderOp) → Except Error op.Res → Prop
  | .findMany userId, .ok found => ∀ order ∈ found, order.userId = userId
  | .findUnique id, .ok found => ∀ order ∈ found.toList, order.id = id
  | .create data, .ok order => ∃ id now, order = data.row id now
  | .update id _, .ok order => order.id = id
  | _, _ => True

def Recorded (id : OrderId) (done : List OrderDoing) : Prop :=
  ∃ row : Order, row.id = id ∧ ⟨.update id (.paymentStatus .completed), .ok row⟩ ∈ done

/-- What a request may do after what it has done: it places one order at most, as it was asked to,
charges it once, and records the payment before it confirms the order; it cancels the order of its
path once it has seen that it is its user's. -/
def Allowed (request : ServiceRequest) (done : List OrderDoing) : OrderOp → Prop
  | .create data =>
    (∃ asked, request.asked = some asked ∧ data = asked.newOrder) ∧ done.filterMap placed = []
  | .paymentIntent params => done.filterMap charging = [] ∧
    ∃ order ∈ done.filterMap placed, params.orderId = order.id ∧ params.amount = order.total * 100
  | .refund _ => False
  | .update id (.paymentStatus status) => status = .completed ∧
    (∃ order ∈ done.filterMap placed, order.id = id) ∧ ∃ c ∈ done.filterMap charging, c.orderId = id
  | .update id (.status .confirmed) =>
    (∃ order ∈ done.filterMap placed, order.id = id) ∧ Recorded id done
  | .update id (.status .cancelled) => ∃ userId, request = .cancel id userId ∧
    ∃ order ∈ done.flatMap seen, order.id = id ∧ order.userId = userId
  | .update _ (.status _) => False
  | _ => True

structure Completes (data : CreateOrderData) (done : List OrderDoing) (order : Order) : Prop where
  userId : order.userId = data.userId
  placed : order ∈ done.filterMap placed
  recorded : data.pays.isSome → Recorded order.id done

/-- A response shows rows that have been seen and belong to the user, and reports an order that is
placed and, where it is to be paid for, paid. -/
structure Responds (request : ServiceRequest) (done : List OrderDoing)
    (response : ApiResponse OrderData) : Prop where
  shown : ∀ found, response.data = some found → ∀ order ∈ found.rows, order ∈ done.flatMap seen ∧
    ∃ own ∈ done.flatMap seen, own.id = order.id ∧ request.userId = some own.userId
  completes : ∀ body, request = .create body → response.status < 300 →
    ∃ data order, request.asked = some data ∧ response.data = some (.order order) ∧
      Completes data done order

theorem mem_later {β : Type} {f : OrderDoing → Option β} {b : β} {done : List OrderDoing}
    (h : b ∈ done.filterMap f) (d : OrderDoing) : b ∈ (done ++ [d]).filterMap f := by
  rw [List.filterMap_append]
  exact List.mem_append_left _ h

theorem mem_seen_of_placed {order : Order} {done : List OrderDoing}
    (h : order ∈ done.filterMap placed) : order ∈ done.flatMap seen := by
  obtain ⟨d, hd, hplaced⟩ := List.mem_filterMap.mp h
  refine List.mem_flatMap.mpr ⟨d, hd, ?_⟩
  obtain ⟨op, r⟩ := d
  cases op with
  | create data =>
    cases r with
    | error e => cases hplaced
    | ok row => exact Option.some.inj hplaced ▸ List.mem_singleton_self row
  | _ => cases hplaced

theorem Recorded.later {id : OrderId} {done : List OrderDoing} (h : Recorded id done)
    (d : OrderDoing) : Recorded id (done ++ [d]) :=
  h.imp fun _ hrow => ⟨hrow.1, List.mem_append_left _ hrow.2⟩

section Handlers

variable {request : ServiceRequest}

theorem monitored_rpc (queue : InventoryQueue) (items : List Item) {done : List OrderDoing}
    {Q : List OrderDoing → Except Error InventoryResponse → Prop}
    (hQ : ∀ r reply, Q (done ++ [⟨.rpcCall queue items, r⟩]) (.ok reply)) :
    Monitored Fits (Allowed request) (MessagingService.rpc queue items) Q done := by
  simp only [MessagingService.rpc, monitored_tryCatch, monitored_perform]
  refine ⟨trivial, fun r _ => ?_⟩
  cases r with
  | ok reply => exact hQ _ _
  | error e => exact hQ _ _

theorem monitored_publish (event : OrderEvent) {done : List OrderDoing}
    {Q : List OrderDoing → Except Error Unit → Prop}
    (hQ : ∀ r, Q (done ++ [⟨.publish event, r⟩]) (.ok ())) :
    Monitored Fits (Allowed request) (MessagingService.publish event) Q done := by
  simp only [MessagingService.publish, monitored_tryCatch, monitored_perform]
  refine ⟨trivial, fun r _ => ?_⟩
  cases r with
  | ok reply => exact hQ _
  | error e => exact hQ _

theorem monitored_processPayment {data : PaymentData} {order : Order} {done : List OrderDoing}
    {Q : List OrderDoing → Except Error PaymentResult → Prop}
    (hplaced : order ∈ done.filterMap placed) (huncharged : done.filterMap charging = [])
    (hid : data.orderId = order.id) (hamount : data.amount = order.total)
    (hQ : ∀ (d : OrderDoing) payment, d.placed = none →
      (payment.success → ∃ c ∈ (done ++ [d]).filterMap charging, c.orderId = order.id) →
      Q (done ++ [d]) (.ok payment)) :
    Monitored Fits (Allowed request) (PaymentService.processPayment data) Q done := by
  simp only [PaymentService.processPayment, monitored_tryCatch, monitored_bind, monitored_perform,
    monitored_pure]
  refine ⟨⟨huncharged, order, hplaced, hid, by rw [hamount]⟩, fun r _ => ?_⟩
  cases r with
  | error e => exact hQ _ _ rfl fun h => by cases h
  | ok reply =>
    refine hQ _ _ rfl fun hsuccess => ⟨⟨reply.id, order.id, data.amount * 100⟩, ?_, rfl⟩
    have hcharged : charging
        ⟨.paymentIntent ⟨data.amount * 100, data.paymentMethodId, data.orderId⟩, .ok reply⟩ =
          some ⟨reply.id, order.id, data.amount * 100⟩ := by
      rw [charging, if_pos (of_decide_eq_true hsuccess), hid]
    rw [List.filterMap_append, List.mem_append]
    exact .inr (by simp [hcharged])

theorem monitored_settlePayment {data : CreateOrderData} {order : Order} {done : List OrderDoing}
    (hplaced : order ∈ done.filterMap placed) (huncharged : done.filterMap charging = []) :
    Monitored Fits (Allowed request) (OrderService.settlePayment data order order.total)
      (fun done r => order ∈ done.filterMap placed ∧
        (r = .ok () → data.pays.isSome → Recorded order.id done)) done := by
  rw [OrderService.settlePayment, CreateOrderData.pays]
  cases data.paymentMethodId.filter (· ≠ "") with
  | none => exact ⟨hplaced, fun _ h => by cases h⟩
  | some m =>
    simp only [monitored_bind]
    refine monitored_processPayment hplaced huncharged rfl rfl fun d payment hd hpaid => ?_
    have hplaced' : order ∈ (done ++ [d]).filterMap placed := mem_later hplaced d
    cases hsuccess : payment.success with
    | false =>
      simp only [hsuccess, Bool.false_eq_true, if_false, monitored_bind]
      refine monitored_rpc _ _ fun r reply => ?_
      exact ⟨mem_later hplaced' _, fun h => by cases h⟩
    | true =>
      simp only [hsuccess, if_true, monitored_bind, OrderRepository.updatePaymentStatus,
        OrderRepository.updateStatus, monitored_perform]
      refine ⟨⟨rfl, ⟨order, hplaced', rfl⟩, hpaid hsuccess⟩, fun r hr => ?_⟩
      cases r with
      | error e => exact ⟨mem_later hplaced' _, fun h => by cases h⟩
      | ok row =>
        have hrecorded : Recorded order.id
            (done ++ [d] ++ [⟨.update order.id (.paymentStatus .completed), .ok row⟩]) :=
          ⟨row, hr, by simp⟩
        refine ⟨⟨⟨order, mem_later hplaced' _, rfl⟩, hrecorded⟩, fun r _ => ?_⟩
        cases r with
        | error e => exact ⟨mem_later (mem_later hplaced' _) _, fun h => by cases h⟩
        | ok row' =>
          refine monitored_rpc _ _ fun r reply => ?_
          exact ⟨mem_later (mem_later (mem_later hplaced' _) _) _,
            fun _ _ => (hrecorded.later _).later _⟩

theorem monitored_placeOrder {data : CreateOrderData} {done : List OrderDoing}
    (hasked : request.asked = some data) (hunplaced : done.filterMap placed = [])
    (huncharged : done.filterMap charging = []) :
    Monitored Fits (Allowed request) (OrderService.placeOrder data)
      (fun done r => ∀ order, r = .ok order → Completes data done order) done := by
  simp only [OrderService.placeOrder, OrderRepository.create, monitored_bind, monitored_perform]
  refine ⟨⟨⟨data, hasked, rfl⟩, hunplaced⟩, fun r hr => ?_⟩
  cases r with
  | error e => exact fun order h => by cases h
  | ok order =>
    obtain ⟨id, now, rfl⟩ := hr
    let d : OrderDoing := ⟨.create data.newOrder, .ok (data.newOrder.row id now)⟩
    have hplaced : data.newOrder.row id now ∈ (done ++ [d]).filterMap placed := by
      rw [List.filterMap_append]
      exact List.mem_append_right _ (List.mem_singleton_self _)
    have huncharged' : (done ++ [d]).filterMap charging = [] := by
      rw [List.filterMap_append, huncharged]
      rfl
    refine (monitored_settlePayment hplaced huncharged').mono fun done r h => ?_
    cases r with
    | error e => exact fun order h => by cases h
    | ok u =>
      refine monitored_publish _ fun r order horder => ?_
      obtain rfl := Except.ok.inj horder
      exact ⟨rfl, mem_later h.1 _, fun hpays => (h.2 rfl hpays).later _⟩

theorem monitored_create {data : CreateOrderData} (hasked : request.asked = some data) :
    Monitored Fits (Allowed request) (OrderService.create data)
      (fun done r => ∀ order, r = .ok order → Completes data done order) [] := by
  simp only [OrderService.create, monitored_bind]
  refine monitored_rpc _ _ fun r reservations => ?_
  change Monitored Fits _ (if reservations.success = true then _ else _) _ _
  split
  · rw [monitored_tryCatch]
    refine (monitored_placeOrder hasked rfl rfl).mono fun done r h => ?_
    cases r with
    | ok order => exact h
    | error e =>
      simp only [monitored_bind]
      exact monitored_rpc _ _ fun r reply order h => by cases h
  · exact fun order h => by cases h

theorem monitored_cancel {id : OrderId} {userId : UserId} (hrequest : request = .cancel id userId) :
    Monitored Fits (Allowed request) (OrderService.cancel id userId)
      (fun done r => ∀ order, r = .ok order → order.id = id ∧ order ∈ done.flatMap seen ∧
        ∃ own ∈ done.flatMap seen, own.id = id ∧ own.userId = userId) [] := by
  simp only [OrderService.cancel, OrderRepository.findById, OrderRepository.updateStatus,
    monitored_bind, monitored_perform]
  refine ⟨trivial, fun r hr => ?_⟩
  cases r with
  | error e => exact fun order h => by cases h
  | ok found =>
    cases found with
    | none => exact fun order h => by cases h
    | some found =>
      have hid : found.id = id := hr found (List.mem_singleton_self found)
      change Monitored Fits _ (if found.userId ≠ userId then _ else _) _ _
      split
      · exact fun order h => by cases h
      split
      · exact fun order h => by cases h
      next huser hstatus =>
      have huser' : found.userId = userId := not_not.mp huser
      simp only [monitored_bind]
      refine monitored_rpc _ _ fun r reply => ?_
      rw [monitored_perform]
      refine ⟨⟨userId, hrequest, found, by simp [seen], hid, huser'⟩, fun r hr => ?_⟩
      cases r with
      | error e => exact fun order h => by cases h
      | ok row =>
        refine monitored_publish _ fun r order horder => ?_
        obtain rfl := Except.ok.inj horder
        exact ⟨hr, by simp [seen], found, by simp [seen], hid, huser'⟩

theorem responds_failure (done : List OrderDoing) (message : String) :
    Responds request done (.failure 500 message) where
  shown found h := by cases h
  completes body _ h := absurd h (by decide : ¬ 500 < 300)

theorem monitored_guarded (rethrown : List ErrorClass) (fallback : String)
    {body : OrderM (ApiResponse OrderData)}
    (hbody : Monitored Fits (Allowed request) body
      (fun done r => ∀ response, r = .ok response → Responds request done response) []) :
    Monitored Fits (Allowed request) (OrderController.guarded rethrown fallback body)
      (fun done r => ∀ response, r = .ok response → Responds request done response) [] := by
  rw [OrderController.guarded, monitored_tryCatch]
  refine hbody.mono fun done r h => ?_
  cases r with
  | ok response => exact h
  | error e =>
    change Monitored Fits _ (if rethrown.any e.isInstance = true then _ else _) _ _
    split
    · exact fun response h => by cases h
    · intro response hresponse
      obtain rfl := Except.ok.inj hresponse
      exact responds_failure done _

theorem monitored_handler (zodMessage : List Issue → String) (request : ServiceRequest) :
    Monitored Fits (Allowed request) (request.handler zodMessage)
      (fun done r => ∀ response, r = .ok response → Responds request done response) [] := by
  cases request with
  | list userId =>
    refine monitored_guarded _ _ ?_
    change Monitored Fits _ (if userId = "" then _ else _) _ _
    split
    · exact fun response h => by cases h
    simp only [OrderService.getUserOrders, OrderRepository.findByUserId, monitored_bind,
      monitored_perform]
    refine ⟨trivial, fun r hr => ?_⟩
    cases r with
    | error e => exact fun response h => by cases h
    | ok orders =>
      intro response hresponse
      obtain rfl := Except.ok.inj hresponse
      refine ⟨fun found hfound row hrow => ?_, fun body hbody => by cases hbody⟩
      obtain rfl := Option.some.inj hfound
      have hmem : row ∈ orders := hrow
      have hseen : row ∈ ([] ++ [⟨.findMany userId, .ok orders⟩] : List OrderDoing).flatMap
          seen := by simpa [seen] using hmem
      exact ⟨hseen, row, hseen, rfl, congrArg some (hr row hrow).symm⟩
  | get id userId =>
    refine monitored_guarded _ _ ?_
    simp only [OrderService.getById, OrderRepository.findById, monitored_bind, monitored_perform]
    refine ⟨trivial, fun r hr => ?_⟩
    cases r with
    | error e => exact fun response h => by cases h
    | ok found =>
      cases found with
      | none => exact fun response h => by cases h
      | some order =>
        change Monitored Fits _ (if order.userId ≠ userId then _ else _) _ _
        split
        · exact fun response h => by cases h
        next huser =>
        intro response hresponse
        obtain rfl := Except.ok.inj hresponse
        refine ⟨fun found hfound row hrow => ?_, fun body hbody => by cases hbody⟩
        obtain rfl := Option.some.inj hfound
        obtain rfl := List.mem_singleton.mp hrow
        have hseen : row ∈ ([] ++ [⟨.findUnique id, .ok (some row)⟩] : List OrderDoing).flatMap
            seen := by simp [seen]
        exact ⟨hseen, row, hseen, rfl, congrArg some (not_not.mp huser).symm⟩
  | create body =>
    refine monitored_guarded _ _ ?_
    cases hparse : Schema.parse OrderController.createOrderSchema body with
    | error found => exact fun response h => by cases h
    | ok data =>
      have hasked : (ServiceRequest.create body).asked = some (.ofFields data) := by
        rw [ServiceRequest.asked, hparse]
        rfl
      simp only [monitored_bind]
      refine (monitored_create hasked).mono fun done r h => ?_
      cases r with
      | error e => exact fun response h => by cases h
      | ok order =>
        intro response hresponse
        obtain rfl := Except.ok.inj hresponse
        have hcompletes := h order rfl
        refine ⟨fun found hfound row hrow => ?_, fun _ _ _ => ?_⟩
        · obtain rfl := Option.some.inj hfound
          obtain rfl := List.mem_singleton.mp hrow
          have hseen := mem_seen_of_placed hcompletes.placed
          refine ⟨hseen, row, hseen, rfl, ?_⟩
          rw [ServiceRequest.userId, hasked, hcompletes.userId]
          rfl
        · exact ⟨.ofFields data, order, hasked, rfl, hcompletes⟩
  | cancel id userId =>
    refine monitored_guarded _ _ ?_
    simp only [monitored_bind]
    refine (monitored_cancel rfl).mono fun done r h => ?_
    cases r with
    | error e => exact fun response h => by cases h
    | ok order =>
      intro response hresponse
      obtain rfl := Except.ok.inj hresponse
      obtain ⟨hid, hseen, own, hown, hown', huser⟩ := h order rfl
      refine ⟨fun found hfound row hrow => ?_, fun body hbody => by cases hbody⟩
      obtain rfl := Option.some.inj hfound
      obtain rfl := List.mem_singleton.mp hrow
      exact ⟨hseen, own, hown, hown'.trans hid.symm, congrArg some huser.symm⟩

end Handlers

end Ecommerce
