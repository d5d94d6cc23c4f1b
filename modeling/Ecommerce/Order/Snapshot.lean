import Ecommerce.Order.Privacy

namespace Ecommerce

/-- What the customer is shown of an order is what is stored of it. -/
structure SameOrder (order stored : Order) : Prop where
  status : stored.status = order.status
  paymentStatus : stored.paymentStatus = order.paymentStatus
  subtotal : stored.subtotal = order.subtotal
  tax : stored.tax = order.tax
  total : stored.total = order.total
  items : stored.items = order.items

theorem SameOrder.refl (order : Order) : SameOrder order order := ⟨rfl, rfl, rfl, rfl, rfl, rfl⟩

/-- The row of a new order, once its payment has been settled. -/
def CreateOrderData.stored (data : CreateOrderData) (order : Order) : Order :=
  if data.pays = none then order
  else { order with status := .confirmed, paymentStatus := .completed }

section Stored

variable {env env' : Script Turn} {data : CreateOrderData} {w w' : World} {order : Order}

variable (order) in
theorem Settles.find?_stored {total : Int} (h : Settles env data order.id total w (.ok ()) env' w')
    (hfind : w.orders.find? order.id = some order) :
    w'.orders.find? order.id = some (data.stored order) := by
  cases hpays : data.pays with
  | none =>
    rw [CreateOrderData.stored, if_pos hpays]
    cases h with
    | unpaid => exact hfind
    | confirmed hpaid => simp [hpays] at hpaid
  | some m =>
    rw [CreateOrderData.stored, if_neg (by simp [hpays])]
    exact h.confirmed_of_ok (by simp [hpays]) hfind

theorem Creates.stored {out : Except Error Order × World} (h : Creates env data w out)
    (hok : out.1 = .ok order) :
    order.userId = data.userId ∧ order.status = .pending ∧
      out.2.orders.find? order.id = some (data.stored order) := by
  cases h with
  | refused => cases hok
  | notInserted => cases hok
  | failed => cases hok
  | placed hreply hdb hinsert hsettle =>
    obtain rfl := Except.ok.inj hok
    refine ⟨rfl, rfl, ?_⟩
    rw [World.emit_orders]
    refine hsettle.find?_stored (data.newOrder.row (env 1).newId (env 1).now) ?_
    exact (Table.find?_insert hinsert _).trans (if_pos rfl)

theorem sameOrder_stored_iff (hpending : order.status = .pending) :
    SameOrder order (data.stored order) ↔ data.pays = none := by
  constructor
  · intro h
    by_contra hpays
    have hstatus := h.status
    rw [CreateOrderData.stored, if_neg hpays, hpending] at hstatus
    cases hstatus
  · intro hpays
    rw [CreateOrderData.stored, if_pos hpays]
    exact .refl order

end Stored

/-- What `create` resolves with is what `getById` reads right afterwards exactly when there was
nothing to pay. -/
theorem returned_iff {env env' : Script Turn} {data : CreateOrderData} {w : World} {order : Order}
    (hcreate : (Prog.play World.handle env (OrderService.create data) w).1 = .ok order)
    (hread : (env' 0).db = .accept) :
    (∃ stored, (Prog.play World.handle env' (OrderService.getById order.id data.userId)
        (Prog.play World.handle env (OrderService.create data) w).2).1 = .ok (some stored) ∧
      SameOrder order stored) ↔ data.pays = none := by
  obtain ⟨huser, hpending, hfind⟩ := (creates env w data).stored hcreate
  have howner : (data.stored order).userId = data.userId := by
    unfold CreateOrderData.stored
    split <;> exact huser
  have hgetById : (Prog.play World.handle env' (OrderService.getById order.id data.userId)
      (Prog.play World.handle env (OrderService.create data) w).2).1 =
        .ok (some (data.stored order)) := by
    rw [play_getById, World.query, hread, hfind]
    simp [Except.bind, howner]
  rw [hgetById, ← sameOrder_stored_iff hpending]
  simp

section Example

private def counter : World := .opening (.single "a" ⟨10, 0, 5⟩)

private def singleUnit (paymentMethodId : Option String) : CreateOrderData :=
  ⟨"u", [⟨"a", 1⟩], ⟨"", "", "", "", ""⟩, paymentMethodId⟩

private def captured : Script Turn := fun _ => .smooth (.answered ⟨"pi", "succeeded"⟩) "o"

theorem returned_iff_counter :
    (∃ stored, (Prog.play World.handle captured (OrderService.getById "o" "u")
        (Prog.play World.handle captured (OrderService.create (singleUnit none)) counter).2).1 =
          .ok (some stored) ∧
      SameOrder ((singleUnit none).newOrder.row "o" 0) stored) ↔ (singleUnit none).pays = none := by
  have hcreate : (Prog.play World.handle captured (OrderService.create (singleUnit none)) counter).1 =
      .ok ((singleUnit none).newOrder.row "o" 0) := rfl
  exact returned_iff hcreate rfl

/-- The paid order is stored as `CONFIRMED` and `COMPLETED`, and returned as `PENDING`. -/
theorem not_returned_counter :
    (Prog.play World.handle captured (OrderService.create (singleUnit (some "card"))) counter).1 =
        .ok ((singleUnit (some "card")).newOrder.row "o" 0) ∧
      ¬ ∃ stored, (Prog.play World.handle captured (OrderService.getById "o" "u")
          (Prog.play World.handle captured (OrderService.create (singleUnit (some "card"))) counter).2).1 =
            .ok (some stored) ∧
        SameOrder ((singleUnit (some "card")).newOrder.row "o" 0) stored := by
  refine ⟨by decide, ?_⟩
  rintro ⟨stored, hread, hsame⟩
  obtain rfl := Option.some.inj (Except.ok.inj hread)
  exact absurd hsame.status (by decide)

end Example

end Ecommerce
