import Mathlib.Algebra.Ring.Pi
import Mathlib.Algebra.Order.Ring.Int

namespace Ecommerce

abbrev ProductId := String

structure Item where
  productId : ProductId
  quantity : Int
  deriving DecidableEq, Repr

/-- `ReserveStockResponse`, `ReleaseStockResponse` and `ConfirmReservationResponse`; only the
first ever carries `reservations`. -/
structure InventoryResponse where
  success : Bool
  message : Option String := none
  reservations : Option (List Item) := none
  deriving DecidableEq, Repr

inductive InventoryQueue
  | reserve
  | release
  | confirm
  deriving DecidableEq, Repr

def InventoryQueue.name : InventoryQueue → String
  | .reserve => "inventory.reserve.rpc"
  | .release => "inventory.release.rpc"
  | .confirm => "inventory.confirm.rpc"

/-- How much of each product a list of items adds up to. -/
def demand : List Item → ProductId → Int
  | [], _ => 0
  | item :: items, p => (if p = item.productId then item.quantity else 0) + demand items p

@[simp] theorem demand_nil : demand [] = 0 := rfl

theorem demand_cons (item : Item) (items : List Item) :
    demand (item :: items) = demand [item] + demand items := by
  funext p
  simp [demand]

@[simp] theorem demand_append (xs ys : List Item) : demand (xs ++ ys) = demand xs + demand ys := by
  induction xs with
  | nil => simp
  | cons item xs ih => rw [List.cons_append, demand_cons, ih, demand_cons item xs, add_assoc]

@[simp] theorem demand_singleton_self (item : Item) :
    demand [item] item.productId = item.quantity := by simp [demand]

theorem demand_singleton_of_ne {item : Item} {p : ProductId} (h : p ≠ item.productId) :
    demand [item] p = 0 := by simp [demand, h]

def Positive (items : List Item) : Prop := ∀ item ∈ items, 0 < item.quantity

instance (items : List Item) : Decidable (Positive items) :=
  inferInstanceAs (Decidable (∀ item ∈ items, 0 < item.quantity))

theorem Positive.tail {item : Item} {items : List Item} (h : Positive (item :: items)) :
    Positive items := fun i hi => h i (List.mem_cons_of_mem item hi)

theorem Positive.demand_nonneg {items : List Item} (h : Positive items) (p : ProductId) :
    0 ≤ demand items p := by
  induction items with
  | nil => exact le_rfl
  | cons item items ih =>
    have hitem := h item List.mem_cons_self
    have htail := ih h.tail
    simp only [demand]
    split <;> omega

theorem demand_pos_of_mem {items : List Item} (h : Positive items) {item : Item}
    (hmem : item ∈ items) : 0 < demand items item.productId := by
  induction items with
  | nil => simp at hmem
  | cons i items ih =>
    have hi := h i List.mem_cons_self
    have htail := h.tail.demand_nonneg item.productId
    rcases List.mem_cons.mp hmem with rfl | hmem
    · simp only [demand, if_true]
      omega
    · have := ih h.tail hmem
      simp only [demand]
      split <;> omega

theorem Positive.demand_eq_zero_iff {items : List Item} (h : Positive items) :
    (∀ p, demand items p = 0) ↔ items = [] := by
  constructor
  · intro hzero
    cases items with
    | nil => rfl
    | cons item items =>
      have hpos := demand_pos_of_mem h (List.mem_cons_self (a := item))
      rw [hzero] at hpos
      exact absurd hpos (lt_irrefl 0)
  · rintro rfl p
    rfl

theorem demand_eq_zero_of_notMem {items : List Item} {p : ProductId}
    (h : ∀ item ∈ items, item.productId ≠ p) : demand items p = 0 := by
  induction items with
  | nil => rfl
  | cons item items ih =>
    have hne : p ≠ item.productId := fun e => h item List.mem_cons_self e.symm
    simp [demand, hne, ih fun i hi => h i (List.mem_cons_of_mem item hi)]

end Ecommerce
