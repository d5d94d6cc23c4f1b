import Ecommerce.Inventory.Failure
import Ecommerce.Lib.Runs
import Mathlib.Tactic.Abel

/-! Deliveries of the inventory requests, some of them repeated: a message that was not acked when
its channel closed is delivered again, and nothing in it or in the table tells that it was there
before. -/

namespace Ecommerce

open InventoryMessaging Runs

/-- A delivery of message `message`; where its consumer stops after some statements, the message is
delivered again. -/
structure RpcDelivery (M : Type) where
  message : M
  db : Script DbTurn
  stopsAfter : Option Nat := none

namespace RpcDelivery

variable {M : Type}

def leaves (content : M → InventoryQueue × List Item) (d : RpcDelivery M) (s : Stock) : Stock :=
  match d.stopsAfter with
  | none => (exec d.db (content d.message).1 (content d.message).2 s).2
  | some n => Prog.stop Stock.db n d.db (handler (content d.message).1 (content d.message).2) s

def database (d : RpcDelivery M) : Script DbTurn :=
  match d.stopsAfter with
  | none => d.db
  | some n => fun k => if k < n then d.db k else .reject ""

def Finished (content : M → InventoryQueue × List Item) (d : RpcDelivery M) (s : Stock) : Prop :=
  ∀ n ∈ d.stopsAfter,
    Prog.operations Stock.db d.db (handler (content d.message).1 (content d.message).2) s ≤ n

structure Handled (d : RpcDelivery M) : Prop where
  db : ∀ n, d.db n = .accept
  stopsAfter : d.stopsAfter = none

end RpcDelivery

/-- The messages that have been delivered, the table, and the table of the run in which each
message is executed once, at its first delivery. -/
structure Deliveries (M : Type) where
  seen : List M
  table : Stock
  once : Stock

namespace Deliveries

variable {M : Type}

def init (s : Stock) : Deliveries M := ⟨[], s, s⟩

/-- The counters of every product are those of the run without repetitions. -/
def Agrees (r : Deliveries M) : Prop :=
  ∀ p, r.table.onHand p = r.once.onHand p ∧ r.table.reserved p = r.once.reserved p

variable [DecidableEq M] (content : M → InventoryQueue × List Item)

def deliver (r : Deliveries M) (d : RpcDelivery M) : Deliveries M where
  seen := d.message :: r.seen
  table := d.leaves content r.table
  once :=
    if d.message ∈ r.seen then r.once
    else (exec d.db (content d.message).1 (content d.message).2 r.once).2

def Quiet (r : Deliveries M) (d : RpcDelivery M) : Prop :=
  if d.message ∈ r.seen then Idle d.database r.table (content d.message).1 (content d.message).2
  else d.Finished content r.table

variable {content} {r : Deliveries M}

section Extremes

def moves (grant : Bool) : InventoryQueue × List Item → (ProductId → Int) × (ProductId → Int)
  | (.reserve, items) => (0, if grant then demand items else 0)
  | (.release, items) => (0, -demand items)
  | (.confirm, items) => (-demand items, -demand items)

theorem moves_bounds (grant : Bool) {request : InventoryQueue × List Item}
    (hpos : Positive request.2) (p : ProductId) :
    -demand request.2 p ≤ (moves grant request).1 p - (moves grant request).2 p ∧
      (moves grant request).1 p - (moves grant request).2 p ≤ demand request.2 p := by
  have hnonneg := hpos.demand_nonneg p
  obtain ⟨queue, items⟩ := request
  cases queue <;> cases grant <;> simp [moves] at hnonneg ⊢ <;> omega

/-- There is enough for all of `items`, or nothing even once they are all released. -/
def Extreme (grant : Bool) (items : List Item) (s : Stock) : Prop :=
  ∀ p row, s p = some row →
    if grant then demand items p ≤ row.availableStock else row.availableStock ≤ -demand items p

theorem Extreme.shift {grant : Bool} {items rest : List Item} {s : Stock}
    (h : Extreme grant (items ++ rest) s) {a b : ProductId → Int}
    (hlow : ∀ p, -demand items p ≤ a p - b p) (hhigh : ∀ p, a p - b p ≤ demand items p) :
    Extreme grant rest (s.shift a b) := by
  intro p row hrow
  obtain ⟨row₀, hrow₀, hquantity, hreserved⟩ := Stock.exists_of_shift hrow
  have hrow' := h p row₀ hrow₀
  have hlow := hlow p
  have hhigh := hhigh p
  rw [demand_append, Pi.add_apply] at hrow'
  simp only [InventoryRow.availableStock, hquantity, hreserved] at hrow' ⊢
  cases grant
  · simp only [Bool.false_eq_true, if_false] at hrow' ⊢
    omega
  · simp only [if_true] at hrow' ⊢
    omega

variable (content) in
def itemsOf (deliveries : List (RpcDelivery M)) : List Item :=
  deliveries.flatMap fun d => (content d.message).2

variable (content) in
/-- Whatever the deliveries before it have moved, each finds enough for all of them, or nothing. -/
structure Fit (grant : Bool) (deliveries : List (RpcDelivery M)) (s : Stock) : Prop where
  handled : ∀ d ∈ deliveries, d.Handled ∧ Positive (content d.message).2
  stocked : ∀ d ∈ deliveries, s.Stocked (content d.message).2
  extreme : Extreme grant (itemsOf content deliveries) s

namespace Fit

omit [DecidableEq M]

variable {grant : Bool} {d : RpcDelivery M} {deliveries : List (RpcDelivery M)} {s : Stock}

theorem demand_nonneg (h : Fit content grant deliveries s) (p : ProductId) :
    0 ≤ demand (itemsOf content deliveries) p := by
  refine Positive.demand_nonneg (fun item hitem => ?_) p
  obtain ⟨d, hd, hitem⟩ := List.mem_flatMap.mp hitem
  exact (h.handled d hd).2 item hitem

theorem of_shift (h : Fit content grant (d :: deliveries) s) {a b : ProductId → Int}
    (hlow : ∀ p, -demand (content d.message).2 p ≤ a p - b p)
    (hhigh : ∀ p, a p - b p ≤ demand (content d.message).2 p) :
    Fit content grant deliveries (s.shift a b) where
  handled d' hd' := h.handled d' (List.mem_cons_of_mem d hd')
  stocked d' hd' := (Stock.stocked_shift ..).mpr (h.stocked d' (List.mem_cons_of_mem d hd'))
  extreme := h.extreme.shift hlow hhigh

theorem tail (h : Fit content grant (d :: deliveries) s) : Fit content grant deliveries s := by
  have hnonneg := (h.handled d List.mem_cons_self).2.demand_nonneg
  have hshift := h.of_shift (a := 0) (b := 0) (fun p => by simpa using hnonneg p)
    fun p => by simpa using hnonneg p
  rwa [Stock.shift_zero] at hshift

theorem next (h : Fit content grant (d :: deliveries) s) :
    Fit content grant deliveries
      (s.shift (moves grant (content d.message)).1 (moves grant (content d.message)).2) := by
  have hbounds := moves_bounds grant (h.handled d List.mem_cons_self).2
  exact h.of_shift (fun p => (hbounds p).1) fun p => (hbounds p).2

end Fit

end Extremes

section Example

end Example

end Deliveries

end Ecommerce
