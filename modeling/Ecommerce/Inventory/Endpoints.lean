import Ecommerce.Inventory.Messaging
import Ecommerce.Lib.Runs
import Ecommerce.Shared.Http

namespace Ecommerce

/-- The bodies that `reserveStockSchema` accepts. -/
structure ReserveStockBody where
  items : List Item
  uuid : ∀ item ∈ items, isUuid item.productId
  positive : Positive items

/-- The bodies that `updateInventorySchema` accepts. -/
structure UpdateInventoryBody where
  quantity : Option Int
  lowStockThreshold : Option Int
  nonnegative : ∀ n ∈ quantity, 0 ≤ n
  positive : ∀ n ∈ lowStockThreshold, 0 < n

def UpdateInventoryBody.data (body : UpdateInventoryBody) : InventoryUpdate where
  quantity := body.quantity.elim .keep .set
  lowStockThreshold := body.lowStockThreshold.elim .keep .set

/-! The handlers of the controller, from the body their schema has accepted. -/
namespace InventoryController

def update (productId : ProductId) (body : UpdateInventoryBody) :
    InventoryM (ApiResponse InventoryRow) :=
  Prog.tryCatch
    (do
      let inventory ← InventoryService.update productId body.data
      pure (.success 200 "Inventory updated successfully" inventory))
    fun err =>
      if err.isInstance .notFound then throw err
      else pure (.failure 500 (orFallback err.message "Failed to update inventory"))

def reserveStock (body : ReserveStockBody) : InventoryM (ApiResponse InventoryResponse) :=
  Prog.tryCatch
    (do
      let result ← InventoryService.reserveStock body.items
      if result.success then
        pure (.success 200 "Stock reserved successfully" result)
      else
        pure (.failure 400 (orFallback (result.message.getD "") "Failed to reserve stock")))
    fun err => pure (.failure 500 (orFallback err.message "Failed to reserve stock"))

def releaseStock (body : ReserveStockBody) : InventoryM (ApiResponse InventoryResponse) :=
  Prog.tryCatch
    (do
      let result ← InventoryService.releaseStock body.items
      pure (.success 200 "Stock released successfully" result))
    fun err => pure (.failure 500 (orFallback err.message "Failed to release stock"))

end InventoryController

/-- The requests that write the table. -/
inductive InventoryRequest
  | postReserve (body : ReserveStockBody)
  | postRelease (body : ReserveStockBody)
  | put (productId : ProductId) (body : UpdateInventoryBody)
  | rpc (queue : InventoryQueue) (items : List Item)

namespace InventoryRequest

/-- The table after the request has been executed to completion. -/
def serve (s : Stock) : InventoryRequest → Stock
  | .postReserve body => ((InventoryController.reserveStock body).run (Stock.db .accept) s).2
  | .postRelease body => ((InventoryController.releaseStock body).run (Stock.db .accept) s).2
  | .put p body => ((InventoryController.update p body).run (Stock.db .accept) s).2
  | .rpc queue items => ((InventoryMessaging.handler queue items).run (Stock.db .accept) s).2

/-- RPC payloads are not validated by the service; the schemas speak for the HTTP bodies. -/
def Accepted : InventoryRequest → Prop
  | .rpc _ items => Positive items
  | _ => True

open InventoryService in
theorem serve_rpc (s : Stock) (queue : InventoryQueue) (items : List Item) :
    serve s (.rpc queue items) = match queue with
      | .reserve => if grants s items then s.shift 0 (demand items) else s
      | .release => s.shift 0 (-demand (s.reached items))
      | .confirm => s.shift (-demand (s.reached items)) (-demand (s.reached items)) := by
  cases queue with
  | reserve =>
    obtain ⟨r, hrun, hgrants, -⟩ := run_reserveStock s items
    rw [serve, InventoryMessaging.handler, InventoryMessaging.answer,
      Prog.run_tryCatch_state _ _ (fun _ _ => rfl), hrun, hgrants]
  | release =>
    rw [serve, InventoryMessaging.handler, InventoryMessaging.answer,
      Prog.run_tryCatch_state _ _ (fun _ _ => rfl), run_releaseStock_state]
  | confirm =>
    rw [serve, InventoryMessaging.handler, InventoryMessaging.answer,
      Prog.run_tryCatch_state _ _ (fun _ _ => rfl), run_confirmReservation_state]

/-- The HTTP endpoints write what the RPCs write. -/
theorem serve_postReserve (s : Stock) (body : ReserveStockBody) :
    serve s (.postReserve body) = serve s (.rpc .reserve body.items) := by
  simp only [serve, InventoryController.reserveStock, InventoryMessaging.handler,
    InventoryMessaging.answer]
  rw [Prog.run_tryCatch_state _ _ (fun _ _ => rfl), Prog.run_tryCatch_state _ _ (fun _ _ => rfl),
    Prog.run_bind_state]
  intro result s'
  cases result.success <;> rfl

theorem serve_postRelease (s : Stock) (body : ReserveStockBody) :
    serve s (.postRelease body) = serve s (.rpc .release body.items) := by
  simp only [serve, InventoryController.releaseStock, InventoryMessaging.handler,
    InventoryMessaging.answer]
  rw [Prog.run_tryCatch_state _ _ (fun _ _ => rfl), Prog.run_tryCatch_state _ _ (fun _ _ => rfl),
    Prog.run_bind_state _ _ (fun _ _ => rfl)]

theorem serve_put (s : Stock) (p : ProductId) (body : UpdateInventoryBody) :
    serve s (.put p body) = match s p with
      | none => s
      | some row => Function.update s p (some (body.data.apply row)) := by
  have hcatch : ∀ (err : Error) (s' : Stock), (Prog.run (Stock.db .accept)
      (if err.isInstance .notFound then throw err
        else pure (.failure 500 (orFallback err.message "Failed to update inventory")) :
          InventoryM (ApiResponse InventoryRow)) s').2 = s' := by
    intro err s'
    split <;> rfl
  rw [serve, InventoryController.update, Prog.run_tryCatch_state _ _ hcatch,
    Prog.run_bind_state _ _ (fun _ _ => rfl)]
  change (Prog.run (Stock.db .accept) (.await (.update p body.data) _) s).2 = _
  cases hrow : s p with
  | none => simp only [Prog.run, Stock.db, hrow]; rfl
  | some row => simp only [Prog.run, Stock.db, hrow]; rfl

end InventoryRequest

/-- Both counters within bounds, in every row. -/
def Bounded (s : Stock) : Prop :=
  ∀ p row, s p = some row → 0 ≤ row.reservedQuantity ∧ row.reservedQuantity ≤ row.quantity

def Covered (s : Stock) (items : List Item) : Prop :=
  ∀ p row, s p = some row → demand items p ≤ row.reservedQuantity

section Bounds

variable {s : Stock} {items : List Item}

theorem bounded_shift_iff {a b : ProductId → Int} :
    Bounded (s.shift a b) ↔ ∀ p row, s p = some row →
      0 ≤ row.reservedQuantity + b p ∧ row.reservedQuantity + b p ≤ row.quantity + a p := by
  constructor
  · intro h p row hrow
    exact h p _ (Stock.shift_of_some hrow a b)
  · intro h p row hrow
    obtain ⟨row₀, hrow₀, hq, hr⟩ := Stock.exists_of_shift hrow
    rw [hq, hr]
    exact h p row₀ hrow₀

theorem bounded_release_iff (hs : Bounded s) (hpos : Positive items) :
    Bounded (s.shift 0 (-demand items)) ↔ Covered s items := by
  rw [bounded_shift_iff]
  apply forall₃_congr
  intro p row hrow
  have hbounds := hs p row hrow
  have hnonneg := hpos.demand_nonneg p
  simp only [Pi.neg_apply, Pi.zero_apply]
  omega

theorem bounded_confirm_iff (hs : Bounded s) :
    Bounded (s.shift (-demand items) (-demand items)) ↔ Covered s items := by
  rw [bounded_shift_iff]
  apply forall₃_congr
  intro p row hrow
  have hbounds := hs p row hrow
  simp only [Pi.neg_apply]
  omega

theorem bounded_reserve (hs : Bounded s) (hpos : Positive items)
    (h : InventoryService.grants s items) : Bounded (s.shift 0 (demand items)) := by
  rw [bounded_shift_iff]
  intro p row hrow
  have hbounds := hs p row hrow
  have hnonneg := hpos.demand_nonneg p
  have hle : demand items p ≤ row.quantity - row.reservedQuantity := by
    by_cases hp : ∃ item ∈ items, item.productId = p
    · obtain ⟨item, hi, rfl⟩ := hp
      obtain ⟨row', hrow', hle⟩ := (InventoryService.grants_iff hpos).mp h item hi
      obtain rfl : row' = row := Option.some.inj (hrow'.symm.trans hrow)
      exact hle
    · have hzero := demand_eq_zero_of_notMem fun item hi heq => hp ⟨item, hi, heq⟩
      omega
  simp only [Pi.zero_apply]
  omega

end Bounds

namespace InventoryRequest

/-- A release or confirmation asks for no more than what is reserved, and a new `quantity` is
no less. -/
def Harmless (s : Stock) : InventoryRequest → Prop
  | .postReserve _ => True
  | .postRelease body => Covered s (s.reached body.items)
  | .put p body => ∀ row ∈ s p, ∀ n ∈ body.quantity, row.reservedQuantity ≤ n
  | .rpc .reserve _ => True
  | .rpc .release items => Covered s (s.reached items)
  | .rpc .confirm items => Covered s (s.reached items)

theorem bounded_rpc_iff {s : Stock} (hs : Bounded s) (queue : InventoryQueue) {items : List Item}
    (hpos : Positive items) :
    Bounded (serve s (.rpc queue items)) ↔ Harmless s (.rpc queue items) := by
  rw [serve_rpc]
  cases queue with
  | reserve =>
    refine iff_of_true ?_ trivial
    by_cases h : InventoryService.grants s items = true
    · simpa only [if_pos h] using bounded_reserve hs hpos h
    · simpa only [if_neg h] using hs
  | release => exact bounded_release_iff hs (hpos.reached s)
  | confirm => exact bounded_confirm_iff hs

theorem bounded_put_iff {s : Stock} (hs : Bounded s) (p : ProductId) (body : UpdateInventoryBody) :
    Bounded (serve s (.put p body)) ↔ Harmless s (.put p body) := by
  rw [serve_put]
  cases hrow : s p with
  | none => simpa [Harmless, hrow] using hs
  | some row =>
    have hbounds := hs p row hrow
    have hdata : (body.data.apply row).reservedQuantity = row.reservedQuantity := rfl
    have hquantity : (body.data.apply row).quantity = body.quantity.getD row.quantity := by
      rcases body with ⟨_ | n, _, _, _⟩ <;> rfl
    constructor
    · intro h row' hrow' n hn
      obtain rfl : row' = row := Option.some.inj (hrow'.symm.trans hrow)
      have hp := (h p _ (Function.update_self ..)).2
      rw [hdata, hquantity, hn, Option.getD_some] at hp
      exact hp
    · intro h q row' hrow'
      by_cases hq : q = p
      · subst hq
        obtain rfl : body.data.apply row = row' := by simpa using hrow'
        rw [hdata, hquantity]
        refine ⟨hbounds.1, ?_⟩
        cases hn : body.quantity with
        | none => exact hbounds.2
        | some n => exact h row hrow n hn
      · exact hs q row' (by simpa [hq] using hrow')

/-- One request keeps the bounds exactly when it is harmless. -/
theorem bounded_serve_iff {s : Stock} (hs : Bounded s) {req : InventoryRequest}
    (hreq : req.Accepted) : Bounded (serve s req) ↔ Harmless s req := by
  cases req with
  | postReserve body =>
    rw [serve_postReserve]
    exact bounded_rpc_iff hs .reserve body.positive
  | postRelease body =>
    rw [serve_postRelease]
    exact bounded_rpc_iff hs .release body.positive
  | put p body => exact bounded_put_iff hs p body
  | rpc queue items => exact bounded_rpc_iff hs queue hreq

end InventoryRequest

/-- A run of accepted requests keeps the counters within bounds exactly when every release and
confirmation is covered by reservations and no `PUT` goes below them. -/
theorem bounded_always_iff {s : Stock} (hs : Bounded s) {reqs : List InventoryRequest}
    (hreqs : ∀ req ∈ reqs, req.Accepted) :
    Runs.Always InventoryRequest.serve Bounded s reqs ↔
      Runs.Along InventoryRequest.serve InventoryRequest.Harmless s reqs :=
  Runs.always_iff_along (J := fun _ => True) (Q := fun _ req => req.Accepted)
    (fun _ _ hs _ hreq => InventoryRequest.bounded_serve_iff hs hreq) (fun _ _ _ _ _ _ => trivial)
    hs trivial (Runs.along_of_forall hreqs)

section Example

/-- Five units of one product, two of them reserved. -/
private def shelf : Stock := .single "6f1e8f7c-0a53-4b53-9a43-0d3a9f1f2b10" ⟨5, 2, 10⟩

private def threeUnits : ReserveStockBody where
  items := [⟨"6f1e8f7c-0a53-4b53-9a43-0d3a9f1f2b10", 3⟩]
  uuid := by decide
  positive := by decide

private def stockTake : UpdateInventoryBody where
  quantity := some 1
  lowStockThreshold := none
  nonnegative := by simp
  positive := by simp

private theorem bounded_shelf : Bounded shelf := by
  intro p row h
  by_cases hp : p = "6f1e8f7c-0a53-4b53-9a43-0d3a9f1f2b10"
  · subst hp
    obtain rfl : ⟨5, 2, 10⟩ = row := by simpa [shelf, Stock.single] using h
    decide
  · simp [shelf, Stock.single, hp] at h

theorem bounded_always_iff_shelf :
    Runs.Always InventoryRequest.serve Bounded shelf
        [.postReserve threeUnits, .rpc .release threeUnits.items] ↔
      Runs.Along InventoryRequest.serve InventoryRequest.Harmless shelf
        [.postReserve threeUnits, .rpc .release threeUnits.items] :=
  bounded_always_iff bounded_shelf (by
    intro req hreq
    rcases List.mem_cons.mp hreq with rfl | hreq
    · trivial
    · obtain rfl := List.mem_singleton.mp hreq
      exact threeUnits.positive)

/-- Releasing three units where two are reserved, or a stock take that finds one, leaves the
bounds. -/
theorem not_bounded_always_shelf :
    Bounded shelf ∧
    ¬ Runs.Always InventoryRequest.serve Bounded shelf [.postRelease threeUnits] ∧
    ¬ Runs.Always InventoryRequest.serve Bounded shelf
      [.put "6f1e8f7c-0a53-4b53-9a43-0d3a9f1f2b10" stockTake] := by
  refine ⟨bounded_shelf, fun h => ?_, fun h => ?_⟩
  · have hrow := h.1 "6f1e8f7c-0a53-4b53-9a43-0d3a9f1f2b10" ⟨5, -1, 10⟩ (by decide)
    revert hrow
    decide
  · have hrow := h.1 "6f1e8f7c-0a53-4b53-9a43-0d3a9f1f2b10" ⟨1, 2, 10⟩ (by decide)
    revert hrow
    decide

end Example

end Ecommerce
