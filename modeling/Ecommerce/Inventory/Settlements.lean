import Ecommerce.Inventory.Records
import Ecommerce.Lib.Pool

namespace Ecommerce

open InventoryService

inductive Settlement
  | release (items : List Item)
  | confirm (items : List Item)

namespace Settlement

def items : Settlement → List Item
  | .release items => items
  | .confirm items => items

def program : Settlement → InventoryM InventoryResponse
  | .release items => releaseStock items
  | .confirm items => confirmReservation items

def released : Settlement → ProductId → Int
  | .release items => demand items
  | .confirm _ => 0

def confirmed : Settlement → ProductId → Int
  | .release _ => 0
  | .confirm items => demand items

def rest : Settlement → Settlement
  | .release items => .release items.tail
  | .confirm items => .confirm items.tail

/-- What the first item of the call moves. -/
def next : Settlement → Settlement
  | .release items => .release (items.take 1)
  | .confirm items => .confirm (items.take 1)

def settle (call : Settlement) (s : Stock) : Stock :=
  s.shift (-call.confirmed) (-(call.released + call.confirmed))

/-- One update, if there is one left to make. -/
def step (call : Settlement) (s : Stock) : Settlement × Stock := (call.rest, call.next.settle s)

theorem step_forEach {act : ProductId → Int → InventoryM (Option InventoryRow)} {cq cr : Int}
    (hact : Adjusts act cq cr) (r : InventoryResponse) {s : Stock} {item : Item} (items : List Item)
    (hrow : (s item.productId).isSome) :
    Prog.step (Stock.db .accept) (do forEach act (item :: items); pure r) s =
      (do forEach act items; pure r, s.shift (cq • demand [item]) (cr • demand [item])) := by
  obtain ⟨row, hrow⟩ := Option.isSome_iff_exists.mp hrow
  obtain ⟨data, hdata, happly⟩ := hact item.productId item.quantity
  change Prog.step _ (((act item.productId item.quantity).bind fun _ => forEach act items).bind _) s = _
  rw [hdata]
  change Prog.step _ (.await (InventoryOp.update item.productId data) _) s = _
  rw [Prog.step_await]
  simp only [Stock.db, hrow, update_eq_shift_demand hrow happly]
  rfl

theorem settle_next_nil {call : Settlement} (h : call.items = []) (s : Stock) :
    call.next.settle s = s := by
  cases call <;>
  · obtain rfl := h
    simp [next, settle, released, confirmed]

theorem step_program (call : Settlement) {s : Stock} (hstocked : s.Stocked call.items) :
    call.program.step (Stock.db .accept) s = ((call.step s).1.program, (call.step s).2) := by
  cases call with
  | release items =>
    cases items with
    | nil => exact Prod.ext rfl (settle_next_nil rfl s).symm
    | cons item items =>
      refine (step_forEach adjusts_releaseStock _ items (hstocked item List.mem_cons_self)).trans ?_
      simp [step, rest, next, settle, program, released, confirmed, releaseStock]
  | confirm items =>
    cases items with
    | nil => exact Prod.ext rfl (settle_next_nil rfl s).symm
    | cons item items =>
      refine (step_forEach adjusts_confirmReservation _ items (hstocked item List.mem_cons_self)).trans ?_
      simp [step, rest, next, settle, program, released, confirmed, confirmReservation]

end Settlement

abbrev SettlementPool := Pool (InventoryM InventoryResponse) Stock

def SettlementPool.start (s : Stock) (calls : List Settlement) : SettlementPool :=
  ⟨calls.map Settlement.program, s⟩

def SettlementPool.turn (pool : SettlementPool) (i : Nat) : SettlementPool :=
  Pool.turn (fun c p s => Prog.step (Stock.db c) p s) pool (i, .accept)

namespace SettlementPool

open Settlement

def stage (pool : Pool Settlement Stock) (i : Nat) : Pool Settlement Stock :=
  Pool.turn (fun _ call s => call.step s) pool (i, DbTurn.accept)

def settled (pool : Pool Settlement Stock) : Stock :=
  pool.state.shift (-Pool.total confirmed pool.threads)
    (-(Pool.total released pool.threads + Pool.total confirmed pool.threads))

def Stocked (pool : Pool Settlement Stock) : Prop :=
  ∀ call ∈ pool.threads, pool.state.Stocked call.items

theorem turn_program {pool : Pool Settlement Stock} (h : Stocked pool) (i : Nat) :
    turn (pool.map program) i = (stage pool i).map program :=
  Pool.turn_map fun call hcall => step_program call (h call hcall)

end SettlementPool

abbrev SettlementTable := Pool (InventoryM InventoryResponse) InventoryTable

namespace SettlementTable

def start (t : InventoryTable) (calls : List Settlement) : SettlementTable :=
  ⟨calls.map Settlement.program, t⟩

def turn (pool : SettlementTable) (t : Nat × Int) : SettlementTable :=
  Pool.turn (fun now p t => Prog.step (InventoryTable.db (.accept, now)) p t) pool t

end SettlementTable

section Example

end Example

end Ecommerce
