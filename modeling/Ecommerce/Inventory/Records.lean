import Ecommerce.Inventory.Effect
import Ecommerce.Lib.Triple

namespace Ecommerce

namespace InventoryTable

/-- The columns that the service reads or writes. -/
def stock (t : InventoryTable) : Stock := fun p => (t p).map (·.toInventoryRow)

/-- The rows of `t'` are those of `t`, whatever their counters, thresholds and time stamps. -/
def SameIds (t t' : InventoryTable) : Prop :=
  ∀ p, (t' p).map (fun row => (row.id, row.productId)) =
    (t p).map fun row => (row.id, row.productId)

theorem SameIds.db {t t' : InventoryTable} (h : t.SameIds t') (c : TableTurn) (op : InventoryOp) :
    t.SameIds (db c op t').2 := by
  obtain ⟨turn, now⟩ := c
  cases turn with
  | reject m => exact h
  | accept =>
    cases op with
    | findUnique q => exact h
    | update q data =>
      cases hrow : t' q with
      | none => simpa only [InventoryTable.db, hrow] using h
      | some row =>
        intro p
        simp only [InventoryTable.db, hrow]
        by_cases hp : p = q
        · subst hp
          rw [Function.update_self, ← h p, hrow]
          rfl
        · rw [Function.update_of_ne hp, h p]

end InventoryTable

/-- A statement that leaves the row of product `p` alone. -/
def InventoryOp.Spares (p : ProductId) : InventoryOp → Prop
  | .findUnique _ => True
  | .update q _ => q ≠ p

namespace InventoryService

/-- How a pass ends that the database lets through, by what it has taken: with every item, or at
the first one that it refuses. -/
inductive Outcome (items : List Item) (r : InventoryResponse) : List Item → Prop
  | granted : r.success → Outcome items r items
  | refused (taken : List Item) (item : Item) (rest : List Item) :
    items = taken ++ item :: rest → ¬ r.success →
    r.message = some (insufficientStock item.productId) → Outcome items r taken

theorem Outcome.cons {items taken : List Item} {r : InventoryResponse} (item : Item)
    (h : Outcome items r taken) : Outcome (item :: items) r (item :: taken) := by
  cases h with
  | granted hr => exact .granted hr
  | refused taken refused rest hitems hr hmessage =>
    exact .refused (item :: taken) refused rest (congrArg (item :: ·) hitems) hr hmessage

section Example

/-- One product with 5 units on hand and none reserved. -/
private def shelf : InventoryTable :=
  Function.update (fun _ => none) "a" (some ⟨⟨5, 0, 1⟩, "i", "a", 0⟩)

end Example

end InventoryService

end Ecommerce
