import Ecommerce.Inventory.Repository

namespace Ecommerce.InventoryService

def update (productId : ProductId) (data : InventoryUpdate) : InventoryM InventoryRow := do
  match ← InventoryRepository.update productId data with
  | none => throw (.notFound "Inventory not found")
  | some inventory => pure inventory

/-- `for (const item of items) await act(item.productId, item.quantity)`. -/
def forEach (act : ProductId → Int → InventoryM (Option InventoryRow)) : List Item → InventoryM Unit
  | [] => pure ()
  | item :: items => do
    let _ ← act item.productId item.quantity
    forEach act items

def insufficientStock (productId : ProductId) : String :=
  "Insufficient stock for product " ++ productId

def reserveLoop (results : List Item) : List Item → InventoryM InventoryResponse
  | [] => pure { success := true, reservations := some results }
  | item :: items => do
    match ← InventoryRepository.reserveStock item.productId item.quantity with
    | none => do
      forEach InventoryRepository.releaseStock results
      pure { success := false, message := some (insufficientStock item.productId) }
    | some _ => reserveLoop (results ++ [item]) items

def reserveStock (items : List Item) : InventoryM InventoryResponse := reserveLoop [] items

def releaseStock (items : List Item) : InventoryM InventoryResponse := do
  forEach InventoryRepository.releaseStock items
  pure { success := true }

def confirmReservation (items : List Item) : InventoryM InventoryResponse := do
  forEach InventoryRepository.confirmReservation items
  pure { success := true }

end Ecommerce.InventoryService
