import Ecommerce.Lib.Async
import Ecommerce.Shared.Errors
import Ecommerce.Shared.Messages

namespace Ecommerce

/-- The columns of an `Inventory` row that the service reads or writes. -/
structure InventoryRow where
  quantity : Int
  reservedQuantity : Int
  lowStockThreshold : Int
  deriving DecidableEq, Repr

structure InventoryRecord extends InventoryRow where
  id : String
  productId : ProductId
  updatedAt : Int
  deriving DecidableEq, Repr

def InventoryRow.availableStock (row : InventoryRow) : Int := row.quantity - row.reservedQuantity

/-- What the service sees of the `inventory` table, looked up by its unique `productId`. -/
abbrev Stock := ProductId → Option InventoryRow

/-- An integer column in the `data` of a Prisma update. -/
inductive IntUpdate
  | keep
  | set (n : Int)
  | increment (n : Int)
  | decrement (n : Int)

def IntUpdate.apply : IntUpdate → Int → Int
  | .keep, m => m
  | .set n, _ => n
  | .increment n, m => m + n
  | .decrement n, m => m - n

/-- What it adds, where it does not overwrite. -/
def IntUpdate.change : IntUpdate → Int
  | .keep | .set _ => 0
  | .increment n => n
  | .decrement n => -n

structure InventoryUpdate where
  quantity : IntUpdate := .keep
  reservedQuantity : IntUpdate := .keep
  lowStockThreshold : IntUpdate := .keep

def InventoryUpdate.apply (data : InventoryUpdate) (row : InventoryRow) : InventoryRow where
  quantity := data.quantity.apply row.quantity
  reservedQuantity := data.reservedQuantity.apply row.reservedQuantity
  lowStockThreshold := data.lowStockThreshold.apply row.lowStockThreshold

/-- The statements sent to the `inventory` table; each one is atomic. -/
inductive InventoryOp
  | findUnique (productId : ProductId)
  | update (productId : ProductId) (data : InventoryUpdate)

abbrev InventoryOp.Res : InventoryOp → Type
  | .findUnique _ => Option InventoryRow
  | .update _ _ => InventoryRow

/-- Whether the database executes a statement or rejects it. -/
inductive DbTurn
  | accept
  | reject (message : String)
  deriving DecidableEq, Repr

def recordNotFound : Error := .plain "Record to update not found."

def Stock.db : DbTurn → Handler InventoryOp InventoryOp.Res Error Stock
  | .reject m, _, s => (.error (.plain m), s)
  | .accept, .findUnique p, s => (.ok (s p), s)
  | .accept, .update p data, s =>
    match s p with
    | none => (.error recordNotFound, s)
    | some row => (.ok (data.apply row), Function.update s p (some (data.apply row)))

abbrev InventoryTable := ProductId → Option InventoryRecord

abbrev TableTurn := DbTurn × Int

/-- `updatedAt` is marked `@updatedAt`: every update sets it to the clock. -/
def InventoryUpdate.applyAt (data : InventoryUpdate) (now : Int) (row : InventoryRecord) :
    InventoryRecord :=
  { row with toInventoryRow := data.apply row.toInventoryRow, updatedAt := now }

namespace InventoryTable

def db : TableTurn → Handler InventoryOp InventoryOp.Res Error InventoryTable
  | (.reject m, _), _, t => (.error (.plain m), t)
  | (.accept, _), .findUnique p, t => (.ok ((t p).map (·.toInventoryRow)), t)
  | (.accept, now), .update p data, t =>
    match t p with
    | none => (.error recordNotFound, t)
    | some row => (.ok (data.apply row.toInventoryRow),
        Function.update t p (some (data.applyAt now row)))

theorem db_update {t : InventoryTable} {p : ProductId} {row : InventoryRecord}
    (hrow : t p = some row) (now : Int) (data : InventoryUpdate) :
    db (.accept, now) (.update p data) t =
      (.ok (data.apply row.toInventoryRow), Function.update t p (some (data.applyAt now row))) := by
  simp only [db, hrow]

end InventoryTable

abbrev InventoryM := Prog InventoryOp InventoryOp.Res Error

namespace InventoryRepository

def findByProductId (productId : ProductId) : InventoryM (Option InventoryRow) :=
  .perform (InventoryOp.findUnique productId)

def update (productId : ProductId) (data : InventoryUpdate) : InventoryM (Option InventoryRow) :=
  .await (.update productId data) fun r => .settle (r.map some)

def reserveStock (productId : ProductId) (quantity : Int) : InventoryM (Option InventoryRow) := do
  match ← findByProductId productId with
  | none => pure none
  | some inventory =>
    if inventory.availableStock < quantity then
      pure none
    else
      update productId { reservedQuantity := .increment quantity }

def releaseStock (productId : ProductId) (quantity : Int) : InventoryM (Option InventoryRow) :=
  update productId { reservedQuantity := .decrement quantity }

def confirmReservation (productId : ProductId) (quantity : Int) :
    InventoryM (Option InventoryRow) :=
  update productId { quantity := .decrement quantity, reservedQuantity := .decrement quantity }

end InventoryRepository

end Ecommerce
