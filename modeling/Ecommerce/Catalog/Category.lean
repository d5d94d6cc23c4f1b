import Ecommerce.Catalog.Database
import Ecommerce.Inventory.Service

namespace Ecommerce

inductive CategoryOp
  | create (data : CategoryData)
  | update (id : String) (data : CategoryData)
  | delete (id : String)

abbrev CategoryOp.Res : CategoryOp → Type
  | .create _ => Category
  | .update _ _ => Category
  | .delete _ => Unit

abbrev CategoryM := Prog CategoryOp CategoryOp.Res Error

namespace CategoryRepository

def create (data : CategoryData) : CategoryM Category := .perform (CategoryOp.create data)

def update (id : String) (data : CategoryData) : CategoryM (Option Category) :=
  .await (.update id data) fun r => .settle (r.map some)

def delete (id : String) : CategoryM Bool :=
  Prog.tryCatch
    (do
      .perform (CategoryOp.delete id)
      pure true)
    fun _ => pure false

end CategoryRepository

namespace CategoryService

def create (data : CategoryData) : CategoryM Category := CategoryRepository.create data

def update (id : String) (data : CategoryData) : CategoryM Category := do
  match ← CategoryRepository.update id data with
  | none => throw (.notFound "Category not found")
  | some category => pure category

def delete (id : String) : CategoryM Bool := do
  let deleted ← CategoryRepository.delete id
  if deleted = false then throw (.notFound "Category not found")
  pure true

end CategoryService

inductive CategoryRequest
  | create (data : CategoryData)
  | update (id : String) (data : CategoryData)
  | delete (id : String)

def CategoryRequest.program : CategoryRequest → CategoryM Unit
  | .create data => do
    let _ ← CategoryService.create data
    pure ()
  | .update id data => do
    let _ ← CategoryService.update id data
    pure ()
  | .delete id => do
    let _ ← CategoryService.delete id
    pure ()

inductive InventoryCall
  | update (productId : ProductId) (data : InventoryUpdate)
  | reserveStock (items : List Item)
  | releaseStock (items : List Item)
  | confirmReservation (items : List Item)

def InventoryCall.program : InventoryCall → InventoryM Unit
  | .update productId data => do
    let _ ← InventoryService.update productId data
    pure ()
  | .reserveStock items => do
    let _ ← InventoryService.reserveStock items
    pure ()
  | .releaseStock items => do
    let _ ← InventoryService.releaseStock items
    pure ()
  | .confirmReservation items => do
    let _ ← InventoryService.confirmReservation items
    pure ()

/-- The environment's move at a statement of one of the two services. -/
structure TableMove where
  db : DbTurn
  newId : String
  now : Int

namespace TableMove

def calm : TableMove := ⟨.accept, "", 0⟩

def statement {α : Type} (c : TableMove) (r : Except Error α × CatalogDb) (db : CatalogDb) :
    Except Error α × CatalogDb :=
  match c.db with
  | .accept => r
  | .reject m => (.error (.plain m), db)

def category (c : TableMove) : Handler CategoryOp CategoryOp.Res Error CatalogDb
  | .create data, db => c.statement (db.createCategory data c.newId c.now) db
  | .update id data, db => c.statement (db.updateCategory id data c.now) db
  | .delete id, db => c.statement (db.deleteCategory id) db

def inventory (c : TableMove) : Handler InventoryOp InventoryOp.Res Error CatalogDb
  | op, db => c.statement (CatalogDb.inventoryStatement c.now op db) db

end TableMove

inductive TableWrite
  | category (request : CategoryRequest) (env : Script TableMove)
  | inventory (request : InventoryCall) (env : Script TableMove)

def TableWrite.tables : TableWrite → CatalogDb → CatalogDb
  | .category request env, db => (request.program.play TableMove.category env db).2
  | .inventory request env, db => (request.program.play TableMove.inventory env db).2

namespace CatalogDb

variable {db : CatalogDb}

theorem products_statement {α : Type} (c : TableMove) {r : Except Error α × CatalogDb}
    (hr : r.2.products = db.products) : (c.statement r db).2.products = db.products := by
  unfold TableMove.statement
  split
  · exact hr
  · rfl

theorem products_category (c : TableMove) (op : CategoryOp) (db : CatalogDb) :
    (c.category op db).2.products = db.products := by
  cases op with
  | create data =>
    apply products_statement c
    unfold createCategory
    repeat' split
    all_goals rfl
  | update id data =>
    apply products_statement c
    unfold updateCategory
    repeat' split
    all_goals rfl
  | delete id =>
    apply products_statement c
    unfold deleteCategory
    repeat' split
    all_goals rfl

theorem products_inventory (c : TableMove) (op : InventoryOp) (db : CatalogDb) :
    (c.inventory op db).2.products = db.products :=
  products_statement c rfl

end CatalogDb

theorem TableWrite.products_tables (write : TableWrite) (db : CatalogDb) :
    (write.tables db).products = db.products := by
  cases write with
  | category request env =>
    exact Prog.play_invariant TableMove.category (I := fun db' => db'.products = db.products)
      (fun c op db' h => (CatalogDb.products_category c op db').trans h) env request.program rfl
  | inventory request env =>
    exact Prog.play_invariant TableMove.inventory (I := fun db' => db'.products = db.products)
      (fun c op db' h => (CatalogDb.products_inventory c op db').trans h) env request.program rfl

end Ecommerce
