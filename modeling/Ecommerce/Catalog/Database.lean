import Ecommerce.Inventory.Repository
import Ecommerce.Lib.Json
import Ecommerce.Lib.Table

/-! The tables behind the product catalogue, and the statements on them. -/

namespace Ecommerce

/-- `price` is in hundredths, as `Decimal(10, 2)` keeps it; times are in milliseconds. -/
structure Product where
  id : ProductId
  sku : String
  name : String
  slug : String
  description : Option String
  price : Int
  categoryId : String
  imageUrl : Option String
  isActive : Bool
  createdAt : Int
  updatedAt : Int
  deriving DecidableEq, Repr

structure Category where
  id : String
  name : String
  slug : String
  description : Option String
  parentId : Option String
  isActive : Bool
  createdAt : Int
  updatedAt : Int
  deriving DecidableEq, Repr

/-- What `include: { category: true, inventory: true }` adds to a product. -/
structure ProductView where
  product : Product
  category : Option Category
  inventory : Option InventoryRecord
  deriving DecidableEq, Repr

def hundredths (price : Number) : Int := price.scaled 2

example : hundredths (.decimal ⟨false, 10005, 2, by decide⟩) = 1001 := by decide

/-- The `data` of a product statement, its price not rounded yet; a column that is undefined is left
to its default, or as it is. -/
structure ProductData where
  id : Option ProductId := none
  sku : Option String := none
  name : Option String := none
  slug : Option String := none
  description : Option (Option String) := none
  price : Option Number := none
  categoryId : Option String := none
  imageUrl : Option (Option String) := none
  isActive : Option Bool := none
  createdAt : Option Int := none
  updatedAt : Option Int := none

namespace ProductData

/-- The row of a create, unless a required column is missing. -/
def row (data : ProductData) (newId : ProductId) (now : Int) : Option Product := do
  let sku ← data.sku
  let name ← data.name
  let slug ← data.slug
  let price ← data.price
  let categoryId ← data.categoryId
  return {
    id := data.id.getD newId
    sku, name, slug
    description := data.description.getD none
    price := hundredths price
    categoryId
    imageUrl := data.imageUrl.getD none
    isActive := data.isActive.getD true
    createdAt := data.createdAt.getD now
    updatedAt := data.updatedAt.getD now }

def apply (data : ProductData) (now : Int) (product : Product) : Product where
  id := data.id.getD product.id
  sku := data.sku.getD product.sku
  name := data.name.getD product.name
  slug := data.slug.getD product.slug
  description := data.description.getD product.description
  price := (data.price.map hundredths).getD product.price
  categoryId := data.categoryId.getD product.categoryId
  imageUrl := data.imageUrl.getD product.imageUrl
  isActive := data.isActive.getD product.isActive
  createdAt := data.createdAt.getD product.createdAt
  updatedAt := data.updatedAt.getD now

end ProductData

/-- The `data` of a category statement.  No schema has the id. -/
structure CategoryData where
  name : Option String := none
  slug : Option String := none
  description : Option (Option String) := none
  parentId : Option (Option String) := none
  isActive : Option Bool := none

namespace CategoryData

def row (data : CategoryData) (newId : String) (now : Int) : Option Category := do
  let name ← data.name
  let slug ← data.slug
  return {
    id := newId
    name, slug
    description := data.description.getD none
    parentId := data.parentId.getD none
    isActive := data.isActive.getD true
    createdAt := now
    updatedAt := now }

def apply (data : CategoryData) (now : Int) (category : Category) : Category :=
  { category with
    name := data.name.getD category.name
    slug := data.slug.getD category.slug
    description := data.description.getD category.description
    parentId := data.parentId.getD category.parentId
    isActive := data.isActive.getD category.isActive
    updatedAt := now }

end CategoryData

abbrev ProductTable := Table Product.id

abbrev CategoryTable := Table Category.id

structure CatalogDb where
  products : ProductTable
  categories : CategoryTable
  inventory : ProductId → Option InventoryRecord

namespace CatalogDb

def missingArgument : Error := .plain "Argument is missing."

def uniqueConstraint : Error := .plain "Unique constraint failed"

def foreignKey : Error := .plain "Foreign key constraint violated"

def view (db : CatalogDb) (product : Product) : ProductView :=
  ⟨product, db.categories.find? product.categoryId, db.inventory product.id⟩

def takesProduct (products : List Product) (product : Product) : Bool :=
  products.any fun other => other.sku = product.sku || other.slug = product.slug

def takesCategory (categories : List Category) (category : Category) : Bool :=
  categories.any fun other => other.name = category.name || other.slug = category.slug

abbrev Written := Product × Option Category

def create (data : ProductData) (newId : ProductId) (now : Int) (db : CatalogDb) :
    Except Error Written × CatalogDb :=
  match data.row newId now with
  | none => (.error missingArgument, db)
  | some product =>
    if takesProduct db.products.rows product then (.error uniqueConstraint, db)
    else
      match db.categories.find? product.categoryId, db.products.insert product with
      | none, _ => (.error foreignKey, db)
      | some _, none => (.error uniqueConstraint, db)
      | some category, some products => (.ok (product, some category), { db with products })

def moveInventory (id id' : ProductId) (inventory : ProductId → Option InventoryRecord) :
    ProductId → Option InventoryRecord :=
  if id' = id then inventory
  else
    Function.update (Function.update inventory id none) id'
      ((inventory id).map fun record => { record with productId := id' })

def update (id : ProductId) (data : ProductData) (now : Int) (db : CatalogDb) :
    Except Error Written × CatalogDb :=
  match db.products.find? id with
  | none => (.error recordNotFound, db)
  | some product =>
    if takesProduct (db.products.rows.filter (·.id ≠ id)) (data.apply now product) then
      (.error uniqueConstraint, db)
    else
      match db.categories.find? (data.apply now product).categoryId,
        db.products.replace id (data.apply now product) with
      | none, _ => (.error foreignKey, db)
      | some _, none => (.error uniqueConstraint, db)
      | some category, some products =>
        (.ok (data.apply now product, some category),
          { db with
            products
            inventory := moveInventory id (data.apply now product).id db.inventory })

def delete (id : ProductId) (db : CatalogDb) : Except Error Unit × CatalogDb :=
  match db.products.find? id with
  | none => (.error recordNotFound, db)
  | some _ =>
    (.ok (),
      { db with
        products := db.products.filter (·.id ≠ id)
        inventory := Function.update db.inventory id none })

def parentExists (db : CatalogDb) (parentId : Option String) : Bool :=
  parentId.all fun parent => (db.categories.find? parent).isSome

def createCategory (data : CategoryData) (newId : String) (now : Int) (db : CatalogDb) :
    Except Error Category × CatalogDb :=
  match data.row newId now with
  | none => (.error missingArgument, db)
  | some category =>
    if takesCategory db.categories.rows category then (.error uniqueConstraint, db)
    else if category.parentId ≠ some newId ∧ db.parentExists category.parentId = false then
      (.error foreignKey, db)
    else
      match db.categories.insert category with
      | none => (.error uniqueConstraint, db)
      | some categories => (.ok category, { db with categories })

def updateCategory (id : String) (data : CategoryData) (now : Int) (db : CatalogDb) :
    Except Error Category × CatalogDb :=
  match db.categories.find? id with
  | none => (.error recordNotFound, db)
  | some category =>
    if takesCategory (db.categories.rows.filter (·.id ≠ id)) (data.apply now category) then
      (.error uniqueConstraint, db)
    else if db.parentExists (data.apply now category).parentId = false then (.error foreignKey, db)
    else
      (.ok (data.apply now category),
        { db with categories := db.categories.modify id (data.apply now) fun _ => rfl })

def deleteCategory (id : String) (db : CatalogDb) : Except Error Unit × CatalogDb :=
  match db.categories.find? id with
  | none => (.error recordNotFound, db)
  | some _ =>
    if db.products.rows.any (·.categoryId = id) then (.error foreignKey, db)
    else
      (.ok (),
        { db with
          categories := (db.categories.filter (·.id ≠ id)).map
            (fun category =>
              if category.parentId = some id then { category with parentId := none } else category)
            fun category => by split <;> rfl })

def inventoryStatement (now : Int) : Handler InventoryOp InventoryOp.Res Error CatalogDb :=
  fun op db =>
    ((InventoryTable.db (.accept, now) op db.inventory).1,
      { db with inventory := (InventoryTable.db (.accept, now) op db.inventory).2 })

end CatalogDb

end Ecommerce
