import Ecommerce.Catalog.Category
import Ecommerce.Catalog.Effect
import Ecommerce.Lib.Embed
import Ecommerce.Shared.Http

/-! The RPC servers of the product catalogue, and the events they publish. -/

namespace Ecommerce

/-- What `include: { parent, children, _count: { products } }` adds to a category. -/
structure CategoryView where
  category : Category
  parent : Option Category
  children : List Category
  productCount : Nat

structure CategoryPage where
  category : Category
  parent : Option Category
  children : List Category
  products : List Product

structure CategoryQueries where
  byName : List Category → List Category
  perm : ∀ categories, (byName categories).Perm categories
  products : ProductTable → String → List Product
  mem_products : ∀ {t id}, ∀ product ∈ products t id,
    product ∈ t.rows ∧ product.categoryId = id ∧ product.isActive
  length_products : ∀ t id, (products t id).length ≤ 10

/-- `deletedAt` is in milliseconds; `changes` are the columns that the request names. -/
inductive ProductEvent
  | created (productId : ProductId) (name sku : String) (price : Int) (categoryId : String)
  | updated (productId : ProductId) (changes : ProductData)
  | deleted (productId : ProductId) (deletedAt : Int)

/-- What the servers await; `now` is read where a `Date` is made. -/
inductive CatalogServerOp
  | product (op : CatalogOp)
  | category (op : CategoryOp)
  | findCategories
  | findCategory (id : String)
  | now
  | publish (event : ProductEvent)
  | createError (apiName errMessage : String)

abbrev CatalogServerOp.Res : CatalogServerOp → Type
  | .product op => op.Res
  | .category op => op.Res
  | .findCategories => List CategoryView
  | .findCategory _ => Option CategoryPage
  | .now => Int
  | .publish _ => Unit
  | .createError _ _ => Unit

/-- Neither the clock nor the channel is waited for. -/
def CatalogServerOp.sync : CatalogServerOp → Bool
  | .now => true
  | .publish _ => true
  | _ => false

abbrev CatalogServerM := Prog CatalogServerOp CatalogServerOp.Res Error

/-- The requests, one kind for each queue. -/
inductive CatalogRpc
  | productList (query : ProductQuery)
  | productGet (productId : ProductId)
  | productCreate (data : ProductData)
  | productUpdate (productId : ProductId) (data : ProductData)
  | productDelete (productId : ProductId)
  | categoryList
  | categoryGet (categoryId : String)
  | categoryCreate (data : CategoryData)
  | categoryUpdate (categoryId : String) (data : CategoryData)
  | categoryDelete (categoryId : String)

/-- The `data` of a reply. -/
inductive CatalogData
  | read (entry : Option Entry)
  | product (product : CatalogDb.Written)
  | categories (categories : List CategoryView)
  | categoryPage (category : Option CategoryPage)
  | category (category : Category)

/-- `{ success: true, data }`, `{ success: true }` or `{ success: false, error }`. -/
inductive CatalogReply
  | data (data : CatalogData)
  | done
  | failed (error : String)

namespace CatalogMessaging

def product {α : Type} (p : CatalogM α) : CatalogServerM α :=
  p.embed CatalogServerOp.product fun _ r => r

def category {α : Type} (p : CategoryM α) : CatalogServerM α :=
  p.embed CatalogServerOp.category fun _ r => r

def addErrorHelper (apiName : String) (details : Error) : CatalogServerM Unit :=
  Prog.tryCatch
    (.perform (CatalogServerOp.createError apiName (orFallback details.message "Unknown error")))
    fun _ => pure ()

def publish (apiName : String) (event : ProductEvent) : CatalogServerM Unit :=
  Prog.tryCatch (.perform (CatalogServerOp.publish event)) (addErrorHelper apiName)

def createdEvent (written : CatalogDb.Written) : ProductEvent :=
  .created written.1.id written.1.name written.1.sku written.1.price written.1.categoryId

def publishProductCreated (event : ProductEvent) : CatalogServerM Unit :=
  publish "MessagingService.publishProductCreated" event

def publishProductUpdated (productId : ProductId) (changes : ProductData) : CatalogServerM Unit :=
  publish "MessagingService.publishProductUpdated" (.updated productId changes)

def publishProductDeleted (productId : ProductId) (deletedAt : Int) : CatalogServerM Unit :=
  publish "MessagingService.publishProductDeleted" (.deleted productId deletedAt)

/-- A handler answers a failure once it is recorded. -/
def answered (apiName : String) (text : Error → String) (body : CatalogServerM CatalogReply) :
    CatalogServerM CatalogReply :=
  Prog.tryCatch body fun error => do
    addErrorHelper apiName error
    pure (.failed (text error))

/-- `error.message || 'Unknown error'`. -/
def orUnknown (error : Error) : String := orFallback error.message "Unknown error"

variable (engine : Engine)

/-- The handlers of `setupRPCServers`. -/
def handler : CatalogRpc → CatalogServerM CatalogReply
  | .productList query => answered "MessagingService.getProductsRPC" Error.message do
    let products ← product (ProductService.getAll engine query)
    pure (.data (.read (some products)))
  | .productGet productId => answered "MessagingService.getProductRPC" Error.message do
    let found ← product (ProductService.getById productId)
    pure (.data (.read found))
  | .productCreate data => answered "MessagingService.createProductRPC" orUnknown do
    let written ← product (ProductService.create data)
    publishProductCreated (createdEvent written)
    pure (.data (.product written))
  | .productUpdate productId data => answered "MessagingService.updateProductRPC" Error.message do
    let written ← product (ProductService.update productId data)
    publishProductUpdated productId data
    pure (.data (.product written))
  | .productDelete productId => answered "MessagingService.deleteProductRPC" Error.message do
    let _ ← product (ProductService.delete productId)
    let deletedAt ← .perform CatalogServerOp.now
    publishProductDeleted productId deletedAt
    pure .done
  | .categoryList => answered "MessagingService.getCategoriesRPC" Error.message do
    let categories ← .perform CatalogServerOp.findCategories
    pure (.data (.categories categories))
  | .categoryGet categoryId => answered "MessagingService.getCategoryRPC" Error.message do
    let found ← .perform (CatalogServerOp.findCategory categoryId)
    pure (.data (.categoryPage found))
  | .categoryCreate data => answered "MessagingService.createCategoryRPC" orUnknown do
    let created ← category (CategoryService.create data)
    pure (.data (.category created))
  | .categoryUpdate categoryId data => answered "MessagingService.updateCategoryRPC" Error.message do
    let updated ← category (CategoryService.update categoryId data)
    pure (.data (.category updated))
  | .categoryDelete categoryId => answered "MessagingService.deleteCategoryRPC" Error.message do
    let _ ← category (CategoryService.delete categoryId)
    pure .done

end CatalogMessaging

/-- What the servers share, what they have published, and the error log. -/
structure CatalogServer where
  catalog : Catalog
  events : List ProductEvent
  errors : List (String × String)

/-- The environment's move at one operation of a server; `channel` is why the channel refuses. -/
structure CatalogServerMove where
  catalog : CatalogMove
  channel : Option String

namespace CatalogServer

def categoryView (db : CatalogDb) (category : Category) : CategoryView where
  category
  parent := category.parentId.bind db.categories.find?
  children := db.categories.rows.filter (·.parentId = some category.id)
  productCount := db.products.rows.countP (·.categoryId = category.id)

variable (engine : Engine) (queries : CategoryQueries)

def categoryPage (db : CatalogDb) (category : Category) : CategoryPage where
  category
  parent := category.parentId.bind db.categories.find?
  children := db.categories.rows.filter (·.parentId = some category.id)
  products := queries.products db.products category.id

/-- A query that the database answers or refuses. -/
def query {α : Type} (turn : DbTurn) (answer : α) (s : CatalogServer) :
    Except Error α × CatalogServer :=
  match turn with
  | .accept => (.ok answer, s)
  | .reject m => (.error (.plain m), s)

def handle (c : CatalogServerMove) :
    Handler CatalogServerOp CatalogServerOp.Res Error CatalogServer
  | .product op, s =>
    ((Catalog.handle engine c.catalog op s.catalog).1,
      { s with catalog := (Catalog.handle engine c.catalog op s.catalog).2 })
  | .category op, s =>
    let r := TableMove.category ⟨c.catalog.db, c.catalog.newId, c.catalog.now⟩ op s.catalog.db
    (r.1, { s with catalog := { s.catalog with db := r.2 } })
  | .findCategories, s =>
    query c.catalog.db
      ((queries.byName (s.catalog.db.categories.rows.filter (·.isActive))).map
        (categoryView s.catalog.db)) s
  | .findCategory id, s =>
    query c.catalog.db
      ((s.catalog.db.categories.find? id).map (categoryPage queries s.catalog.db)) s
  | .now, s => (.ok c.catalog.now, s)
  | .publish event, s =>
    match c.channel with
    | none => (.ok (), { s with events := s.events ++ [event] })
    | some m => (.error (.plain m), s)
  | .createError apiName errMessage, s =>
    match c.catalog.db with
    | .accept => (.ok (), { s with errors := s.errors ++ [(apiName, errMessage)] })
    | .reject m => (.error (.plain m), s)

/-- The reply to a request, and what it leaves, with nothing else running. -/
def serve (s : CatalogServer) (call : CatalogRpc × Script CatalogServerMove) : CatalogServer :=
  ((CatalogMessaging.handler engine call.1).play (handle engine queries) call.2 s).2

end CatalogServer

end Ecommerce
