import Ecommerce.Catalog.Database
import Ecommerce.Lib.Async
import Ecommerce.Lib.KeyValue
import Mathlib.Data.Rat.Floor

namespace Ecommerce

def queryProperties (page limit : Number) (categoryId : Option String)
    (minPrice maxPrice : Option Number) (search : Option String) : List (String × Json) :=
  ("page", .num page) :: ("limit", .num limit) ::
    ((categoryId.map fun c => ("categoryId", .str c)).toList ++
      ((minPrice.map fun x => ("minPrice", .num x)).toList ++
        ((maxPrice.map fun x => ("maxPrice", .num x)).toList ++
          (search.map fun s => ("search", .str s)).toList)))

/-- `properties` is the object itself, in the order its properties were set. -/
structure ProductQuery where
  page : Number
  limit : Number
  categoryId : Option String
  minPrice : Option Number
  maxPrice : Option Number
  search : Option String
  properties : List (String × Json)
  perm : properties.Perm (queryProperties page limit categoryId minPrice maxPrice search)

/-- A `where` with `isActive: true`. -/
structure ProductWhere where
  categoryId : Option String
  gte : Option Number
  lte : Option Number
  search : Option String
  deriving DecidableEq

/-- What is not the repository's own: how doubles round, and which rows the database answers a query
with, which depends on the table alone. -/
structure Engine where
  round : ℚ → ℚ
  findMany : ProductTable → ProductWhere → ℚ → Number → Except Error (List Product)
  count : ProductTable → ProductWhere → Except Error Nat
  mem_of_findMany : ∀ {t filter skip take rows}, findMany t filter skip take = .ok rows →
    ∀ product ∈ rows, product ∈ t.rows

structure Meta where
  page : Number
  limit : Number
  total : Nat
  totalPages : Option Int
  hasNext : Bool
  hasPrev : Bool
  deriving DecidableEq

structure ProductPage where
  products : List ProductView
  pageMeta : Meta

/-- A cached value, by what `JSON.parse` makes of it. -/
inductive Entry
  | page (page : ProductPage)
  | product (product : ProductView)

abbrev CacheKey := List Char

inductive CatalogOp
  | findMany (filter : ProductWhere) (skip : ℚ) (take : Number)
  | count (filter : ProductWhere)
  | findUnique (id : ProductId)
  | create (data : ProductData)
  | update (id : ProductId) (data : ProductData)
  | delete (id : ProductId)
  | get (key : CacheKey)
  | setex (key : CacheKey) (ttl : Nat) (value : Entry)
  | del (keys : List CacheKey)
  | keys (stem : CacheKey)

abbrev CatalogOp.Res : CatalogOp → Type
  | .findMany _ _ _ => List ProductView
  | .count _ => Nat
  | .findUnique _ => Option ProductView
  | .create _ => CatalogDb.Written
  | .update _ _ => CatalogDb.Written
  | .delete _ => Unit
  | .get _ => Option Entry
  | .setex _ _ _ => Unit
  | .del _ => Unit
  | .keys _ => List CacheKey

abbrev CatalogM := Prog CatalogOp CatalogOp.Res Error

/-! Redis failures are logged and swallowed. -/
namespace CacheService

def get (key : CacheKey) : CatalogM (Option Entry) :=
  Prog.tryCatch (.perform (CatalogOp.get key)) fun _ => pure none

def set (key : CacheKey) (value : Entry) (ttl : Nat) : CatalogM Unit :=
  Prog.tryCatch (.perform (CatalogOp.setex key ttl value)) fun _ => pure ()

def delete (key : CacheKey) : CatalogM Unit :=
  Prog.tryCatch (.perform (CatalogOp.del [key])) fun _ => pure ()

/-- The pattern is `stem` and a `*`. -/
def deletePattern (stem : CacheKey) : CatalogM Unit :=
  Prog.tryCatch
    (do
      let keys ← .perform (CatalogOp.keys stem)
      if 0 < keys.length then .perform (CatalogOp.del keys))
    fun _ => pure ()

end CacheService

namespace ProductRepository

def filter (query : ProductQuery) : ProductWhere where
  categoryId := query.categoryId.filter (· ≠ "")
  gte := query.minPrice
  lte := query.maxPrice
  search := query.search.filter (· ≠ "")

variable (engine : Engine)

def skip (query : ProductQuery) : ℚ :=
  engine.round (engine.round (query.page.value - 1) * query.limit.value)

def metaOf (query : ProductQuery) (total : Nat) : Meta where
  page := query.page
  limit := query.limit
  total
  totalPages :=
    if query.limit.value = 0 then none else some ⌈engine.round (total / query.limit.value)⌉
  hasNext := engine.round (query.page.value * query.limit.value) < total
  hasPrev := 1 < query.page.value

/-- The two queries are issued together; each is a step of its own. -/
def findAll (query : ProductQuery) : CatalogM ProductPage := do
  let products ← .perform (CatalogOp.findMany (filter query) (skip engine query) query.limit)
  let total ← .perform (CatalogOp.count (filter query))
  pure ⟨products, metaOf engine query total⟩

def findById (id : ProductId) : CatalogM (Option ProductView) := .perform (CatalogOp.findUnique id)

def create (data : ProductData) : CatalogM CatalogDb.Written := .perform (CatalogOp.create data)

def update (id : ProductId) (data : ProductData) : CatalogM (Option CatalogDb.Written) :=
  .await (.update id data) fun r => .settle (r.map some)

def delete (id : ProductId) : CatalogM Bool :=
  Prog.tryCatch
    (do
      .perform (CatalogOp.delete id)
      pure true)
    fun _ => pure false

end ProductRepository

namespace ProductService

def listStem : CacheKey := "products:".toList

def itemStem : CacheKey := "product:".toList

def listKey (query : ProductQuery) : CacheKey := listStem ++ (Json.obj query.properties).stringify

def itemKey (id : ProductId) : CacheKey := itemStem ++ id.toList

variable (engine : Engine)

def getAll (query : ProductQuery) : CatalogM Entry := do
  match ← CacheService.get (listKey query) with
  | some cached => pure cached
  | none => do
    let result ← ProductRepository.findAll engine query
    CacheService.set (listKey query) (.page result) 300
    pure (.page result)

def getById (id : ProductId) : CatalogM (Option Entry) := do
  match ← CacheService.get (itemKey id) with
  | some cached => pure (some cached)
  | none => do
    match ← ProductRepository.findById id with
    | none => pure none
    | some product => do
      CacheService.set (itemKey id) (.product product) 300
      pure (some (.product product))

def create (data : ProductData) : CatalogM CatalogDb.Written := do
  let product ← ProductRepository.create data
  CacheService.deletePattern listStem
  pure product

def invalidate (id : ProductId) : CatalogM Unit := do
  CacheService.delete (itemKey id)
  CacheService.deletePattern listStem

def update (id : ProductId) (data : ProductData) : CatalogM CatalogDb.Written := do
  match ← ProductRepository.update id data with
  | none => throw (.notFound "Product not found")
  | some product => do
    invalidate id
    pure product

def delete (id : ProductId) : CatalogM Bool := do
  let deleted ← ProductRepository.delete id
  if deleted = false then throw (.notFound "Product not found")
  invalidate id
  pure true

def search (query : ProductQuery) : CatalogM Entry := getAll engine query

end ProductService

structure Catalog where
  db : CatalogDb
  cache : KeyValue CacheKey Entry

inductive RedisCommand
  | get
  | set
  | del
  | keys
  deriving DecidableEq

/-- The environment's move at one operation: entries expire, other services write their own tables,
and then the database or Redis does what it is asked, or fails. -/
structure CatalogMove where
  db : DbTurn
  newId : String
  now : Int
  expired : CacheKey → Bool
  others : Option (CategoryTable × (ProductId → Option InventoryRecord))
  fails : RedisCommand → Option String

namespace Catalog

def expire (expired : CacheKey → Bool) (s : Catalog) : Catalog :=
  { s with cache := s.cache.keep fun key => !expired key }

def write (others : CategoryTable × (ProductId → Option InventoryRecord)) (s : Catalog) : Catalog :=
  { s with db := { s.db with categories := others.1, inventory := others.2 } }

def drift (c : CatalogMove) (s : Catalog) : Catalog :=
  let s := s.expire c.expired
  match c.others with
  | none => s
  | some others => s.write others

def statement {α : Type} (turn : DbTurn) (r : Except Error α × CatalogDb) (s : Catalog) :
    Except Error α × Catalog :=
  match turn with
  | .accept => (r.1, { s with db := r.2 })
  | .reject m => (.error (.plain m), s)

def command {α : Type} (failure : Option String) (r : α × KeyValue CacheKey Entry) (s : Catalog) :
    Except Error α × Catalog :=
  match failure with
  | none => (.ok r.1, { s with cache := r.2 })
  | some m => (.error (.plain m), s)

def perform (engine : Engine) (c : CatalogMove) :
    Handler CatalogOp CatalogOp.Res Error Catalog
  | .findMany filter skip take, s =>
    statement c.db
      ((engine.findMany s.db.products filter skip take).map (·.map s.db.view), s.db) s
  | .count filter, s => statement c.db (engine.count s.db.products filter, s.db) s
  | .findUnique id, s =>
    statement c.db (.ok ((s.db.products.find? id).map s.db.view), s.db) s
  | .create data, s => statement c.db (s.db.create data c.newId c.now) s
  | .update id data, s => statement c.db (s.db.update id data c.now) s
  | .delete id, s => statement c.db (s.db.delete id) s
  | .get key, s => command (c.fails .get) (s.cache.get key, s.cache) s
  | .setex key _ value, s => command (c.fails .set) ((), s.cache.set key value) s
  | .del keys, s => command (c.fails .del) ((), s.cache.del keys) s
  | .keys stem, s => command (c.fails .keys) (s.cache.keys fun key => stem.isPrefixOf key, s.cache) s

def handle (engine : Engine) (c : CatalogMove) : Handler CatalogOp CatalogOp.Res Error Catalog :=
  fun op s => perform engine c op (s.drift c)

end Catalog

inductive ProductRequest
  | getById (id : ProductId)
  | getAll (query : ProductQuery)
  | search (query : ProductQuery)
  | create (data : ProductData)
  | update (id : ProductId) (data : ProductData)
  | delete (id : ProductId)

inductive ProductAnswer
  | read (entry : Option Entry)
  | written (product : CatalogDb.Written)
  | deleted

def ProductRequest.program (engine : Engine) : ProductRequest → CatalogM ProductAnswer
  | .getById id => do
    let product ← ProductService.getById id
    pure (.read product)
  | .getAll query => do
    let result ← ProductService.getAll engine query
    pure (.read (some result))
  | .search query => do
    let result ← ProductService.search engine query
    pure (.read (some result))
  | .create data => do
    let product ← ProductService.create data
    pure (.written product)
  | .update id data => do
    let product ← ProductService.update id data
    pure (.written product)
  | .delete id => do
    let _ ← ProductService.delete id
    pure .deleted

end Ecommerce
