import Ecommerce.Catalog.Service
import Ecommerce.Lib.Triple

namespace Ecommerce

namespace ProductService

theorem itemKey_injective : Function.Injective itemKey := by
  intro id id' h
  exact String.ext ((List.append_right_inj itemStem).mp h)

theorem isPrefixOf_listKey (query : ProductQuery) : listStem.isPrefixOf (listKey query) :=
  List.isPrefixOf_iff_prefix.mpr (List.prefix_append _ _)

theorem isPrefixOf_itemKey (id : ProductId) : listStem.isPrefixOf (itemKey id) = false := by
  have hlist : listStem = ['p', 'r', 'o', 'd', 'u', 'c', 't', 's', ':'] := by decide
  have hitem : itemStem = ['p', 'r', 'o', 'd', 'u', 'c', 't', ':'] := by decide
  rw [itemKey, hlist, hitem]
  rfl

theorem itemKey_ne_listKey (id : ProductId) (query : ProductQuery) : itemKey id ≠ listKey query := by
  intro h
  have hprefix := isPrefixOf_listKey query
  rw [← h, isPrefixOf_itemKey] at hprefix
  cases hprefix

section Awaits

variable {P : CatalogOp → Prop} (hdel : ∀ keys, P (.del keys)) (hkeys : P (.keys listStem))

include hdel hkeys in
theorem awaits_deletePattern : Prog.Awaits P (CacheService.deletePattern listStem) := by
  refine Prog.Awaits.tryCatch (Prog.Awaits.bind ((Prog.awaits_perform _).mpr hkeys) fun keys => ?_)
    fun _ => trivial
  split
  · exact (Prog.awaits_perform _).mpr (hdel keys)
  · trivial

include hdel hkeys in
theorem awaits_invalidate (id : ProductId) : Prog.Awaits P (ProductService.invalidate id) :=
  Prog.Awaits.bind (Prog.Awaits.tryCatch ((Prog.awaits_perform _).mpr (hdel _)) fun _ => trivial)
    fun _ => awaits_deletePattern hdel hkeys

end Awaits

end ProductService

/-- Nobody else does anything. -/
def CatalogMove.undisturbed : CatalogMove := ⟨.accept, "", 0, fun _ => false, none, fun _ => none⟩

theorem Catalog.products_drift (c : CatalogMove) (s : Catalog) :
    (s.drift c).db.products = s.db.products := by
  unfold drift
  split <;> rfl

theorem ProductRepository.update_eq (id : ProductId) (data : ProductData) :
    ProductRepository.update id data =
      (do
        let written ← .perform (CatalogOp.update id data)
        pure (some written)) := by
  refine congrArg (Prog.await (CatalogOp.update id data)) (funext fun r => ?_)
  cases r <;> rfl

theorem ProductRequest.program_update (engine : Engine) (id : ProductId) (data : ProductData) :
    (ProductRequest.update id data).program engine =
      .await (.update id data) fun r => match r with
        | .ok written => do
          ProductService.invalidate id
          pure (.written written)
        | .error e => throw e := by
  refine congrArg (Prog.await (CatalogOp.update id data)) (funext fun r => ?_)
  cases r with
  | error e => rfl
  | ok written => exact Prog.bind_assoc (ProductService.invalidate id) _ _

theorem ProductRequest.program_delete (engine : Engine) (id : ProductId) :
    (ProductRequest.delete id).program engine =
      .await (.delete id) fun r => match r with
        | .ok _ => do
          ProductService.invalidate id
          pure .deleted
        | .error _ => throw (.notFound "Product not found") := by
  refine congrArg (Prog.await (CatalogOp.delete id)) (funext fun r => ?_)
  cases r with
  | error e => rfl
  | ok done => exact Prog.bind_assoc (ProductService.invalidate id) _ _

namespace ProductQuery

structure Same (query query' : ProductQuery) : Prop where
  page : query.page = query'.page
  limit : query.limit = query'.limit
  categoryId : query.categoryId = query'.categoryId
  minPrice : query.minPrice = query'.minPrice
  maxPrice : query.maxPrice = query'.maxPrice
  search : query.search = query'.search

section Mem

variable {query : ProductQuery} {x : Number} {c : String}

theorem mem_page : ("page", .num x) ∈ query.properties ↔ query.page = x := by
  rw [query.perm.mem_iff]
  simp [queryProperties, eq_comm]

theorem mem_limit : ("limit", .num x) ∈ query.properties ↔ query.limit = x := by
  rw [query.perm.mem_iff]
  simp [queryProperties, eq_comm]

theorem mem_categoryId : ("categoryId", .str c) ∈ query.properties ↔ query.categoryId = some c := by
  rw [query.perm.mem_iff]
  simp [queryProperties]

theorem mem_minPrice : ("minPrice", .num x) ∈ query.properties ↔ query.minPrice = some x := by
  rw [query.perm.mem_iff]
  simp [queryProperties]

theorem mem_maxPrice : ("maxPrice", .num x) ∈ query.properties ↔ query.maxPrice = some x := by
  rw [query.perm.mem_iff]
  simp [queryProperties]

theorem mem_search : ("search", .str c) ∈ query.properties ↔ query.search = some c := by
  rw [query.perm.mem_iff]
  simp [queryProperties]

end Mem

variable {query query' : ProductQuery}

/-- No two different queries share a cache key. -/
theorem same_of_listKey (h : ProductService.listKey query = ProductService.listKey query') :
    query.Same query' := by
  have hobj := Json.stringify_injective ((List.append_right_inj ProductService.listStem).mp h)
  have hproperties : query.properties = query'.properties := Json.obj.inj hobj
  constructor
  · exact mem_page.mp (hproperties ▸ mem_page.mpr rfl)
  · exact mem_limit.mp (hproperties ▸ mem_limit.mpr rfl)
  · ext c
    rw [← mem_categoryId, hproperties, mem_categoryId]
  · ext x
    rw [← mem_minPrice, hproperties, mem_minPrice]
  · ext x
    rw [← mem_maxPrice, hproperties, mem_maxPrice]
  · ext c
    rw [← mem_search, hproperties, mem_search]

theorem Same.filter_eq (h : query.Same query') :
    ProductRepository.filter query = ProductRepository.filter query' := by
  simp [ProductRepository.filter, h.categoryId, h.minPrice, h.maxPrice, h.search]

theorem Same.skip_eq (h : query.Same query') (engine : Engine) :
    ProductRepository.skip engine query = ProductRepository.skip engine query' := by
  simp [ProductRepository.skip, h.page, h.limit]

theorem Same.metaOf_eq (h : query.Same query') (engine : Engine) (total : Nat) :
    ProductRepository.metaOf engine query total = ProductRepository.metaOf engine query' total := by
  simp [ProductRepository.metaOf, h.page, h.limit]

end ProductQuery

namespace CatalogDb

/-- The product is still there, with the same rows around it. -/
structure Keeps (db db' : CatalogDb) (product : Product) : Prop where
  find? : db'.products.find? product.id = some product
  view : db'.view product = db.view product

variable {db : CatalogDb} {id : ProductId} {data : ProductData} {newId : ProductId} {now : Int}

theorem create_cases (data : ProductData) (newId : ProductId) (now : Int) (db : CatalogDb) :
    (∃ e, db.create data newId now = (.error e, db)) ∨
      ∃ product category products, data.row newId now = some product ∧
        db.categories.find? product.categoryId = some category ∧
        db.products.insert product = some products ∧
        db.create data newId now = (.ok (product, some category), { db with products }) := by
  unfold create
  split
  · exact .inl ⟨_, rfl⟩
  next product hrow =>
    split
    · exact .inl ⟨_, rfl⟩
    · split
      · exact .inl ⟨_, rfl⟩
      · exact .inl ⟨_, rfl⟩
      next category products hcategory hinsert =>
        exact .inr ⟨product, category, products, hrow, hcategory, hinsert, rfl⟩

theorem update_cases (id : ProductId) (data : ProductData) (now : Int) (db : CatalogDb) :
    (∃ e, db.update id data now = (.error e, db)) ∨
      ∃ product category products, db.products.find? id = some product ∧
        db.categories.find? (data.apply now product).categoryId = some category ∧
        db.products.replace id (data.apply now product) = some products ∧
        db.update id data now =
          (.ok (data.apply now product, some category),
            { db with
              products
              inventory := moveInventory id (data.apply now product).id db.inventory }) := by
  unfold update
  split
  · exact .inl ⟨_, rfl⟩
  next product hfind =>
    split
    · exact .inl ⟨_, rfl⟩
    · split
      · exact .inl ⟨_, rfl⟩
      · exact .inl ⟨_, rfl⟩
      next category products hcategory hreplace =>
        exact .inr ⟨product, category, products, hfind, hcategory, hreplace, rfl⟩

theorem delete_cases (id : ProductId) (db : CatalogDb) :
    (∃ e, db.delete id = (.error e, db)) ∨
      ∃ product, db.products.find? id = some product ∧
        db.delete id =
          (.ok (),
            { db with
              products := db.products.filter (·.id ≠ id)
              inventory := Function.update db.inventory id none }) := by
  unfold delete
  split
  · exact .inl ⟨_, rfl⟩
  next product hfind => exact .inr ⟨product, hfind, rfl⟩

theorem create_error {e : Error} (h : (db.create data newId now).1 = .error e) :
    (db.create data newId now).2 = db := by
  rcases create_cases data newId now db with ⟨e', hcreate⟩ | ⟨_, _, _, -, -, -, hcreate⟩
  · rw [hcreate]
  · rw [hcreate] at h
    cases h

theorem update_error {e : Error} (h : (db.update id data now).1 = .error e) :
    (db.update id data now).2 = db := by
  rcases update_cases id data now db with ⟨e', hupdate⟩ | ⟨_, _, _, -, -, -, hupdate⟩
  · rw [hupdate]
  · rw [hupdate] at h
    cases h

theorem delete_error {e : Error} (h : (db.delete id).1 = .error e) : (db.delete id).2 = db := by
  rcases delete_cases id db with ⟨e', hdelete⟩ | ⟨_, -, hdelete⟩
  · rw [hdelete]
  · rw [hdelete] at h
    cases h

theorem keeps_self {product : Product} (hfind : db.products.find? product.id = some product) :
    db.Keeps db product := ⟨hfind, rfl⟩

theorem keeps_create {product : Product} (hfind : db.products.find? product.id = some product) :
    db.Keeps (db.create data newId now).2 product := by
  rcases create_cases data newId now db with ⟨e, h⟩ | ⟨row, category, products, -, -, hinsert, h⟩
  · rw [h]
    exact keeps_self hfind
  · rw [h]
    have hne : product.id ≠ row.id := by
      intro hid
      rw [hid, Table.find?_of_insert hinsert] at hfind
      cases hfind
    exact ⟨by rw [Table.find?_insert hinsert, if_neg hne, hfind], rfl⟩

theorem keeps_update {product : Product} (hfind : db.products.find? product.id = some product)
    (hid : product.id ≠ id) : db.Keeps (db.update id data now).2 product := by
  rcases update_cases id data now db with ⟨e, h⟩ | ⟨row, category, products, hrow, -, hreplace, h⟩
  · rw [h]
    exact keeps_self hfind
  · rw [h]
    refine ⟨Table.find?_replace hreplace hid hfind, ?_⟩
    have hinventory : moveInventory id (data.apply now row).id db.inventory product.id =
        db.inventory product.id := by
      unfold moveInventory
      split
      · rfl
      next hmoved =>
        -- the new id was free
        have hne : product.id ≠ (data.apply now row).id := by
          intro hsame
          exact Table.replace_key_ne hreplace hmoved hfind hsame
        rw [Function.update_of_ne hne, Function.update_of_ne hid]
    simp [view, hinventory]

theorem keeps_delete {product : Product} (hfind : db.products.find? product.id = some product)
    (hid : product.id ≠ id) : db.Keeps (db.delete id).2 product := by
  rcases delete_cases id db with ⟨e, h⟩ | ⟨row, hrow, h⟩
  · rw [h]
    exact keeps_self hfind
  · rw [h]
    refine ⟨Table.find?_filter db.products _ hfind (by simpa using hid), ?_⟩
    simp [view, Function.update_of_ne hid]

end CatalogDb

end Ecommerce
