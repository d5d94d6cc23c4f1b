import Ecommerce.Catalog.Effect
import Ecommerce.Lib.Runs
import Ecommerce.Lib.Triple

namespace Ecommerce

open Prog ProductService

/-- An entry with `V` in the place of its products. -/
inductive Seen (V : Type)
  | page (products : List V) (pageMeta : Meta)
  | product (product : V)
  deriving DecidableEq

def Entry.seen {V : Type} (f : ProductView → V) : Entry → Seen V
  | .page result => .page (result.products.map f) result.pageMeta
  | .product view => .product (f view)

/-- What the tables have for a cache key, seen through `f`. -/
inductive Entitled (engine : Engine) {V : Type} (f : ProductView → V) (db : CatalogDb) :
    CacheKey → Seen V → Prop
  | item {product : Product} (hfind : db.products.find? product.id = some product) :
    Entitled engine f db (itemKey product.id) (.product (f (db.view product)))
  | list {query : ProductQuery} {rows : List Product} {total : Nat}
    (hrows : engine.findMany db.products (ProductRepository.filter query)
      (ProductRepository.skip engine query) query.limit = .ok rows)
    (htotal : engine.count db.products (ProductRepository.filter query) = .ok total) :
    Entitled engine f db (listKey query)
      (.page (rows.map fun product => f (db.view product))
        (ProductRepository.metaOf engine query total))

def Coherent (engine : Engine) {V : Type} (f : ProductView → V) (s : Catalog) : Prop :=
  ∀ key entry, s.cache.get key = some entry → Entitled engine f s.db key (entry.seen f)

section Entitled

variable {engine : Engine} {V : Type} {f : ProductView → V} {db db' : CatalogDb} {x : Seen V}

theorem Entitled.key_cases {key : CacheKey} (h : Entitled engine f db key x) :
    (∃ id, key = itemKey id) ∨ ∃ query, key = listKey query := by
  cases h with
  | item hfind => exact .inl ⟨_, rfl⟩
  | list hrows htotal => exact .inr ⟨_, rfl⟩

theorem Entitled.of_itemKey {id : ProductId} (h : Entitled engine f db (itemKey id) x) :
    ∃ product, db.products.find? id = some product ∧ x = .product (f (db.view product)) := by
  generalize hkey : itemKey id = key at h
  cases h with
  | item hfind =>
    obtain rfl := itemKey_injective hkey
    exact ⟨_, hfind, rfl⟩
  | list hrows htotal => exact absurd hkey (itemKey_ne_listKey _ _)

theorem Entitled.of_listKey {query : ProductQuery} (h : Entitled engine f db (listKey query) x) :
    ∃ rows total, engine.findMany db.products (ProductRepository.filter query)
        (ProductRepository.skip engine query) query.limit = .ok rows ∧
      engine.count db.products (ProductRepository.filter query) = .ok total ∧
      x = .page (rows.map fun product => f (db.view product))
        (ProductRepository.metaOf engine query total) := by
  generalize hkey : listKey query = key at h
  cases h with
  | item hfind => exact absurd hkey.symm (itemKey_ne_listKey _ _)
  | list hrows htotal =>
    have hsame := ProductQuery.same_of_listKey hkey
    rw [hsame.filter_eq, hsame.skip_eq, hsame.limit]
    exact ⟨_, _, hrows, htotal, by rw [hsame.metaOf_eq]⟩

theorem Entitled.keep {key : CacheKey} (h : Entitled engine f db key x)
    (hlist : listStem.isPrefixOf key = false)
    (hkeep : ∀ product, db.products.find? product.id = some product → key = itemKey product.id →
      db.Keeps db' product) : Entitled engine f db' key x := by
  cases h with
  | item hfind =>
    obtain ⟨hfind', hview⟩ := hkeep _ hfind rfl
    rw [← hview]
    exact .item hfind'
  | list hrows htotal =>
    rw [isPrefixOf_listKey] at hlist
    cases hlist

end Entitled

structure Agrees {V : Type} (f : ProductView → V) (db db' : CatalogDb) : Prop where
  products : db'.products = db.products
  view : ∀ product, f (db'.view product) = f (db.view product)

theorem Entitled.congr {engine : Engine} {V : Type} {f : ProductView → V} {db db' : CatalogDb}
    {key : CacheKey} {x : Seen V} (hdb : Agrees f db db') (h : Entitled engine f db key x) :
    Entitled engine f db' key x := by
  cases h with
  | item hfind =>
    rw [← hdb.view]
    exact .item (hdb.products ▸ hfind)
  | list hrows htotal =>
    simp only [← hdb.view]
    exact .list (hdb.products ▸ hrows) (hdb.products ▸ htotal)

structure Shrinks {V : Type} (f : ProductView → V) (s t : Catalog) : Prop where
  db : Agrees f s.db t.db
  entries : ∀ {key entry}, t.cache.get key = some entry → s.cache.get key = some entry

theorem Shrinks.trans {V : Type} {f : ProductView → V} {s t u : Catalog} (hst : Shrinks f s t)
    (htu : Shrinks f t u) : Shrinks f s u where
  db :=
    { products := htu.db.products.trans hst.db.products
      view := fun product => (htu.db.view product).trans (hst.db.view product) }
  entries h := hst.entries (htu.entries h)

theorem Coherent.shrink {engine : Engine} {V : Type} {f : ProductView → V} {s t : Catalog}
    (hs : Coherent engine f s) (hst : Shrinks f s t) : Coherent engine f t :=
  fun key entry hentry => (hs key entry (hst.entries hentry)).congr hst.db

structure Admits {V : Type} (f : ProductView → V) (M : CatalogMove → Prop) : Prop where
  del : ∀ c, M c → c.fails .del = none
  keys : ∀ c, M c → c.fails .keys = none
  view : ∀ c, M c → ∀ s product,
    f ((Catalog.drift c s).db.view product) = f (s.db.view product)

namespace Catalog

theorem get_drift {c : CatalogMove} {s : Catalog} {key : CacheKey} {entry : Entry}
    (h : (s.drift c).cache.get key = some entry) : s.cache.get key = some entry := by
  have hcache : (s.drift c).cache = s.cache.keep fun key => !c.expired key := by
    unfold drift
    split <;> rfl
  rw [hcache, KeyValue.get_keep] at h
  split at h
  · exact h
  · cases h

theorem statement_query {α : Type} (turn : DbTurn) (r : Except Error α) (s : Catalog) :
    statement turn (r, s.db) s = (r, s) ∨
      ∃ m, turn = .reject m ∧ statement turn (r, s.db) s = (.error (.plain m), s) := by
  cases turn with
  | accept => exact .inl rfl
  | reject m => exact .inr ⟨m, rfl, rfl⟩

end Catalog

section Rules

variable {engine : Engine} {V : Type} {f : ProductView → V} {M : CatalogMove → Prop}
  {s : Catalog}

theorem Admits.shrinks (hM : Admits f M) {c : CatalogMove} (hc : M c) (s : Catalog) :
    Shrinks f s (s.drift c) where
  db := ⟨Catalog.products_drift c s, hM.view c hc s⟩
  entries := Catalog.get_drift

theorem Admits.get (hM : Admits f M) {key : CacheKey}
    {Q : Except Error (Option Entry) → Catalog → Prop}
    (hmiss : ∀ t, Shrinks f s t → Q (.ok none) t)
    (hhit : ∀ t entry, Shrinks f s t → s.cache.get key = some entry → Q (.ok (some entry)) t) :
    wp M (Catalog.handle engine) (CacheService.get key) Q s := by
  simp only [CacheService.get, wp_tryCatch, wp_perform, Catalog.handle, Catalog.perform]
  intro c hc
  have ht := hM.shrinks hc s
  cases hfails : c.fails .get with
  | some m => exact hmiss _ ht
  | none =>
    cases hget : (s.drift c).cache.get key with
    | none => simpa [Catalog.command, hget] using hmiss _ ht
    | some entry => simpa [Catalog.command, hget] using hhit _ entry ht (ht.entries hget)

theorem Admits.set (hM : Admits f M) {key : CacheKey} {value : Entry} {ttl : Nat}
    {Q : Except Error Unit → Catalog → Prop} (hlost : ∀ t, Shrinks f s t → Q (.ok ()) t)
    (hkept : ∀ t, Shrinks f s t → Q (.ok ()) { t with cache := t.cache.set key value }) :
    wp M (Catalog.handle engine) (CacheService.set key value ttl) Q s := by
  simp only [CacheService.set, wp_tryCatch, wp_perform, Catalog.handle, Catalog.perform]
  intro c hc
  have ht := hM.shrinks hc s
  cases hfails : c.fails .set with
  | some m => exact hlost _ ht
  | none => exact hkept _ ht

theorem Shrinks.del {t : Catalog} (ht : Shrinks f s t) (keys : List CacheKey) :
    Shrinks f s { t with cache := t.cache.del keys } where
  db := ht.db
  entries {key entry} h := by
    rw [KeyValue.get_del] at h
    split at h
    · cases h
    · exact ht.entries h

theorem Admits.delete (hM : Admits f M) {key : CacheKey} {Q : Except Error Unit → Catalog → Prop}
    (hQ : ∀ t, Shrinks f s t → t.cache.get key = none → Q (.ok ()) t) :
    wp M (Catalog.handle engine) (CacheService.delete key) Q s := by
  simp only [CacheService.delete, wp_tryCatch, wp_perform, Catalog.handle, Catalog.perform]
  intro c hc
  rw [hM.del c hc]
  apply hQ _ ((hM.shrinks hc s).del [key])
  exact (KeyValue.get_del [key]).trans (if_pos (List.mem_singleton_self key))

theorem Admits.deletePattern (hM : Admits f M) {stem : CacheKey}
    {Q : Except Error Unit → Catalog → Prop}
    (hQ : ∀ t, Shrinks f s t →
      (∀ key entry, t.cache.get key = some entry → stem.isPrefixOf key = false) → Q (.ok ()) t) :
    wp M (Catalog.handle engine) (CacheService.deletePattern stem) Q s := by
  simp only [CacheService.deletePattern, wp_tryCatch, wp_bind, wp_perform, Catalog.handle,
    Catalog.perform]
  intro c hc
  rw [hM.keys c hc]
  have ht := hM.shrinks hc s
  generalize hkeys : (s.drift c).cache.keys (fun key => stem.isPrefixOf key) = keys
  have hmem : ∀ key entry, (s.drift c).cache.get key = some entry → stem.isPrefixOf key →
      key ∈ keys := by
    rintro key entry hentry hstem
    exact hkeys ▸ KeyValue.mem_keys hentry hstem
  simp only [Catalog.command, cont_ok]
  split
  · simp only [wp_perform, Catalog.handle, Catalog.perform]
    intro c' hc'
    simp only [hM.del c' hc', Catalog.command, cont_ok]
    have ht' := ht.trans (hM.shrinks hc' (s.drift c))
    apply hQ _ (ht'.del keys)
    intro key entry hentry
    rw [KeyValue.get_del] at hentry
    split at hentry
    · cases hentry
    next hnot =>
      by_contra hstem
      exact hnot (hmem key entry (Catalog.get_drift hentry) (by simpa using hstem))
  next hempty =>
    apply hQ _ ht
    intro key entry hentry
    by_contra hstem
    have hpos := List.length_pos_of_mem (hmem key entry hentry (by simpa using hstem))
    exact hempty hpos

end Rules

def Refusing (M : CatalogMove → Prop) : Prop := ∃ c m, M c ∧ c.db = .reject m

section Statements

variable {engine : Engine} {V : Type} {f : ProductView → V} {M : CatalogMove → Prop}
  {s : Catalog} {op : CatalogOp} {Q : Except Error (CatalogOp.Res op) → Catalog → Prop}

theorem Admits.query (hM : Admits f M) {r : CatalogDb → Except Error (CatalogOp.Res op)}
    (hop : ∀ c s, Catalog.perform engine c op s = Catalog.statement c.db (r s.db, s.db) s)
    (hrefused : ∀ e t, Refusing M → Shrinks f s t → Q (.error e) t)
    (hQ : ∀ t, Shrinks f s t → Q (r t.db) t) :
    wp M (Catalog.handle engine) (.perform op) Q s := by
  simp only [wp_perform, Catalog.handle, hop]
  intro c hc
  have ht := hM.shrinks hc s
  rcases Catalog.statement_query c.db (r (s.drift c).db) (s.drift c) with h | ⟨m, hm, h⟩
  · rw [h]
    exact hQ _ ht
  · rw [h]
    exact hrefused _ _ ⟨c, m, hc, hm⟩ ht

theorem Admits.write (hM : Admits f M)
    {r : CatalogMove → CatalogDb → Except Error (CatalogOp.Res op) × CatalogDb}
    (hop : ∀ c s, Catalog.perform engine c op s = Catalog.statement c.db (r c s.db) s)
    (hrefused : ∀ e t, Shrinks f s t → Q (.error e) t)
    (hQ : ∀ c t, Shrinks f s t → Q (r c t.db).1 { t with db := (r c t.db).2 }) :
    wp M (Catalog.handle engine) (.perform op) Q s := by
  simp only [wp_perform, Catalog.handle, hop]
  intro c hc
  have ht := hM.shrinks hc s
  cases c.db with
  | accept => exact hQ c _ ht
  | reject m => exact hrefused _ _ ht

end Statements

namespace Catalog

/-- What `findAll` makes of the tables. -/
def listed (engine : Engine) (query : ProductQuery) (db : CatalogDb) : Except Error ProductPage := do
  let rows ← engine.findMany db.products (ProductRepository.filter query)
    (ProductRepository.skip engine query) query.limit
  let total ← engine.count db.products (ProductRepository.filter query)
  return ⟨rows.map db.view, ProductRepository.metaOf engine query total⟩

variable {engine : Engine} {query : ProductQuery} {db : CatalogDb}

theorem listed_ok {rows : List Product} {total : Nat}
    (hrows : engine.findMany db.products (ProductRepository.filter query)
      (ProductRepository.skip engine query) query.limit = .ok rows)
    (htotal : engine.count db.products (ProductRepository.filter query) = .ok total) :
    listed engine query db =
      .ok ⟨rows.map db.view, ProductRepository.metaOf engine query total⟩ := by
  rw [listed, hrows, htotal]
  rfl

theorem listed_rows_error {e : Error}
    (hrows : engine.findMany db.products (ProductRepository.filter query)
      (ProductRepository.skip engine query) query.limit = .error e) :
    listed engine query db = .error e := by
  rw [listed, hrows]
  rfl

theorem listed_count_error {rows : List Product} {e : Error}
    (hrows : engine.findMany db.products (ProductRepository.filter query)
      (ProductRepository.skip engine query) query.limit = .ok rows)
    (htotal : engine.count db.products (ProductRepository.filter query) = .error e) :
    listed engine query db = .error e := by
  rw [listed, hrows, htotal]
  rfl

theorem listed_eq_ok {page : ProductPage} (h : listed engine query db = .ok page) :
    ∃ rows total, engine.findMany db.products (ProductRepository.filter query)
        (ProductRepository.skip engine query) query.limit = .ok rows ∧
      engine.count db.products (ProductRepository.filter query) = .ok total ∧
      page = ⟨rows.map db.view, ProductRepository.metaOf engine query total⟩ := by
  cases hrows : engine.findMany db.products (ProductRepository.filter query)
      (ProductRepository.skip engine query) query.limit with
  | error e => rw [listed_rows_error hrows] at h; cases h
  | ok rows =>
    cases htotal : engine.count db.products (ProductRepository.filter query) with
    | error e => rw [listed_count_error hrows htotal] at h; cases h
    | ok total =>
      rw [listed_ok hrows htotal] at h
      exact ⟨rows, total, rfl, rfl, (Except.ok.inj h).symm⟩

/-- The tables have the page, up to what `f` does not show. -/
def HasPage {V : Type} (engine : Engine) (f : ProductView → V) (query : ProductQuery)
    (entry : Entry) (db : CatalogDb) : Prop :=
  ∃ page, listed engine query db = .ok page ∧ entry.seen f = (Entry.page page).seen f

def HasProduct {V : Type} (f : ProductView → V) (id : ProductId) (entry : Option Entry)
    (db : CatalogDb) : Prop :=
  entry.map (Entry.seen f) =
    (db.products.find? id).map fun product => .product (f (db.view product))

end Catalog

structure Consistent (engine : Engine) {V : Type} (f : ProductView → V) (s t : Catalog) : Prop where
  db : Agrees f s.db t.db
  coherent : Coherent engine f t

section Reads

variable {engine : Engine} {V : Type} {f : ProductView → V} {M : CatalogMove → Prop}
  {s t : Catalog} {db db' : CatalogDb}

theorem Agrees.listed_eq_ok (hdb : Agrees f db db') {query : ProductQuery} {page : ProductPage}
    (h : Catalog.listed engine query db = .ok page) :
    ∃ page', Catalog.listed engine query db' = .ok page' ∧
      (Entry.page page').seen f = (Entry.page page).seen f := by
  obtain ⟨rows, total, hrows, htotal, rfl⟩ := Catalog.listed_eq_ok h
  rw [← hdb.products] at hrows htotal
  refine ⟨_, Catalog.listed_ok hrows htotal, ?_⟩
  simp [Entry.seen, hdb.view]

theorem Agrees.hasPage (hdb : Agrees f db db') {query : ProductQuery} {entry : Entry}
    (h : Catalog.HasPage engine f query entry db) : Catalog.HasPage engine f query entry db' := by
  obtain ⟨page, hpage, hseen⟩ := h
  obtain ⟨page', hpage', hseen'⟩ := hdb.listed_eq_ok hpage
  exact ⟨page', hpage', hseen.trans hseen'.symm⟩

theorem Agrees.hasProduct (hdb : Agrees f db db') {id : ProductId} {entry : Option Entry}
    (h : Catalog.HasProduct f id entry db) : Catalog.HasProduct f id entry db' := by
  rw [Catalog.HasProduct, h, hdb.products]
  simp [hdb.view]

theorem Catalog.HasPage.entitled {query : ProductQuery} {entry : Entry}
    (h : Catalog.HasPage engine f query entry db) :
    Entitled engine f db (listKey query) (entry.seen f) := by
  obtain ⟨page, hpage, hseen⟩ := h
  obtain ⟨rows, total, hrows, htotal, rfl⟩ := Catalog.listed_eq_ok hpage
  rw [hseen, Entry.seen, List.map_map]
  exact .list hrows htotal

theorem Catalog.HasProduct.entitled {id : ProductId} {entry : Entry}
    (h : Catalog.HasProduct f id (some entry) db) :
    Entitled engine f db (itemKey id) (entry.seen f) := by
  obtain ⟨product, hfind, hseen⟩ := Option.map_eq_some_iff.mp h.symm
  obtain rfl := Table.key_of_find? hfind
  rw [← hseen]
  exact .item hfind

theorem Shrinks.consistent (hs : Coherent engine f s) (ht : Shrinks f s t) :
    Consistent engine f s t := ⟨ht.db, hs.shrink ht⟩

theorem Shrinks.consistent_set {key : CacheKey} {value : Entry} (hs : Coherent engine f s)
    (ht : Shrinks f s t) (hvalue : Entitled engine f t.db key (value.seen f)) :
    Consistent engine f s { t with cache := t.cache.set key value } where
  db := ht.db
  coherent key' entry hentry := by
    rw [KeyValue.get_set] at hentry
    split at hentry
    · next hkey =>
      obtain rfl := Option.some.inj hentry
      exact hkey ▸ hvalue
    · exact hs.shrink ht key' entry hentry

theorem Admits.findById (hM : Admits f M) (id : ProductId) :
    wp M (Catalog.handle engine) (ProductRepository.findById id)
      (cont (fun view t => Shrinks f s t ∧ Catalog.HasProduct f id (view.map .product) t.db)
        fun _ t => Shrinks f s t ∧ Refusing M) s := by
  refine hM.query (r := fun db => .ok ((db.products.find? id).map db.view)) (fun c s => rfl)
    (fun e t hrefused ht => ⟨ht, hrefused⟩) fun t ht => ⟨ht, ?_⟩
  simp [Catalog.HasProduct, Entry.seen, Function.comp_def]

theorem Admits.findAll (hM : Admits f M) (query : ProductQuery) :
    wp M (Catalog.handle engine) (ProductRepository.findAll engine query)
      (cont (fun page t => Shrinks f s t ∧ Catalog.HasPage engine f query (.page page) t.db)
        fun e t => Shrinks f s t ∧
          (Refusing M ∨ Catalog.listed engine query t.db = .error e)) s := by
  rw [ProductRepository.findAll, wp_bind]
  refine hM.query (r := fun db => (engine.findMany db.products (ProductRepository.filter query)
    (ProductRepository.skip engine query) query.limit).map (·.map db.view)) (fun c s => rfl)
    (fun e t hrefused ht => ⟨ht, .inl hrefused⟩) fun t ht => ?_
  cases hrows : engine.findMany t.db.products (ProductRepository.filter query)
      (ProductRepository.skip engine query) query.limit with
  | error e => exact ⟨ht, .inr (Catalog.listed_rows_error hrows)⟩
  | ok rows =>
    simp only [Except.map, cont_ok, wp_bind]
    refine hM.query (r := fun db => engine.count db.products (ProductRepository.filter query))
      (fun c s => rfl) (fun e u hrefused hu => ⟨ht.trans hu, .inl hrefused⟩) fun u hu => ?_
    have hu' := ht.trans hu
    rw [← hu.db.products] at hrows
    cases htotal : engine.count u.db.products (ProductRepository.filter query) with
    | error e => exact ⟨hu', .inr (Catalog.listed_count_error hrows htotal)⟩
    | ok total =>
      refine ⟨hu', _, Catalog.listed_ok hrows htotal, ?_⟩
      -- the rows around the products may change between the two queries
      simp [Entry.seen, hu.db.view]

theorem Coherent.getById (hs : Coherent engine f s) (hM : Admits f M) (id : ProductId) :
    wp M (Catalog.handle engine) (ProductService.getById id)
      (cont (fun entry t => Consistent engine f s t ∧ Catalog.HasProduct f id entry t.db)
        fun _ t => Consistent engine f s t ∧ Refusing M) s := by
  rw [ProductService.getById, wp_bind]
  refine hM.get (fun t ht => ?_) fun t entry ht hentry => ?_
  · rw [cont_ok, wp_bind]
    apply (hM.findById id).mono
    intro r u hr
    cases r with
    | error e => exact ⟨(ht.trans hr.1).consistent hs, hr.2⟩
    | ok view =>
      obtain ⟨hu, hview⟩ := hr
      have hu := ht.trans hu
      cases view with
      | none => exact ⟨hu.consistent hs, hview⟩
      | some view =>
        rw [cont_ok, wp_bind]
        refine hM.set (fun v hv => ?_) fun v hv => ?_
        · exact ⟨(hu.trans hv).consistent hs, hv.db.hasProduct hview⟩
        · have hview := hv.db.hasProduct hview
          exact ⟨(hu.trans hv).consistent_set hs hview.entitled, hview⟩
  · obtain ⟨product, hfind, hseen⟩ := (hs _ _ hentry).of_itemKey
    refine ⟨ht.consistent hs, ht.db.hasProduct ?_⟩
    simp [Catalog.HasProduct, hseen, hfind]

theorem Coherent.getAll (hs : Coherent engine f s) (hM : Admits f M) (query : ProductQuery) :
    wp M (Catalog.handle engine) (ProductService.getAll engine query)
      (cont (fun entry t => Consistent engine f s t ∧ Catalog.HasPage engine f query entry t.db)
        fun e t => Consistent engine f s t ∧
          (Refusing M ∨ Catalog.listed engine query t.db = .error e)) s := by
  rw [ProductService.getAll, wp_bind]
  refine hM.get (fun t ht => ?_) fun t entry ht hentry => ?_
  · rw [cont_ok, wp_bind]
    apply (hM.findAll query).mono
    intro r u hr
    cases r with
    | error e => exact ⟨(ht.trans hr.1).consistent hs, hr.2⟩
    | ok page =>
      obtain ⟨hu, hpage⟩ := hr
      have hu := ht.trans hu
      rw [cont_ok, wp_bind]
      refine hM.set (fun v hv => ?_) fun v hv => ?_
      · exact ⟨(hu.trans hv).consistent hs, hv.db.hasPage hpage⟩
      · have hpage := hv.db.hasPage hpage
        exact ⟨(hu.trans hv).consistent_set hs hpage.entitled, hpage⟩
  · obtain ⟨rows, total, hrows, htotal, hseen⟩ := (hs _ _ hentry).of_listKey
    refine ⟨ht.consistent hs, ht.db.hasPage ⟨_, Catalog.listed_ok hrows htotal, ?_⟩⟩
    rw [hseen, Entry.seen, List.map_map]
    rfl

end Reads

section Writes

variable {engine : Engine} {V : Type} {f : ProductView → V} {M : CatalogMove → Prop}
  {s t : Catalog} {id : ProductId}

theorem Coherent.create (hs : Coherent engine f s) (hM : Admits f M) (data : ProductData) :
    wp M (Catalog.handle engine) (ProductService.create data)
      (fun _ t => Coherent engine f t) s := by
  rw [ProductService.create, wp_bind]
  refine hM.write (r := fun c db => db.create data c.newId c.now) (fun c s => rfl)
    (fun e t ht => hs.shrink ht) fun c t ht => ?_
  have ht := hs.shrink ht
  cases hcreate : (t.db.create data c.newId c.now).1 with
  | error e =>
    rw [CatalogDb.create_error hcreate]
    exact ht
  | ok written =>
    rw [cont_ok, wp_bind]
    apply hM.deletePattern
    intro u hu hpages key entry hentry
    refine ((ht key entry (hu.entries hentry)).keep (hpages key entry hentry) ?_).congr hu.db
    exact fun product hfind _ => CatalogDb.keeps_create hfind

theorem Coherent.invalidate (hs : Coherent engine f s) (hM : Admits f M) {db' : CatalogDb}
    (hkeeps : ∀ product, s.db.products.find? product.id = some product → product.id ≠ id →
      s.db.Keeps db' product) :
    wp M (Catalog.handle engine) (ProductService.invalidate id)
      (fun _ t => Coherent engine f t) { s with db := db' } := by
  rw [ProductService.invalidate, wp_bind]
  apply hM.delete
  intro t ht hnone
  apply hM.deletePattern
  intro u hu hpages key entry hentry
  have hentry' := hu.entries hentry
  have hkey : key ≠ itemKey id := by
    rintro rfl
    rw [hentry'] at hnone
    cases hnone
  have hentitled := (hs key entry (ht.entries hentry')).keep (hpages key entry hentry)
    fun product hfind hproduct => hkeeps product hfind fun hid => hkey (hid ▸ hproduct)
  exact hentitled.congr (ht.trans hu).db

theorem Coherent.update (hs : Coherent engine f s) (hM : Admits f M) (id : ProductId)
    (data : ProductData) :
    wp M (Catalog.handle engine) (ProductService.update id data)
      (fun _ t => Coherent engine f t) s := by
  rw [ProductService.update, ProductRepository.update_eq, wp_bind, wp_bind]
  refine hM.write (r := fun c db => db.update id data c.now) (fun c s => rfl)
    (fun e t ht => hs.shrink ht) fun c t ht => ?_
  have ht := hs.shrink ht
  cases hupdate : (t.db.update id data c.now).1 with
  | error e =>
    rw [CatalogDb.update_error hupdate]
    exact ht
  | ok written =>
    rw [cont_ok, wp_pure, cont_ok, wp_bind]
    refine (ht.invalidate hM fun product => CatalogDb.keeps_update).mono fun r u hu => ?_
    cases r <;> exact hu

theorem Coherent.delete (hs : Coherent engine f s) (hM : Admits f M) (id : ProductId) :
    wp M (Catalog.handle engine) (ProductService.delete id)
      (fun _ t => Coherent engine f t) s := by
  rw [ProductService.delete, ProductRepository.delete, wp_bind, wp_tryCatch, wp_bind]
  refine hM.write (r := fun _ db => db.delete id) (fun c s => rfl)
    (fun e t ht => hs.shrink ht) fun c t ht => ?_
  have ht := hs.shrink ht
  cases hdelete : (t.db.delete id).1 with
  | error e =>
    rw [CatalogDb.delete_error hdelete]
    exact ht
  | ok done =>
    simp only [cont_ok, wp_pure, Bool.true_eq_false, if_false, wp_bind]
    refine (ht.invalidate hM fun product => CatalogDb.keeps_delete).mono fun r u hu => ?_
    cases r <;> exact hu

end Writes

/-- Nothing happens but what is asked for. -/
def CatalogMove.calm : CatalogMove where
  db := .accept
  newId := ""
  now := 0
  expired _ := false
  others := none
  fails _ := none

/-- What the repository itself answers a read with. -/
def ProductRequest.uncached (engine : Engine) (s : Catalog) :
    ProductRequest → Option (Except Error (Option Entry))
  | .getById id => some (((ProductRepository.findById id).run (Catalog.handle engine .calm) s).1.map
      fun view => view.map .product)
  | .getAll query | .search query =>
    some (((ProductRepository.findAll engine query).run (Catalog.handle engine .calm) s).1.map
      fun page => some (.page page))
  | .create _ | .update _ _ | .delete _ => none

/-- The answer is the repository's, up to what `f` does not show; or else a rejection for which there
is a reason. -/
def ReadAnswered {V : Type} (f : ProductView → V) (refused : Prop)
    (expected : Except Error (Option Entry)) : Except Error ProductAnswer → Prop
  | .ok (.read entry) => expected.map (Option.map (Entry.seen f)) = .ok (entry.map (Entry.seen f))
  | .ok (.written _) => False
  | .ok .deleted => False
  | .error e => refused ∨ expected = .error e

/-- The settlement of a call, and the state that it leaves. -/
def Catalog.call (engine : Engine) (s : Catalog) (call : ProductRequest × Script CatalogMove) :
    Except Error ProductAnswer × Catalog :=
  (call.1.program engine).play (Catalog.handle engine) call.2 s

section Calls

variable {engine : Engine} {V : Type} {f : ProductView → V} {M : CatalogMove → Prop}
  {s : Catalog}

theorem Catalog.run_findById (engine : Engine) (id : ProductId) (s : Catalog) :
    ((ProductRepository.findById id).run (Catalog.handle engine .calm) s).1 =
      .ok ((s.db.products.find? id).map s.db.view) := rfl

theorem Catalog.run_findAll (engine : Engine) (query : ProductQuery) (s : Catalog) :
    ((ProductRepository.findAll engine query).run (Catalog.handle engine .calm) s).1 =
      Catalog.listed engine query s.db := by
  have hmany : Catalog.handle engine .calm (.findMany (ProductRepository.filter query)
      (ProductRepository.skip engine query) query.limit) s =
    ((engine.findMany s.db.products (ProductRepository.filter query)
      (ProductRepository.skip engine query) query.limit).map (·.map s.db.view), s.drift .calm) := rfl
  have hcount : ∀ t : Catalog,
    Catalog.handle engine .calm (.count (ProductRepository.filter query)) t =
      (engine.count t.db.products (ProductRepository.filter query), t.drift .calm) := fun t => rfl
  simp only [ProductRepository.findAll, run_bind, run_perform, run_pure, hmany, hcount]
  cases hrows : engine.findMany s.db.products (ProductRepository.filter query)
      (ProductRepository.skip engine query) query.limit with
  | error e => exact (listed_rows_error hrows).symm
  | ok rows =>
    cases htotal : engine.count s.db.products (ProductRepository.filter query) with
    | error e =>
      simp only [Except.map, Catalog.products_drift, htotal]
      exact (listed_count_error hrows htotal).symm
    | ok total =>
      simp only [Except.map, Catalog.products_drift, htotal]
      exact (listed_ok hrows htotal).symm

theorem ReadAnswered.of_hasPage {refused : Prop} {query : ProductQuery} {entry : Entry}
    (h : Catalog.HasPage engine f query entry s.db) :
    ReadAnswered f refused ((Catalog.listed engine query s.db).map fun page => some (.page page))
      (.ok (.read (some entry))) := by
  obtain ⟨page, hpage, hseen⟩ := h
  rw [ReadAnswered, hpage]
  exact congrArg (fun x => Except.ok (some x)) hseen.symm

theorem ReadAnswered.imp {refused refused' : Prop} {expected : Except Error (Option Entry)}
    {answer : Except Error ProductAnswer} (h : refused → refused')
    (hanswer : ReadAnswered f refused expected answer) :
    ReadAnswered f refused' expected answer := by
  cases answer with
  | error e => exact Or.imp_left h hanswer
  | ok answer => cases answer <;> exact hanswer

theorem Coherent.list (hs : Coherent engine f s) (hM : Admits f M) (query : ProductQuery) :
    wp M (Catalog.handle engine) (ProductRequest.program engine (.getAll query))
      (fun r t => Coherent engine f t ∧ ReadAnswered f (Refusing M)
        ((Catalog.listed engine query t.db).map fun page => some (.page page)) r) s := by
  rw [ProductRequest.program, wp_bind]
  apply (hs.getAll hM query).mono
  intro r t hr
  cases r with
  | error e =>
    refine ⟨hr.1.coherent, hr.2.imp_right fun hlisted => ?_⟩
    rw [hlisted]
    rfl
  | ok entry => exact ⟨hr.1.coherent, .of_hasPage hr.2⟩

theorem Coherent.request (hs : Coherent engine f s) (hM : Admits f M) (request : ProductRequest) :
    wp M (Catalog.handle engine) (request.program engine)
      (fun r t => Coherent engine f t ∧
        ∀ expected, request.uncached engine t = some expected →
          ReadAnswered f (Refusing M) expected r) s := by
  cases request with
  | getById id =>
    rw [ProductRequest.program, wp_bind]
    apply (hs.getById hM id).mono
    intro r t hr
    cases r with
    | error e => exact ⟨hr.1.coherent, fun _ _ => .inl hr.2⟩
    | ok entry =>
      refine ⟨hr.1.coherent, fun expected hexpected => ?_⟩
      obtain rfl := Option.some.inj hexpected
      have hentry : entry.map (Entry.seen f) = _ := hr.2
      simp [ReadAnswered, Catalog.run_findById, Except.map, hentry, Entry.seen, Function.comp_def]
  | getAll query | search query =>
    refine (hs.list hM query).mono fun r t hr => ⟨hr.1, fun expected hexpected => ?_⟩
    obtain rfl := Option.some.inj hexpected
    rw [Catalog.run_findAll]
    exact hr.2
  | create data =>
    rw [ProductRequest.program, wp_bind]
    apply (hs.create hM data).mono
    intro r t ht
    cases r <;> exact ⟨ht, by rintro _ ⟨⟩⟩
  | update id data =>
    rw [ProductRequest.program, wp_bind]
    apply (hs.update hM id data).mono
    intro r t ht
    cases r <;> exact ⟨ht, by rintro _ ⟨⟩⟩
  | delete id =>
    rw [ProductRequest.program, wp_bind]
    apply (hs.delete hM id).mono
    intro r t ht
    cases r <;> exact ⟨ht, by rintro _ ⟨⟩⟩

end Calls

theorem coherent_empty (engine : Engine) {V : Type} (f : ProductView → V) (db : CatalogDb) :
    Coherent engine f ⟨db, .empty⟩ := by
  intro key entry hentry
  cases hentry

/-- Only `del` and `keys` have to work. -/
def CatalogMove.Invalidates (c : CatalogMove) : Prop := c.fails .del = none ∧ c.fails .keys = none

theorem admits_product {M : CatalogMove → Prop} (hM : ∀ c, M c → c.Invalidates) :
    Admits ProductView.product M where
  del c hc := (hM c hc).1
  keys c hc := (hM c hc).2
  view _ _ _ _ := rfl

theorem Coherent.call {engine : Engine} {V : Type} {f : ProductView → V} {s : Catalog}
    {call : ProductRequest × Script CatalogMove} (hs : Coherent engine f s)
    (hM : Admits f fun c => ∃ n, call.2 n = c) :
    Coherent engine f (s.call engine call).2 ∧
      ∀ expected, call.1.uncached engine (s.call engine call).2 = some expected →
        ReadAnswered f (∃ n m, (call.2 n).db = .reject m) expected (s.call engine call).1 := by
  obtain ⟨hcoherent, hanswer⟩ := (hs.request hM call.1).play fun n => ⟨n, rfl⟩
  refine ⟨hcoherent, fun expected hexpected => (hanswer expected hexpected).imp ?_⟩
  rintro ⟨c, m, ⟨n, rfl⟩, hm⟩
  exact ⟨n, m, hm⟩

/-- After any calls, every cached or uncached read has the columns, the order and the meta that the
repository answers with at that moment. -/
theorem cached_reads (engine : Engine) (db : CatalogDb)
    {calls : List (ProductRequest × Script CatalogMove)}
    (hcalls : ∀ call ∈ calls, ∀ n, (call.2 n).Invalidates) :
    Runs.Along (fun (s : Catalog) call => (s.call engine call).2)
      (fun s call => ∀ expected, call.1.uncached engine (s.call engine call).2 = some expected →
        ReadAnswered ProductView.product (∃ n m, (call.2 n).db = .reject m) expected
          (s.call engine call).1)
      ⟨db, .empty⟩ calls := by
  have hadmits : ∀ call : ProductRequest × Script CatalogMove, (∀ n, (call.2 n).Invalidates) →
      Admits ProductView.product fun c => ∃ n, call.2 n = c :=
    fun call hworks => admits_product fun c ⟨n, hn⟩ => hn ▸ hworks n
  exact Runs.along_of_invariant (J := Coherent engine ProductView.product)
    (fun s call hs hworks => (hs.call (hadmits call hworks)).2)
    (fun s call hs hworks => (hs.call (hadmits call hworks)).1) (coherent_empty engine _ db)
    (Runs.along_of_forall hcalls)

section Example

/-- Exact arithmetic, and a database that knows filters by category only. -/
def Engine.exact : Engine where
  round := id
  findMany t filter skip take := .ok <|
    ((t.rows.filter fun product =>
      product.isActive && filter.categoryId.all (· = product.categoryId)).drop
        ⌊skip⌋.toNat).take ⌊take.value⌋.toNat
  count t filter := .ok <| (t.rows.filter fun product =>
    product.isActive && filter.categoryId.all (· = product.categoryId)).length
  mem_of_findMany := by
    rintro t filter skip take rows h product hmem
    obtain rfl := Except.ok.inj h
    exact (List.mem_filter.mp (List.mem_of_mem_drop (List.mem_of_mem_take hmem))).1

/-- One category with one product, and its stock. -/
def CatalogDb.sample : CatalogDb where
  products := ⟨[⟨"p", "sku", "Lamp", "lamp", none, 1000, "c", none, true, 0, 0⟩], by decide⟩
  categories := ⟨[⟨"c", "Light", "light", none, none, true, 0, 0⟩], by decide⟩
  inventory := Function.update (fun _ => none) "p" (some ⟨⟨5, 0, 1⟩, "i", "p", 0⟩)

/-- The lamp for twelve. -/
def ProductRequest.dearer : ProductRequest :=
  .update "p" { price := some (.decimal ⟨false, 12, 2, by decide⟩) }

private def readings : List (ProductRequest × Script CatalogMove) :=
  [.getById "p", .dearer, .getById "p", .delete "q"].map fun request => (request, fun _ => .calm)

theorem cached_reads_sample :
    Runs.Along (fun (s : Catalog) call => (s.call .exact call).2)
      (fun s call => ∀ expected, call.1.uncached .exact (s.call .exact call).2 = some expected →
        ReadAnswered ProductView.product (∃ n m, (call.2 n).db = .reject m) expected
          (s.call .exact call).1)
      ⟨.sample, .empty⟩ readings :=
  cached_reads .exact .sample (by simp [readings, CatalogMove.Invalidates, CatalogMove.calm])

end Example

end Ecommerce
