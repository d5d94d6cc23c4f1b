import Ecommerce.Catalog.Coherence
import Ecommerce.Catalog.Messaging

namespace Ecommerce

open Prog

structure ProductCopy where
  name : String
  sku : String
  price : Int
  categoryId : String

namespace ProductCopy

def of (product : Product) : ProductCopy :=
  ⟨product.name, product.sku, product.price, product.categoryId⟩

def apply (changes : ProductData) (copy : ProductCopy) : ProductCopy where
  name := changes.name.getD copy.name
  sku := changes.sku.getD copy.sku
  price := (changes.price.map hundredths).getD copy.price
  categoryId := changes.categoryId.getD copy.categoryId

end ProductCopy

abbrev Mirror := ProductId → Option ProductCopy

namespace Mirror

def of (products : ProductTable) : Mirror := fun id => (products.find? id).map .of

def apply (mirror : Mirror) : ProductEvent → Mirror
  | .created id name sku price categoryId =>
    Function.update mirror id (some ⟨name, sku, price, categoryId⟩)
  | .updated id changes =>
    match mirror id with
    | none => mirror
    | some copy =>
      Function.update (Function.update mirror id none) (changes.id.getD id)
        (some (copy.apply changes))
  | .deleted id _ => Function.update mirror id none

def replay (events : List ProductEvent) (mirror : Mirror) : Mirror := events.foldl apply mirror

theorem replay_concat (events : List ProductEvent) (event : ProductEvent) (mirror : Mirror) :
    replay (events ++ [event]) mirror = (replay events mirror).apply event := List.foldl_concat ..

section Statement

variable {products products' : ProductTable} {product : Product} {id : ProductId}

theorem of_insert (h : products.insert product = some products') : of products' =
    (of products).apply
      (.created product.id product.name product.sku product.price product.categoryId) := by
  funext k
  rw [of, Table.find?_insert h, apply, Function.update_apply]
  split <;> rfl

theorem of_replace {data : ProductData} {now : Int} (hfind : products.find? id = some product)
    (h : products.replace id (data.apply now product) = some products') :
    of products' = (of products).apply (.updated id data) := by
  obtain rfl := Table.key_of_find? hfind
  have hcopy : of products product.id = some (.of product) := by rw [of, hfind, Option.map_some]
  funext k
  simp only [apply, hcopy, Function.update_apply]
  rw [of, Table.find?_replace_eq h (by rw [hfind]; rfl)]
  change Option.map _ (if k = data.id.getD product.id then _ else _) = _
  split
  · rfl
  · split <;> rfl

theorem of_filter (id : ProductId) (deletedAt : Int) :
    of (products.filter (·.id ≠ id)) = (of products).apply (.deleted id deletedAt) := by
  funext k
  rw [of, Table.find?_filter_key_ne, apply, Function.update_apply]
  split <;> rfl

end Statement

end Mirror

def CatalogOp.Still : CatalogOp → Prop
  | .create _ => False
  | .update _ _ => False
  | .delete _ => False
  | _ => True

namespace Catalog

variable {engine : Engine}

theorem products_statement {α : Type} (turn : DbTurn) {r : Except Error α × CatalogDb} {s : Catalog}
    (hr : r.2.products = s.db.products) :
    (statement turn r s).2.db.products = s.db.products := by
  unfold statement
  split
  · exact hr
  · rfl

theorem products_command {α : Type} (failure : Option String) (r : α × KeyValue CacheKey Entry)
    (s : Catalog) : (command failure r s).2.db.products = s.db.products := by
  unfold command
  split <;> rfl

theorem products_handle (c : CatalogMove) {op : CatalogOp} (hop : op.Still) (s : Catalog) :
    (handle engine c op s).2.db.products = s.db.products := by
  rw [← products_drift c s]
  cases op with
  | create data => exact hop.elim
  | update id data => exact hop.elim
  | delete id => exact hop.elim
  | findMany filter skip take => exact products_statement c.db rfl
  | count filter => exact products_statement c.db rfl
  | findUnique id => exact products_statement c.db rfl
  | get key => exact products_command ..
  | setex key ttl value => exact products_command ..
  | del keys => exact products_command ..
  | keys stem => exact products_command ..

end Catalog

namespace ProductService

variable {engine : Engine}

theorem still_getAll (query : ProductQuery) : Awaits CatalogOp.Still (getAll engine query) := by
  refine Awaits.bind (Awaits.tryCatch ⟨trivial, fun r => awaits_settle r⟩ fun _ => trivial)
    fun cached => ?_
  cases cached with
  | some entry => trivial
  | none =>
    refine Awaits.bind ?_ fun result => Awaits.bind ?_ fun _ => trivial
    · exact Awaits.bind ⟨trivial, fun r => awaits_settle r⟩ fun products =>
        Awaits.bind ⟨trivial, fun r => awaits_settle r⟩ fun total => trivial
    · exact Awaits.tryCatch ⟨trivial, fun r => awaits_settle r⟩ fun _ => trivial

theorem still_getById (id : ProductId) : Awaits CatalogOp.Still (getById id) := by
  refine Awaits.bind (Awaits.tryCatch ⟨trivial, fun r => awaits_settle r⟩ fun _ => trivial)
    fun cached => ?_
  cases cached with
  | some entry => trivial
  | none =>
    refine Awaits.bind ⟨trivial, fun r => awaits_settle r⟩ fun found => ?_
    cases found with
    | none => trivial
    | some product =>
      exact Awaits.bind (Awaits.tryCatch ⟨trivial, fun r => awaits_settle r⟩ fun _ => trivial)
        fun _ => trivial

theorem still_invalidate (id : ProductId) : Awaits CatalogOp.Still (invalidate id) :=
  awaits_invalidate (fun _ => trivial) trivial id

theorem still_deletePattern : Awaits CatalogOp.Still (CacheService.deletePattern listStem) :=
  awaits_deletePattern (fun _ => trivial) trivial

end ProductService

/-- The copy `m` is the table's once it has seen the event of what has resolved. -/
def Mirrors {α : Type} (m : Mirror) (event : α → ProductEvent) : Except Error α → Catalog → Prop :=
  cont (fun a s => Mirror.of s.db.products = m.apply (event a))
    fun _ s => Mirror.of s.db.products = m

section Mirrors

variable {engine : Engine} {s : Catalog}

theorem mirrors_statement {α : Type} {event : α → ProductEvent} (turn : DbTurn)
    {r : Except Error α × CatalogDb}
    (hr : cont (fun a (db : CatalogDb) =>
        Mirror.of db.products = (Mirror.of s.db.products).apply (event a))
      (fun _ db => db.products = s.db.products) r.1 r.2) :
    Mirrors (Mirror.of s.db.products) event (Catalog.statement turn r s).1
      (Catalog.statement turn r s).2 := by
  unfold Catalog.statement
  split
  · obtain ⟨e | a, db⟩ := r
    · exact congrArg Mirror.of hr
    · exact hr
  · exact congrArg Mirror.of rfl

theorem mirrors_after {α : Type} {m : Mirror} {event : α → ProductEvent} {a : α}
    {q : CatalogM Unit} (hs : Mirror.of s.db.products = m.apply (event a))
    (hq : Awaits CatalogOp.Still q)
    (hok : wp (fun _ => True) (Catalog.handle engine) q (fun r _ => ∃ u, r = .ok u) s) :
    wp (fun _ => True) (Catalog.handle engine) (q >>= fun _ => Pure.pure a) (Mirrors m event) s := by
  have htable : wp (fun _ => True) (Catalog.handle engine) q
      (fun _ s => Mirror.of s.db.products = m.apply (event a)) s :=
    hq.wp (fun c op s _ hop hs => by rw [Catalog.products_handle c hop, hs]) hs
  rw [wp_bind]
  refine (htable.and hok).mono fun r s h => ?_
  obtain ⟨hs, u, rfl⟩ := h
  exact hs

theorem ok_deletePattern (stem : CacheKey) :
    wp (fun _ => True) (Catalog.handle engine) (CacheService.deletePattern stem)
      (fun r _ => ∃ u, r = .ok u) s := wp_swallow _ _

theorem ok_invalidate (id : ProductId) :
    wp (fun _ => True) (Catalog.handle engine) (ProductService.invalidate id)
      (fun r _ => ∃ u, r = .ok u) s := by
  have hdelete : wp (fun _ => True) (Catalog.handle engine)
      (CacheService.delete (ProductService.itemKey id)) (fun r _ => ∃ u, r = .ok u) s :=
    wp_swallow _ _
  rw [ProductService.invalidate, wp_bind]
  refine hdelete.mono fun r s h => ?_
  obtain ⟨u, rfl⟩ := h
  exact ok_deletePattern _

theorem mirrors_create (data : ProductData) :
    wp (fun _ => True) (Catalog.handle engine) (ProductService.create data)
      (Mirrors (Mirror.of s.db.products) CatalogMessaging.createdEvent) s := by
  rw [ProductService.create, ProductRepository.create, wp_bind, wp_perform]
  intro c _
  have hstatement : Mirrors (Mirror.of s.db.products) CatalogMessaging.createdEvent
      (Catalog.handle engine c (.create data) s).1 (Catalog.handle engine c (.create data) s).2 := by
    rw [← Catalog.products_drift c s]
    apply mirrors_statement
    obtain ⟨e, h⟩ | ⟨product, category, products, -, -, hinsert, h⟩ :=
      CatalogDb.create_cases data c.newId c.now (s.drift c).db
    · rw [h]
      rfl
    · rw [h]
      exact Mirror.of_insert hinsert
  cases hr : (Catalog.handle engine c (.create data) s).1 with
  | error e => rwa [hr] at hstatement
  | ok written =>
    rw [hr] at hstatement
    exact mirrors_after hstatement ProductService.still_deletePattern (ok_deletePattern _)

theorem mirrors_update (id : ProductId) (data : ProductData) :
    wp (fun _ => True) (Catalog.handle engine) (ProductService.update id data)
      (Mirrors (Mirror.of s.db.products) fun _ => .updated id data) s := by
  rw [ProductService.update, ProductRepository.update_eq, wp_bind, wp_bind, wp_perform]
  intro c _
  have hstatement : Mirrors (Mirror.of s.db.products) (fun _ => .updated id data)
      (Catalog.handle engine c (.update id data) s).1
      (Catalog.handle engine c (.update id data) s).2 := by
    rw [← Catalog.products_drift c s]
    apply mirrors_statement
    obtain ⟨e, h⟩ | ⟨product, category, products, hfind, -, hreplace, h⟩ :=
      CatalogDb.update_cases id data c.now (s.drift c).db
    · rw [h]
      rfl
    · rw [h]
      exact Mirror.of_replace hfind hreplace
  cases hr : (Catalog.handle engine c (.update id data) s).1 with
  | error e => rwa [hr] at hstatement
  | ok written =>
    rw [hr] at hstatement
    exact mirrors_after hstatement (ProductService.still_invalidate id) (ok_invalidate id)

theorem mirrors_delete (id : ProductId) (deletedAt : Int) :
    wp (fun _ => True) (Catalog.handle engine) (ProductService.delete id)
      (Mirrors (Mirror.of s.db.products) fun _ => .deleted id deletedAt) s := by
  rw [ProductService.delete, ProductRepository.delete, wp_bind, wp_tryCatch, wp_bind, wp_perform]
  intro c _
  have hstatement : Mirrors (Mirror.of s.db.products) (fun _ => .deleted id deletedAt)
      (Catalog.handle engine c (.delete id) s).1 (Catalog.handle engine c (.delete id) s).2 := by
    rw [← Catalog.products_drift c s]
    apply mirrors_statement
    obtain ⟨e, h⟩ | ⟨product, hfind, h⟩ := CatalogDb.delete_cases id (s.drift c).db
    · rw [h]
      rfl
    · rw [h]
      exact Mirror.of_filter id deletedAt
  cases hr : (Catalog.handle engine c (.delete id) s).1 with
  | error e => rwa [hr] at hstatement
  | ok deleted =>
    rw [hr] at hstatement
    exact mirrors_after hstatement (ProductService.still_invalidate id) (ok_invalidate id)

end Mirrors

def CatalogServerOp.Still : CatalogServerOp → Prop
  | .product op => op.Still
  | .publish _ => False
  | _ => True

namespace CatalogServer

open CatalogMessaging

variable {engine : Engine} {queries : CategoryQueries}

/-- The copy that started as `m` and has seen all events is the table's. -/
def UpToDate (m : Mirror) (s : CatalogServer) : Prop :=
  Mirror.replay s.events m = Mirror.of s.catalog.db.products

def Owes (m : Mirror) (event : ProductEvent) (s : CatalogServer) : Prop :=
  (Mirror.replay s.events m).apply event = Mirror.of s.catalog.db.products

/-- The channel takes what is published. -/
def Publishes (c : CatalogServerMove) : Prop := c.channel = none

theorem query_snd {α : Type} (turn : DbTurn) (answer : α) (s : CatalogServer) :
    (query turn answer s).2 = s := by
  unfold query
  split <;> rfl

theorem still_handle (c : CatalogServerMove) {op : CatalogServerOp} (hop : op.Still)
    (s : CatalogServer) : (handle engine queries c op s).2.events = s.events ∧
      (handle engine queries c op s).2.catalog.db.products = s.catalog.db.products := by
  cases op with
  | product op => exact ⟨rfl, Catalog.products_handle c.catalog hop s.catalog⟩
  | category op => exact ⟨rfl, CatalogDb.products_category _ op s.catalog.db⟩
  | findCategories => simp only [handle, query_snd, and_self]
  | findCategory id => simp only [handle, query_snd, and_self]
  | now => exact ⟨rfl, rfl⟩
  | publish event => exact hop.elim
  | createError apiName errMessage =>
    simp only [handle]
    split <;> exact ⟨rfl, rfl⟩

section Rules

variable {m : Mirror} {s : CatalogServer} {α : Type}

theorem upToDate_still {p : CatalogServerM α} (hp : Awaits CatalogServerOp.Still p)
    (hs : UpToDate m s) :
    wp Publishes (handle engine queries) p (fun _ s => UpToDate m s) s := by
  refine hp.wp (fun c op s _ hop hs => ?_) hs
  obtain ⟨hevents, hproducts⟩ : (handle engine queries c op s).2.events = s.events ∧
      (handle engine queries c op s).2.catalog.db.products = s.catalog.db.products :=
    still_handle c hop s
  rw [UpToDate, hevents, hproducts]
  exact hs

theorem still_addErrorHelper (apiName : String) (details : Error) :
    Awaits CatalogServerOp.Still (addErrorHelper apiName details) :=
  Awaits.tryCatch ⟨trivial, fun r => awaits_settle r⟩ fun _ => trivial

theorem still_product {p : CatalogM α} (hp : Awaits CatalogOp.Still p) {f : α → CatalogReply} :
    Awaits CatalogServerOp.Still (product p >>= fun a => Pure.pure (f a)) := by
  have hpart : Awaits CatalogServerOp.Still (product p) := awaits_embed hp
  exact hpart.bind fun _ => trivial

theorem still_category (p : CategoryM α) {f : α → CatalogReply} :
    Awaits CatalogServerOp.Still (category p >>= fun a => Pure.pure (f a)) := by
  have hpart : Awaits CatalogServerOp.Still (category p) := awaits_part (fun _ => trivial) p
  exact hpart.bind fun _ => trivial

theorem upToDate_answered {apiName : String} {text : Error → String}
    {body : CatalogServerM CatalogReply}
    (hbody : wp Publishes (handle engine queries) body (fun _ s => UpToDate m s) s) :
    wp Publishes (handle engine queries) (answered apiName text body)
      (fun _ s => UpToDate m s) s := by
  rw [answered, wp_tryCatch]
  refine hbody.mono fun r s hs => ?_
  cases r with
  | ok reply => exact hs
  | error error =>
    exact upToDate_still ((still_addErrorHelper apiName error).bind fun _ => trivial) hs

theorem wp_publish {apiName : String} {event : ProductEvent}
    {Q : Except Error Unit → CatalogServer → Prop}
    (hQ : Q (.ok ()) { s with events := s.events ++ [event] }) :
    wp Publishes (handle engine queries) (CatalogMessaging.publish apiName event) Q s := by
  rw [CatalogMessaging.publish, wp_tryCatch, wp_perform]
  intro c hc
  simp only [handle]
  rw [show c.channel = none from hc]
  exact hQ

theorem mirrors_product {p : CatalogM α} {event : α → ProductEvent}
    (hp : wp (fun _ => True) (Catalog.handle engine) p
      (Mirrors (Mirror.of s.catalog.db.products) event) s.catalog) :
    wp Publishes (handle engine queries) (product p)
      (fun r s' => Mirrors (Mirror.of s.catalog.db.products) event r s'.catalog ∧
        s'.events = s.events) s := by
  have hevents : wp Publishes (handle engine queries) (product p)
      (fun _ s' => s'.events = s.events) s := by
    have hall : Awaits (fun op => ∃ op', op = CatalogServerOp.product op') (product p) :=
      awaits_part (fun op => ⟨op, rfl⟩) p
    refine hall.wp (fun c op s' _ hop hs' => ?_) rfl
    obtain ⟨op', rfl⟩ := hop
    exact hs'
  have hmirrors : wp Publishes (handle engine queries) (product p)
      (fun r s' => Mirrors (Mirror.of s.catalog.db.products) event r s'.catalog) s :=
    wp_embed CatalogServer.catalog CatalogServerMove.catalog (fun _ _ => trivial)
      (fun c op s' => Prod.ext (congrFun Except.map_id _) rfl) hp
  exact hmirrors.and hevents

theorem upToDate_write {p : CatalogM α} {event : α → ProductEvent}
    {f : α → CatalogServerM CatalogReply} (hs : UpToDate m s)
    (hp : wp (fun _ => True) (Catalog.handle engine) p
      (Mirrors (Mirror.of s.catalog.db.products) event) s.catalog)
    (hf : ∀ a s', Owes m (event a) s' →
      wp Publishes (handle engine queries) (f a) (fun _ s => UpToDate m s) s') :
    wp Publishes (handle engine queries) (product p >>= f) (fun _ s => UpToDate m s) s := by
  rw [wp_bind]
  refine (mirrors_product hp).mono fun r s' h => ?_
  obtain ⟨hmirrors, hevents⟩ := h
  cases r with
  | error e =>
    change UpToDate m s'
    rw [UpToDate, hevents, hs]
    exact hmirrors.symm
  | ok a =>
    apply hf a s'
    rw [Owes, hevents, hs]
    exact hmirrors.symm

theorem upToDate_publish {apiName : String} {event : ProductEvent} {reply : CatalogReply}
    (hs : Owes m event s) :
    wp Publishes (handle engine queries)
      (CatalogMessaging.publish apiName event >>= fun _ => Pure.pure reply)
      (fun _ s => UpToDate m s) s := by
  rw [wp_bind]
  apply wp_publish
  change Mirror.replay (s.events ++ [event]) m = Mirror.of s.catalog.db.products
  rw [Mirror.replay_concat]
  exact hs

theorem upToDate_handler (request : CatalogRpc) (hs : UpToDate m s) :
    wp Publishes (handle engine queries) (handler engine request) (fun _ s => UpToDate m s) s := by
  cases request with
  | productList query =>
    exact upToDate_answered (upToDate_still (still_product (ProductService.still_getAll query)) hs)
  | productGet productId =>
    exact upToDate_answered
      (upToDate_still (still_product (ProductService.still_getById productId)) hs)
  | productCreate data =>
    apply upToDate_answered
    exact upToDate_write hs (mirrors_create data) fun written s' hs' => upToDate_publish hs'
  | productUpdate productId data =>
    apply upToDate_answered
    exact upToDate_write hs (mirrors_update productId data) fun _ s' hs' => upToDate_publish hs'
  | productDelete productId =>
    apply upToDate_answered
    refine upToDate_write hs (mirrors_delete productId 0) fun _ s' hs' => ?_
    rw [wp_bind, wp_perform]
    exact fun c _ => upToDate_publish hs'
  | categoryList =>
    exact upToDate_answered (upToDate_still
      (Awaits.bind ⟨trivial, fun r => awaits_settle r⟩ fun _ => trivial) hs)
  | categoryGet categoryId =>
    exact upToDate_answered (upToDate_still
      (Awaits.bind ⟨trivial, fun r => awaits_settle r⟩ fun _ => trivial) hs)
  | categoryCreate data => exact upToDate_answered (upToDate_still (still_category _) hs)
  | categoryUpdate categoryId data => exact upToDate_answered (upToDate_still (still_category _) hs)
  | categoryDelete categoryId => exact upToDate_answered (upToDate_still (still_category _) hs)

end Rules

/-- Whatever the requests, and whatever the database and Redis refuse: where the channel takes the
events, a copy that follows them is the product table. -/
theorem replay_events (s : CatalogServer) (hs : s.events = [])
    (calls : List (CatalogRpc × Script CatalogServerMove))
    (hpublishes : ∀ call ∈ calls, ∀ n, Publishes (call.2 n)) :
    Mirror.replay (calls.foldl (serve engine queries) s).events (Mirror.of s.catalog.db.products) =
      Mirror.of (calls.foldl (serve engine queries) s).catalog.db.products := by
  suffices hall : ∀ t, UpToDate (Mirror.of s.catalog.db.products) t →
      UpToDate (Mirror.of s.catalog.db.products) (calls.foldl (serve engine queries) t) from
    hall s (by rw [UpToDate, hs]; rfl)
  induction calls with
  | nil => exact fun t ht => ht
  | cons call calls ih =>
    intro t ht
    apply ih fun call' hcall' => hpublishes call' (List.mem_cons_of_mem _ hcall')
    exact (upToDate_handler call.1 ht).play (hpublishes call List.mem_cons_self)

section Example

/-- By code point, and the first ten rows. -/
private def rowOrder : CategoryQueries where
  byName categories := categories.mergeSort fun a b => a.name ≤ b.name
  perm categories := categories.mergeSort_perm _
  products t id := (t.rows.filter fun product => product.categoryId = id ∧ product.isActive).take 10
  mem_products := by
    intro t id product hproduct
    simpa using List.mem_filter.mp (List.mem_of_mem_take hproduct)
  length_products := fun t id => List.length_take_le ..

private def served (db : DbTurn) (newId : String) : Script CatalogServerMove :=
  fun _ => ⟨{ CatalogMove.calm with db, newId }, none⟩

/-- A product moves to another id, the next request misses it, and a deletion is refused. -/
private def movedAway : List (CatalogRpc × Script CatalogServerMove) :=
  [(.productCreate
      { sku := some "s", name := some "Torch", slug := some "torch",
        price := some (.decimal ⟨false, 10005, 2, by decide⟩), categoryId := some "c" },
      served .accept "q"),
    (.productUpdate "p"
      { id := some "r", price := some (.decimal ⟨false, 125, 2, by decide⟩) },
      served .accept ""),
    (.productUpdate "p" { price := some (.decimal ⟨false, 13005, 2, by decide⟩) },
      served .accept ""),
    (.productDelete "r", served (.reject "timeout") ""),
    (.productDelete "q", served .accept "")]

theorem replay_events_movedAway :
    Mirror.replay
        (movedAway.foldl (serve .exact rowOrder) ⟨⟨.sample, .empty⟩, [], []⟩).events
        (Mirror.of CatalogDb.sample.products) =
      Mirror.of
        (movedAway.foldl (serve .exact rowOrder) ⟨⟨.sample, .empty⟩, [], []⟩).catalog.db.products :=
  replay_events ⟨⟨.sample, .empty⟩, [], []⟩ rfl movedAway (by
    intro call hcall n
    simp only [movedAway, List.mem_cons, List.not_mem_nil, or_false] at hcall
    rcases hcall with rfl | rfl | rfl | rfl | rfl <;> rfl)

end Example

end CatalogServer

end Ecommerce
