import Ecommerce.Catalog.Announcements
import Ecommerce.Catalog.Hierarchy
import Ecommerce.Catalog.Intake

namespace Ecommerce

open Prog CatalogMessaging

inductive CatalogWrite
  | productCreated (product : Product)
  | productUpdated (id : ProductId) (data : ProductData) (now : Int)
  | productDeleted (id : ProductId)
  | categoryCreated (category : Category)
  | categoryUpdated (id : String) (data : CategoryData) (now : Int)
  | categoryDeleted (id : String)

namespace CatalogWrite

def apply : CatalogWrite → List Product → List Product
  | productCreated product, rows => rows ++ [product]
  | productUpdated id data now, rows =>
    rows.map fun product => if product.id = id then data.apply now product else product
  | productDeleted id, rows => rows.filter (·.id ≠ id)
  | _, rows => rows

def replay (writes : List CatalogWrite) (rows : List Product) : List Product :=
  writes.foldl (fun rows write => write.apply rows) rows

theorem replay_concat (writes : List CatalogWrite) (write : CatalogWrite) (rows : List Product) :
    replay (writes ++ [write]) rows = write.apply (replay writes rows) := List.foldl_concat ..

def For (rpc : CatalogRpc) : CatalogWrite → Prop
  | productCreated product => ∃ data newId now, rpc = .productCreate data ∧
    data.row newId now = some product
  | productUpdated id data _ => rpc = .productUpdate id data
  | productDeleted id => rpc = .productDelete id
  | categoryCreated category => ∃ data newId now, rpc = .categoryCreate data ∧
    data.row newId now = some category
  | categoryUpdated id data _ => rpc = .categoryUpdate id data
  | categoryDeleted id => rpc = .categoryDelete id

theorem For.mutates {write : CatalogWrite} {rpc : CatalogRpc} (h : write.For rpc) :
    rpc.queue.mutates := by
  cases write with
  | productCreated product | categoryCreated category =>
    obtain ⟨data, newId, now, rfl, -⟩ := h
    rfl
  | productUpdated id data now | categoryUpdated id data now =>
    obtain rfl := h
    rfl
  | productDeleted id | categoryDeleted id =>
    obtain rfl := h
    rfl

end CatalogWrite

namespace ServerDoing

def wrote : ServerDoing → Option CatalogWrite
  | ⟨.product (.create _), .ok written⟩ => some (.productCreated written.1)
  | ⟨.product (.update id data), .ok written⟩ => some (.productUpdated id data written.1.updatedAt)
  | ⟨.product (.delete id), .ok _⟩ => some (.productDeleted id)
  | ⟨.category (.create _), .ok category⟩ => some (.categoryCreated category)
  | ⟨.category (.update id data), .ok category⟩ =>
    some (.categoryUpdated id data category.updatedAt)
  | ⟨.category (.delete id), .ok _⟩ => some (.categoryDeleted id)
  | _ => none

end ServerDoing

open ServerDoing

namespace CatalogRpc

def confirmed : CatalogRpc → CatalogReply → Option CatalogWrite
  | productCreate _, .data (.product written) => some (.productCreated written.1)
  | productUpdate id data, .data (.product written) =>
    some (.productUpdated id data written.1.updatedAt)
  | productDelete id, .done => some (.productDeleted id)
  | categoryCreate _, .data (.category category) => some (.categoryCreated category)
  | categoryUpdate id data, .data (.category category) =>
    some (.categoryUpdated id data category.updatedAt)
  | categoryDelete id, .done => some (.categoryDeleted id)
  | _, _ => none

def May (rpc : CatalogRpc) (done : List ServerDoing) : CatalogServerOp → Prop
  | .product (.create data) => rpc = productCreate data ∧ done.filterMap wrote = []
  | .product (.update id data) => rpc = productUpdate id data ∧ done.filterMap wrote = []
  | .product (.delete id) => rpc = productDelete id ∧ done.filterMap wrote = []
  | .category (.create data) => rpc = categoryCreate data ∧ done.filterMap wrote = []
  | .category (.update id data) => rpc = categoryUpdate id data ∧ done.filterMap wrote = []
  | .category (.delete id) => rpc = categoryDelete id ∧ done.filterMap wrote = []
  | _ => True

def Confirms (rpc : CatalogRpc) (done : List ServerDoing) (reply : CatalogReply) : Prop :=
  rpc.queue.mutates → (∃ error, reply = .failed error) ∨
    ∃ write, rpc.confirmed reply = some write ∧ write ∈ done.filterMap wrote

end CatalogRpc

def CatalogServerOp.Quiet : CatalogServerOp → Prop
  | .product op => op.Still
  | .category _ => False
  | _ => True

namespace CatalogRpc

section Servers

variable {rpc : CatalogRpc} {done : List ServerDoing} {α : Type}

theorem wrote_of_quiet {op : CatalogServerOp} (hop : op.Quiet) (r : Except Error op.Res) :
    wrote ⟨op, r⟩ = none := by
  cases op with
  | product op =>
    cases op with
    | create data | update id data | delete id => exact hop.elim
    | _ => rfl
  | category op => exact hop.elim
  | _ => rfl

theorem may_of_quiet {op : CatalogServerOp} (hop : op.Quiet) : rpc.May done op := by
  cases op with
  | product op =>
    cases op with
    | create data | update id data | delete id => exact hop.elim
    | _ => trivial
  | category op => exact hop.elim
  | _ => trivial

theorem monitored_quiet {p : CatalogServerM α} (hp : p.Awaits CatalogServerOp.Quiet) :
    Monitored (fun _ _ => True) rpc.May p
      (fun done' _ => done'.filterMap wrote = done.filterMap wrote) done := by
  refine hp.monitored (fun _ _ _ hop => may_of_quiet hop) (fun done' op r h hop => ?_) rfl
  rw [List.filterMap_append, h]
  simp [wrote_of_quiet hop]

theorem quiet_product {q : CatalogM α} (hq : q.Awaits CatalogOp.Still) :
    (product q).Awaits CatalogServerOp.Quiet := awaits_embed hq

theorem quiet_addErrorHelper (apiName : String) (details : Error) :
    (addErrorHelper apiName details).Awaits CatalogServerOp.Quiet :=
  .tryCatch ((awaits_perform _).mpr trivial) fun _ => trivial

theorem quiet_publish (apiName : String) (event : ProductEvent) :
    (CatalogMessaging.publish apiName event).Awaits CatalogServerOp.Quiet :=
  .tryCatch ((awaits_perform _).mpr trivial) fun e => quiet_addErrorHelper apiName e

theorem monitored_after {q : CatalogM Unit} (hq : q.Awaits CatalogOp.Still) (a : α) :
    Monitored (fun _ _ => True) rpc.May (product (q >>= fun _ => Pure.pure a))
      (fun done' r => done'.filterMap wrote = done.filterMap wrote ∧ ∀ b, r = .ok b → b = a)
      done := by
  rw [product, embed_bind, monitored_bind]
  refine (monitored_quiet (quiet_product hq)).mono fun done' r h => ?_
  cases r with
  | error e => exact ⟨h, fun b hb => by cases hb⟩
  | ok u => exact ⟨h, fun b hb => (Except.ok.inj hb).symm⟩

/-- The write is the first, and has gone through. -/
def Writes (write : α → CatalogWrite) (done : List ServerDoing) (r : Except Error α) : Prop :=
  ∀ a, r = .ok a → done.filterMap wrote = [write a]

theorem monitored_createProduct (data : ProductData) :
    Monitored (fun _ _ => True) (productCreate data).May (product (ProductService.create data))
      (Writes fun written => .productCreated written.1) [] := by
  refine ⟨⟨rfl, rfl⟩, fun r _ => ?_⟩
  cases r with
  | error e => exact fun a ha => by cases ha
  | ok written =>
    refine (monitored_after ProductService.still_deletePattern written).mono fun done r h a ha => ?_
    rw [h.1, h.2 a ha]
    rfl

theorem monitored_updateProduct (id : ProductId) (data : ProductData) :
    Monitored (fun _ _ => True) (productUpdate id data).May
      (product (ProductService.update id data))
      (Writes fun written => .productUpdated id data written.1.updatedAt) [] := by
  refine ⟨⟨rfl, rfl⟩, fun r _ => ?_⟩
  cases r with
  | error e => exact fun a ha => by cases ha
  | ok written =>
    refine (monitored_after (ProductService.still_invalidate id) written).mono
      fun done r h a ha => ?_
    rw [h.1, h.2 a ha]
    rfl

theorem monitored_removeProduct (id : ProductId) :
    Monitored (fun _ _ => True) (productDelete id).May (product (ProductService.delete id))
      (Writes fun _ => .productDeleted id) [] := by
  refine ⟨⟨rfl, rfl⟩, fun r _ => ?_⟩
  cases r with
  | error e => exact fun a ha => by cases ha
  | ok u =>
    refine (monitored_after (ProductService.still_invalidate id) true).mono fun done r h a ha => ?_
    rw [h.1]
    rfl

theorem monitored_createCategory (data : CategoryData) :
    Monitored (fun _ _ => True) (categoryCreate data).May (category (CategoryService.create data))
      (Writes .categoryCreated) [] := by
  refine ⟨⟨rfl, rfl⟩, fun r _ => ?_⟩
  cases r with
  | error e => exact fun a ha => by cases ha
  | ok created => exact fun a ha => by obtain rfl := Except.ok.inj ha; rfl

theorem monitored_updateCategory (id : String) (data : CategoryData) :
    Monitored (fun _ _ => True) (categoryUpdate id data).May
      (category (CategoryService.update id data))
      (Writes fun updated => .categoryUpdated id data updated.updatedAt) [] := by
  refine ⟨⟨rfl, rfl⟩, fun r _ => ?_⟩
  cases r with
  | error e => exact fun a ha => by cases ha
  | ok updated => exact fun a ha => by obtain rfl := Except.ok.inj ha; rfl

theorem monitored_deleteCategory (id : String) :
    Monitored (fun _ _ => True) (categoryDelete id).May (category (CategoryService.delete id))
      (Writes fun _ => .categoryDeleted id) [] := by
  refine ⟨⟨rfl, rfl⟩, fun r _ => ?_⟩
  cases r with
  | error e => exact fun a ha => by cases ha
  | ok u => exact fun a ha => rfl

theorem monitored_answered {apiName : String} {text : Error → String}
    {body : CatalogServerM CatalogReply}
    (hbody : Monitored (fun _ _ => True) rpc.May body
      (fun done r => ∀ reply, r = .ok reply → rpc.Confirms done reply) []) :
    Monitored (fun _ _ => True) rpc.May (answered apiName text body)
      (fun done r => ∃ reply, r = .ok reply ∧ rpc.Confirms done reply) [] := by
  rw [answered, monitored_tryCatch]
  refine hbody.mono fun done r h => ?_
  cases r with
  | ok reply => exact ⟨reply, rfl, h reply rfl⟩
  | error e =>
    have hrecord : (.perform (CatalogServerOp.createError apiName
        (orFallback e.message "Unknown error")) : CatalogServerM Unit).Awaits
          CatalogServerOp.Quiet := (awaits_perform _).mpr trivial
    simp only [monitored_bind]
    refine ((monitored_quiet hrecord).swallow fun _ => ()).mono fun done' r' h' => ?_
    obtain ⟨-, u, rfl⟩ := h'
    exact ⟨.failed (text e), rfl, fun _ => .inl ⟨text e, rfl⟩⟩

theorem monitored_reads {body : CatalogServerM CatalogReply}
    (hbody : body.Awaits CatalogServerOp.Quiet) (hrpc : rpc.queue.mutates = false) :
    Monitored (fun _ _ => True) rpc.May body
      (fun done r => ∀ reply, r = .ok reply → rpc.Confirms done reply) [] :=
  (monitored_quiet hbody).mono fun _ _ _ _ _ hmutates => by
    rw [hrpc] at hmutates
    cases hmutates

theorem monitored_writes {p : CatalogServerM α} {write : α → CatalogWrite}
    {q : α → CatalogServerM Unit} {reply : α → CatalogReply}
    (hp : Monitored (fun _ _ => True) rpc.May p (Writes write) [])
    (hq : ∀ a, (q a).Awaits CatalogServerOp.Quiet)
    (hreply : ∀ a, rpc.confirmed (reply a) = some (write a)) :
    Monitored (fun _ _ => True) rpc.May (p >>= fun a => q a >>= fun _ => Pure.pure (reply a))
      (fun done r => ∀ reply, r = .ok reply → rpc.Confirms done reply) [] := by
  rw [monitored_bind]
  refine hp.mono fun done r h => ?_
  cases r with
  | error e => exact fun reply hreply => by cases hreply
  | ok a =>
    simp only [monitored_bind]
    refine (monitored_quiet (hq a)).mono fun done' r' h' => ?_
    cases r' with
    | error e => exact fun reply hreply => by cases hreply
    | ok u =>
      intro reply' hreply' _
      obtain rfl := Except.ok.inj hreply'
      refine .inr ⟨write a, hreply a, ?_⟩
      rw [h', h a rfl]
      exact List.mem_singleton_self _

/-- Every server writes what it is asked to, once, and reports it. -/
theorem monitored_handler (engine : Engine) (rpc : CatalogRpc) :
    Monitored (fun _ _ => True) rpc.May (CatalogMessaging.handler engine rpc)
      (fun done r => ∃ reply, r = .ok reply ∧ rpc.Confirms done reply) [] := by
  have hquery : ∀ {op : CatalogServerOp} {f : op.Res → CatalogReply}, op.Quiet →
      (perform op >>= fun a => Pure.pure (f a) : CatalogServerM CatalogReply).Awaits
        CatalogServerOp.Quiet := fun hop => .bind ((awaits_perform _).mpr hop) fun _ => trivial
  cases rpc with
  | productList query =>
    exact monitored_answered (monitored_reads
      (.bind (quiet_product (ProductService.still_getAll query)) fun _ => trivial) rfl)
  | productGet productId =>
    exact monitored_answered (monitored_reads
      (.bind (quiet_product (ProductService.still_getById productId)) fun _ => trivial) rfl)
  | categoryList => exact monitored_answered (monitored_reads (hquery trivial) rfl)
  | categoryGet categoryId => exact monitored_answered (monitored_reads (hquery trivial) rfl)
  | productCreate data =>
    exact monitored_answered (monitored_writes (monitored_createProduct data)
      (fun _ => quiet_publish _ _) fun _ => rfl)
  | productUpdate productId data =>
    exact monitored_answered (monitored_writes (monitored_updateProduct productId data)
      (fun _ => quiet_publish _ _) fun _ => rfl)
  | productDelete productId =>
    -- the clock is read between the write and the event
    have hassoc : CatalogMessaging.handler engine (.productDelete productId) =
        answered "MessagingService.deleteProductRPC" Error.message
          (product (ProductService.delete productId) >>= fun _ =>
            (perform CatalogServerOp.now >>= publishProductDeleted productId) >>= fun _ =>
              Pure.pure .done) :=
      congrArg (fun k => answered _ _ (product (ProductService.delete productId) >>= k))
        (funext fun _ => (Prog.bind_assoc (perform CatalogServerOp.now) _ _).symm)
    rw [hassoc]
    exact monitored_answered (monitored_writes (monitored_removeProduct productId)
      (fun _ => .bind ((awaits_perform _).mpr trivial) fun _ => quiet_publish _ _) fun _ => rfl)
  | categoryCreate data =>
    exact monitored_answered (monitored_writes (q := fun _ => Pure.pure ())
      (monitored_createCategory data) (fun _ => trivial) fun _ => rfl)
  | categoryUpdate categoryId data =>
    exact monitored_answered (monitored_writes (q := fun _ => Pure.pure ())
      (monitored_updateCategory categoryId data) (fun _ => trivial) fun _ => rfl)
  | categoryDelete categoryId =>
    exact monitored_answered (monitored_writes (q := fun _ => Pure.pure ())
      (monitored_deleteCategory categoryId) (fun _ => trivial) fun _ => rfl)

end Servers

end CatalogRpc

section Rows

variable (engine : Engine) (queries : CategoryQueries) {id : ProductId} {data : ProductData}
  {now : Int}

theorem rows_replace {products products' : ProductTable} {product : Product}
    (hfind : products.find? id = some product)
    (h : products.replace id (data.apply now product) = some products') :
    products'.rows = (CatalogWrite.productUpdated id data (data.apply now product).updatedAt).apply
      products.rows := by
  have hrows : products'.rows =
      products.rows.map fun other => if other.id = id then data.apply now product else other := by
    unfold Table.replace at h
    split at h
    · exact (congrArg Table.rows (Option.some.inj h)).symm
    · cases h
  rw [hrows, CatalogWrite.apply]
  refine List.map_congr_left fun other hother => ?_
  split
  · next hid =>
    have hsame : other = product := List.inj_on_of_nodup_map products.nodup hother
      (Table.mem_of_find? hfind) (hid.trans (Table.key_of_find? hfind).symm)
    rw [hsame]
    simp only [ProductData.apply]
    cases data.updatedAt <;> rfl
  · rfl

structure Entered (op : CatalogServerOp) (r : Except Error op.Res × CatalogServer)
    (rows : List Product) : Prop where
  rows : r.2.catalog.db.products.rows = ((wrote ⟨op, r.1⟩).elim rows fun write => write.apply rows)
  asked : ∀ write, wrote ⟨op, r.1⟩ = some write → ∀ rpc done, CatalogRpc.May rpc done op →
    write.For rpc

theorem entered_of_none {op : CatalogServerOp} {r : Except Error op.Res × CatalogServer}
    {rows : List Product} (hwrote : wrote ⟨op, r.1⟩ = none)
    (hrows : r.2.catalog.db.products.rows = rows) : Entered op r rows where
  rows := by rw [hwrote, hrows]; rfl
  asked write hwrite := by
    rw [hwrote] at hwrite
    cases hwrite

theorem entered_of_some {op : CatalogServerOp} {r : Except Error op.Res × CatalogServer}
    {rows : List Product} {write : CatalogWrite} (hwrote : wrote ⟨op, r.1⟩ = some write)
    (hrows : r.2.catalog.db.products.rows = write.apply rows)
    (hfor : ∀ rpc done, CatalogRpc.May rpc done op → write.For rpc) : Entered op r rows where
  rows := by rw [hwrote, hrows]; rfl
  asked write' hwrite rpc done hmay := by
    obtain rfl := Option.some.inj (hwrote.symm.trans hwrite)
    exact hfor rpc done hmay

theorem entered_quiet (op : CatalogServerOp) (hop : op.Quiet)
    {r : Except Error op.Res × CatalogServer} {rows : List Product}
    (hrows : r.2.catalog.db.products.rows = rows) : Entered op r rows :=
  entered_of_none (CatalogRpc.wrote_of_quiet hop r.1) hrows

theorem entered_product (c : CatalogServerMove) (op : CatalogOp) (s : CatalogServer) :
    Entered (.product op) (CatalogServer.handle engine queries c (.product op) s)
      s.catalog.db.products.rows := by
  have hdrift := congrArg Table.rows (Catalog.products_drift c.catalog s.catalog)
  cases op with
  | create data =>
    rw [← hdrift]
    simp only [CatalogServer.handle, Catalog.handle, Catalog.perform, Catalog.statement]
    cases c.catalog.db with
    | reject m => exact entered_of_none rfl rfl
    | accept =>
      obtain ⟨e, h⟩ | ⟨product, category, products, hrow, -, hinsert, h⟩ :=
        CatalogDb.create_cases data c.catalog.newId c.catalog.now (s.catalog.drift c.catalog).db
      · rw [h]
        exact entered_of_none rfl rfl
      · rw [h]
        exact entered_of_some rfl (Table.rows_insert hinsert) fun rpc done hmay =>
          ⟨data, _, _, hmay.1, hrow⟩
  | update id data =>
    rw [← hdrift]
    simp only [CatalogServer.handle, Catalog.handle, Catalog.perform, Catalog.statement]
    cases c.catalog.db with
    | reject m => exact entered_of_none rfl rfl
    | accept =>
      obtain ⟨e, h⟩ | ⟨product, category, products, hfind, -, hreplace, h⟩ :=
        CatalogDb.update_cases id data c.catalog.now (s.catalog.drift c.catalog).db
      · rw [h]
        exact entered_of_none rfl rfl
      · rw [h]
        exact entered_of_some rfl (rows_replace hfind hreplace) fun rpc done hmay => hmay.1
  | delete id =>
    rw [← hdrift]
    simp only [CatalogServer.handle, Catalog.handle, Catalog.perform, Catalog.statement]
    cases c.catalog.db with
    | reject m => exact entered_of_none rfl rfl
    | accept =>
      obtain ⟨e, h⟩ | ⟨product, hfind, h⟩ :=
        CatalogDb.delete_cases id (s.catalog.drift c.catalog).db
      · rw [h]
        exact entered_of_none rfl rfl
      · rw [h]
        exact entered_of_some rfl rfl fun rpc done hmay => hmay.1
  | _ =>
    exact entered_quiet _ (by trivial)
      (congrArg Table.rows (Catalog.products_handle c.catalog (by trivial) s.catalog))

theorem row_of_create {c : TableMove} {data : CategoryData} {db : CatalogDb} {category : Category}
    (h : (c.category (.create data) db).1 = .ok category) :
    data.row c.newId c.now = some category := by
  simp only [TableMove.category, TableMove.statement] at h
  cases hdb : c.db with
  | reject m =>
    rw [hdb] at h
    cases h
  | accept =>
    rw [hdb] at h
    obtain ⟨e, hcreate, -⟩ | ⟨created, _, hcreate, hrow, -⟩ :=
      CatalogDb.createCategory_cases db data c.newId c.now
    · rw [hcreate] at h
      cases h
    · rw [hcreate] at h
      exact Except.ok.inj h ▸ hrow

theorem entered_category (c : CatalogServerMove) (op : CategoryOp) (s : CatalogServer) :
    Entered (.category op) (CatalogServer.handle engine queries c (.category op) s)
      s.catalog.db.products.rows := by
  have hrows := congrArg Table.rows (CatalogDb.products_category
    ⟨c.catalog.db, c.catalog.newId, c.catalog.now⟩ op s.catalog.db)
  simp only [CatalogServer.handle]
  generalize hr : (TableMove.mk c.catalog.db c.catalog.newId c.catalog.now).category op
    s.catalog.db = r at hrows ⊢
  obtain ⟨e | written, db⟩ := r
  · exact entered_of_none (by cases op <;> rfl) hrows
  · cases op with
    | create data =>
      exact entered_of_some rfl hrows fun rpc done hmay =>
        ⟨data, _, _, hmay.1, row_of_create (congrArg Prod.fst hr)⟩
    | update id data => exact entered_of_some rfl hrows fun rpc done hmay => hmay.1
    | delete id => exact entered_of_some rfl hrows fun rpc done hmay => hmay.1

theorem entered_handle (c : CatalogServerMove) (op : CatalogServerOp) (s : CatalogServer) :
    Entered op (CatalogServer.handle engine queries c op s) s.catalog.db.products.rows := by
  cases op with
  | product op => exact entered_product engine queries c op s
  | category op => exact entered_category engine queries c op s
  | publish event =>
    refine entered_quiet _ (by trivial) ?_
    simp only [CatalogServer.handle]
    split <;> rfl
  | findCategories | findCategory id =>
    refine entered_quiet _ (by trivial) ?_
    rw [CatalogServer.handle, CatalogServer.query_snd]
  | now => exact entered_quiet _ (by trivial) rfl
  | createError apiName errMessage =>
    refine entered_quiet _ (by trivial) ?_
    simp only [CatalogServer.handle]
    split <;> rfl

end Rows

end Ecommerce
