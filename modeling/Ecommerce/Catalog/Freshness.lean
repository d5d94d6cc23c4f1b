import Ecommerce.Catalog.Category
import Ecommerce.Catalog.Coherence

namespace Ecommerce

open ProductService

def Entry.views : Entry → List ProductView
  | .page result => result.products
  | .product view => [view]

def CatalogDb.Shows (db : CatalogDb) (view : ProductView) : Prop :=
  view.category = db.categories.find? view.product.categoryId ∧
    view.inventory = db.inventory view.product.id

/-- Redis works, and only the services themselves write. -/
def CatalogMove.Working (c : CatalogMove) : Prop :=
  (∀ command, c.fails command = none) ∧ c.others = none

/-- Calls of the product service and writes of the other two, one after another. -/
inductive CatalogEvent
  | product (call : ProductRequest × Script CatalogMove)
  | table (write : TableWrite)

def CatalogEvent.Working : CatalogEvent → Prop
  | .product call => ∀ n, (call.2 n).Working
  | .table _ => True

namespace Catalog

def next (engine : Engine) (s : Catalog) : CatalogEvent → Catalog
  | .product call => (s.call engine call).2
  | .table write => { s with db := write.tables s.db }

/-- Whatever is read next shows the rows that are stored then. -/
structure Current (engine : Engine) (s : Catalog) : Prop where
  getById : ∀ {env : Script CatalogMove} {id entry t}, (∀ n, (env n).Working) →
    (ProductService.getById id).play (handle engine) env s = (.ok (some entry), t) →
      ∀ view ∈ entry.views, t.db.Shows view
  getAll : ∀ {env : Script CatalogMove} {query entry t}, (∀ n, (env n).Working) →
    (ProductService.getAll engine query).play (handle engine) env s = (.ok entry, t) →
      ∀ view ∈ entry.views, t.db.Shows view

def Caches (s : Catalog) (view : ProductView) : Prop :=
  ∃ key entry, s.cache.get key = some entry ∧ view ∈ entry.views

/-- A category or an inventory write leaves the two rows of every cached product as they are. -/
def Spares (s : Catalog) : CatalogEvent → Prop
  | .product _ => True
  | .table write => ∀ view, s.Caches view →
      (write.tables s.db).categories.find? view.product.categoryId =
          s.db.categories.find? view.product.categoryId ∧
        (write.tables s.db).inventory view.product.id = s.db.inventory view.product.id

end Catalog

theorem CatalogDb.shows_iff {db : CatalogDb} {view : ProductView} :
    db.Shows view ↔ db.view view.product = view := by
  obtain ⟨product, category, inventory⟩ := view
  simp [Shows, CatalogDb.view, eq_comm]

section Coherent

variable {engine : Engine} {s : Catalog} {db db' : CatalogDb} {key : CacheKey} {entry : Entry}

/-- An entry is right down to the embedded rows when its columns are and it shows those rows. -/
theorem entitled_id_iff : Entitled engine id db key (entry.seen id) ↔
    Entitled engine ProductView.product db key (entry.seen ProductView.product) ∧
      ∀ view ∈ entry.views, db.Shows view := by
  constructor
  · intro h
    generalize hx : entry.seen id = x at h
    cases h with
    | item hfind =>
      cases entry with
      | page result => cases hx
      | product view =>
        obtain rfl : view = db.view _ := Seen.product.inj hx
        exact ⟨.item hfind, by simp [Entry.views, CatalogDb.shows_iff, CatalogDb.view]⟩
    | @list query rows total hrows htotal =>
      cases entry with
      | product view => cases hx
      | page result =>
        obtain ⟨products, pageMeta⟩ := result
        obtain ⟨hproducts, rfl⟩ := Seen.page.inj hx
        obtain rfl : products = rows.map db.view := by simpa using hproducts
        refine ⟨?_, by simp [Entry.views, CatalogDb.shows_iff, CatalogDb.view]⟩
        rw [Entry.seen, List.map_map]
        exact .list hrows htotal
  · rintro ⟨h, hshows⟩
    generalize hx : entry.seen ProductView.product = x at h
    cases h with
    | item hfind =>
      cases entry with
      | page result => cases hx
      | product view =>
        obtain rfl : view.product = _ := Seen.product.inj hx
        rw [← CatalogDb.shows_iff.mp (hshows view (List.mem_singleton_self view))]
        exact .item hfind
    | @list query rows total hrows htotal =>
      cases entry with
      | product view => cases hx
      | page result =>
        obtain ⟨products, pageMeta⟩ := result
        obtain ⟨hproducts, rfl⟩ := Seen.page.inj hx
        have hviews : rows.map db.view = products := by
          have hrows : products.map ProductView.product = rows := by
            simpa [CatalogDb.view] using hproducts
          rw [← hrows, List.map_map]
          exact (List.map_congr_left fun view hview =>
            CatalogDb.shows_iff.mp (hshows view hview)).trans (List.map_id products)
        obtain rfl := hviews
        rw [Entry.seen, List.map_map]
        exact .list hrows htotal

theorem coherent_id_iff : Coherent engine id s ↔
    Coherent engine ProductView.product s ∧ ∀ view, s.Caches view → s.db.Shows view := by
  constructor
  · intro h
    refine ⟨fun key entry hentry => (entitled_id_iff.mp (h key entry hentry)).1, ?_⟩
    rintro view ⟨key, entry, hentry, hview⟩
    exact (entitled_id_iff.mp (h key entry hentry)).2 view hview
  · rintro ⟨h, hshows⟩ key entry hentry
    exact entitled_id_iff.mpr ⟨h key entry hentry, fun view hview =>
      hshows view ⟨key, entry, hentry, hview⟩⟩

theorem admits_id {M : CatalogMove → Prop} (hM : ∀ c, M c → c.Working) : Admits id M where
  del c hc := (hM c hc).1 .del
  keys c hc := (hM c hc).1 .keys
  view c hc s product := by
    rw [Catalog.drift, (hM c hc).2]
    rfl

section Hit

variable {key : CacheKey}

theorem Catalog.run_get_calm (h : s.cache.get key = some entry) :
    (CacheService.get key).run (Catalog.handle engine .calm) s =
      (.ok (some entry), s.drift .calm) := by
  have hget : Catalog.handle engine .calm (.get key) s =
    (.ok ((s.drift .calm).cache.get key), s.drift .calm) := rfl
  have hkept : (s.drift .calm).cache.get key = some entry :=
    (KeyValue.get_keep _).trans ((if_pos rfl).trans h)
  rw [CacheService.get, Prog.run_tryCatch, Prog.run_perform, hget, hkept]

theorem Catalog.run_getById_hit {id : ProductId} (h : s.cache.get (itemKey id) = some entry) :
    (ProductService.getById id).run (Catalog.handle engine .calm) s =
      (.ok (some entry), s.drift .calm) := by
  rw [ProductService.getById, Prog.run_bind_ok _ (Catalog.run_get_calm h)]
  rfl

theorem Catalog.run_getAll_hit {query : ProductQuery}
    (h : s.cache.get (listKey query) = some entry) :
    (ProductService.getAll engine query).run (Catalog.handle engine .calm) s =
      (.ok entry, s.drift .calm) := by
  rw [ProductService.getAll, Prog.run_bind_ok _ (Catalog.run_get_calm h)]
  rfl

end Hit

theorem Catalog.working_calm : CatalogMove.calm.Working := ⟨fun _ => rfl, rfl⟩

/-- A stale entry is read in the next call for its key. -/
theorem current_iff (hs : Coherent engine ProductView.product s) :
    s.Current engine ↔ ∀ view, s.Caches view → s.db.Shows view := by
  constructor
  · rintro h view ⟨key, entry, hentry, hview⟩
    have hcalm : ∀ n : Nat, ((fun _ => .calm : Script CatalogMove) n).Working := fun _ =>
      Catalog.working_calm
    rcases (hs key entry hentry).key_cases with ⟨productId, rfl⟩ | ⟨query, rfl⟩
    · exact h.getById hcalm
        ((Prog.play_const _ _ _ s).trans (Catalog.run_getById_hit hentry)) view hview
    · exact h.getAll hcalm
        ((Prog.play_const _ _ _ s).trans (Catalog.run_getAll_hit hentry)) view hview
  · intro hshows
    have hid : Coherent engine id s := coherent_id_iff.mpr ⟨hs, hshows⟩
    have hadmits : ∀ env : Script CatalogMove, (∀ n, (env n).Working) →
        Admits id fun c => ∃ n, env n = c :=
      fun env henv => admits_id fun c ⟨n, hn⟩ => hn ▸ henv n
    constructor
    · intro env productId entry t henv hplay view hview
      have hread := (hid.getById (hadmits env henv) productId).play fun n => ⟨n, rfl⟩
      rw [hplay] at hread
      have hentitled : Entitled engine id t.db (itemKey productId) (entry.seen id) :=
        hread.2.entitled
      exact (entitled_id_iff.mp hentitled).2 view hview
    · intro env query entry t henv hplay view hview
      have hread := (hid.getAll (hadmits env henv) query).play fun n => ⟨n, rfl⟩
      rw [hplay] at hread
      exact (entitled_id_iff.mp hread.2.entitled).2 view hview

end Coherent

section Runs

variable {engine : Engine} {s : Catalog} {event : CatalogEvent}

theorem coherent_next (hs : Coherent engine ProductView.product s) (hevent : event.Working) :
    Coherent engine ProductView.product (s.next engine event) := by
  cases event with
  | product call =>
    exact (hs.call (admits_product fun c ⟨n, hn⟩ => hn ▸ ⟨(hevent n).1 .del, (hevent n).1 .keys⟩)).1
  | table write =>
    intro key entry hentry
    exact (hs key entry hentry).congr ⟨write.products_tables s.db, fun _ => rfl⟩

theorem current_next_iff (hcurrent : s.Current engine) (hs : Coherent engine ProductView.product s)
    (hevent : event.Working) : (s.next engine event).Current engine ↔ s.Spares event := by
  rw [current_iff (coherent_next hs hevent)]
  have hshows := (current_iff hs).mp hcurrent
  cases event with
  | product call =>
    have hid : Coherent engine id s := coherent_id_iff.mpr ⟨hs, hshows⟩
    have hcall : Coherent engine id (s.call engine call).2 :=
      (hid.call (admits_id fun c ⟨n, hn⟩ => hn ▸ hevent n)).1
    exact iff_of_true (coherent_id_iff.mp hcall).2 trivial
  | table write =>
    refine forall_congr' fun view => forall_congr' fun hview => ?_
    obtain ⟨hcategory, hinventory⟩ := hshows view hview
    simp only [Catalog.next, CatalogDb.Shows, hcategory, hinventory, eq_comm]

end Runs

/-- In every state that a run reaches, the reads show the rows that are stored, exactly when no write
of the category service or the inventory service in the run changes a row that a cached product
embeds. -/
theorem current_iff_spares (engine : Engine) (db : CatalogDb) {events : List CatalogEvent}
    (hevents : ∀ event ∈ events, event.Working) :
    Runs.Always (Catalog.next engine) (Catalog.Current engine) ⟨db, .empty⟩ events ↔
      Runs.Along (Catalog.next engine) Catalog.Spares ⟨db, .empty⟩ events := by
  have hempty := coherent_empty engine ProductView.product db
  refine Runs.always_iff_along (J := Coherent engine ProductView.product)
    (fun s event hcurrent hs hevent => current_next_iff hcurrent hs hevent)
    (fun s event _ hs hevent _ => coherent_next hs hevent) ?_ hempty
    (Runs.along_of_forall hevents)
  apply (current_iff hempty).mpr
  rintro view ⟨key, entry, hentry, -⟩
  cases hentry

section Example

private def soldOut : TableWrite :=
  .inventory (.update "p" { quantity := .set 0 }) fun _ => .calm

/-- A product is read and changes its price, its stock is set to none, and it is read again. -/
private def repriced : List CatalogEvent :=
  [.product (.getById "p", fun _ => .calm), .product (.dearer, fun _ => .calm), .table soldOut,
    .product (.getById "p", fun _ => .calm)]

private theorem spares_repriced :
    Runs.Along (Catalog.next .exact) Catalog.Spares ⟨.sample, .empty⟩ repriced := by
  refine ⟨trivial, trivial, ?_, trivial, trivial⟩
  rintro view ⟨key, entry, hentry, -⟩
  -- The update has emptied the cache.
  cases hentry

theorem current_iff_spares_sample :
    Runs.Always (Catalog.next .exact) (Catalog.Current .exact) ⟨.sample, .empty⟩ repriced ∧
      (Runs.Always (Catalog.next .exact) (Catalog.Current .exact) ⟨.sample, .empty⟩
          [.product (.getById "p", fun _ => .calm), .table soldOut] ↔
        Runs.Along (Catalog.next .exact) Catalog.Spares ⟨.sample, .empty⟩
          [.product (.getById "p", fun _ => .calm), .table soldOut]) := by
  constructor
  · refine (current_iff_spares .exact .sample ?_).mpr spares_repriced
    simp [repriced, CatalogEvent.Working, Catalog.working_calm]
  · exact current_iff_spares .exact .sample (by simp [CatalogEvent.Working, Catalog.working_calm])

/-- A product is read, its stock is set to none, and it is read again. -/
theorem sold_out_in_stock :
    ∃ view t, Catalog.call .exact
        ([.product (.getById "p", fun _ => .calm), .table soldOut].foldl (Catalog.next .exact)
          ⟨.sample, .empty⟩) (.getById "p", fun _ => .calm) = (.ok (.read (some (.product view))), t) ∧
      view.inventory.map (·.quantity) = some 5 ∧
      (t.db.inventory "p").map (·.quantity) = some 0 := by
  exact ⟨_, _, rfl, rfl, rfl⟩

end Example

end Ecommerce
