import Ecommerce.Catalog.Category
import Ecommerce.Catalog.Effect
import Ecommerce.Lib.Triple

namespace Ecommerce

/-- The catalogue, and the products that rows of `order_items` refer to. -/
structure Shop where
  catalog : Catalog
  ordered : List ProductId

def CatalogMove.table (c : CatalogMove) : TableMove := ⟨c.db, c.newId, c.now⟩

namespace Shop

abbrev db (s : Shop) : CatalogDb := s.catalog.db

/-- An order item keeps its product from being deleted, and follows it to a new id. -/
def product (engine : Engine) (c : CatalogMove) : Handler CatalogOp CatalogOp.Res Error Shop
  | .delete id, s =>
    if c.db = .accept ∧ s.db.products.find? id ≠ none ∧ id ∈ s.ordered then
      (.error CatalogDb.foreignKey, { s with catalog := s.catalog.drift c })
    else
      let r := Catalog.handle engine c (.delete id) s.catalog
      (r.1, { s with catalog := r.2 })
  | .update id data, s =>
    let r := Catalog.handle engine c (.update id data) s.catalog
    let ordered := match r.1 with
      | .ok _ => s.ordered.map fun p => if p = id then data.id.getD id else p
      | .error _ => s.ordered
    (r.1, ⟨r.2, ordered⟩)
  | op, s =>
    let r := Catalog.handle engine c op s.catalog
    (r.1, { s with catalog := r.2 })

def category (c : CatalogMove) : Handler CategoryOp CategoryOp.Res Error Shop := fun op s =>
  let r := c.table.category op s.db
  (r.1, { s with catalog := { s.catalog with db := r.2 } })

def inventory (c : CatalogMove) : Handler InventoryOp InventoryOp.Res Error Shop := fun op s =>
  let r := c.table.inventory op s.db
  (r.1, { s with catalog := { s.catalog with db := r.2 } })

end Shop

theorem ProductData.id_apply {data : ProductData} (hid : data.id = none) (now : Int)
    (product : Product) : (data.apply now product).id = product.id := by
  rw [apply, hid, Option.getD_none]

/-- `updateProductSchema` has no id. -/
inductive RowWrite
  | updateProduct (id : ProductId) (data : ProductData) (hid : data.id = none)
  | deleteProduct (id : ProductId)
  | updateCategory (id : String) (data : CategoryData)
  | deleteCategory (id : String)
  | updateInventory (productId : ProductId) (data : InventoryUpdate)

namespace RowWrite

/-- The call of the service, alone. -/
def call (engine : Engine) (env : Script CatalogMove) (s : Shop) :
    RowWrite → Except Error Unit × Shop
  | .updateProduct id data _ =>
    let r := ((ProductRequest.update id data).program engine).play (Shop.product engine) env s
    (r.1.map fun _ => (), r.2)
  | .deleteProduct id =>
    let r := ((ProductRequest.delete id).program engine).play (Shop.product engine) env s
    (r.1.map fun _ => (), r.2)
  | .updateCategory id data => (CategoryRequest.update id data).program.play Shop.category env s
  | .deleteCategory id => (CategoryRequest.delete id).program.play Shop.category env s
  | .updateInventory p data => (InventoryCall.update p data).program.play Shop.inventory env s

def Present (s : Shop) : RowWrite → Prop
  | .updateProduct id _ _ => s.db.products.find? id ≠ none
  | .deleteProduct id => s.db.products.find? id ≠ none
  | .updateCategory id _ => s.db.categories.find? id ≠ none
  | .deleteCategory id => s.db.categories.find? id ≠ none
  | .updateInventory p _ => s.db.inventory p ≠ none

def Breaks (now : Int) (s : Shop) : RowWrite → Prop
  | .updateProduct id data _ => ∃ product, s.db.products.find? id = some product ∧
      (CatalogDb.takesProduct (s.db.products.rows.filter (·.id ≠ id)) (data.apply now product) ∨
        s.db.categories.find? (data.apply now product).categoryId = none)
  | .deleteProduct id => id ∈ s.ordered
  | .updateCategory id data => ∃ category, s.db.categories.find? id = some category ∧
      (CatalogDb.takesCategory (s.db.categories.rows.filter (·.id ≠ id)) (data.apply now category) ∨
        s.db.parentExists (data.apply now category).parentId = false)
  | .deleteCategory id => ∃ product ∈ s.db.products.rows, product.categoryId = id
  | .updateInventory _ _ => False

def Done (now : Int) (db : CatalogDb) : RowWrite → CatalogDb → Prop
  | .updateProduct id data hid, db' =>
    db' = { db with products := db.products.modify id (data.apply now) (ProductData.id_apply hid now) }
  | .deleteProduct id, db' => db'.products = db.products.filter (·.id ≠ id)
  | .updateCategory id data, db' =>
    db' = { db with categories := db.categories.modify id (data.apply now) fun _ => rfl }
  | .deleteCategory id, db' =>
    db'.categories.rows.map Category.id = (db.categories.filter (·.id ≠ id)).rows.map Category.id
  | .updateInventory p data, db' =>
    db' = { db with inventory := Function.update db.inventory p ((db.inventory p).map fun record =>
              { record with
                toInventoryRow := data.apply record.toInventoryRow
                updatedAt := now }) }

/-- Not-found is reported of absent rows only, and of each of them; a row that is there is changed as
the write says, or nothing is changed and the error is another one. -/
structure Reports (now : Int) (s : Shop) (write : RowWrite) (r : Except Error Unit × Shop) :
    Prop where
  notFound_iff : (∃ m, r.1 = .error (.notFound m)) ↔ ¬ write.Present s
  effect : write.Present s →
    (¬ write.Breaks now s ∧ r.1 = .ok () ∧ write.Done now s.db r.2.db) ∨
      (write.Breaks now s ∧ (∃ e, r.1 = .error e ∧ ∀ m, e ≠ .notFound m) ∧ r.2.db = s.db)
  ordered : r.2.ordered = s.ordered

def isDelete : RowWrite → Bool
  | .deleteProduct _ => true
  | .deleteCategory _ => true
  | _ => false

/-- An update has its row; a delete has none, or one that nothing refers to. -/
def Told (now : Int) (s : Shop) (write : RowWrite) : Prop :=
  if write.isDelete then write.Present s → ¬ write.Breaks now s else write.Present s

inductive Outcome (now : Int) (s : Shop) (write : RowWrite) : Except Error Unit → CatalogDb → Prop
  | absent (h : ¬ write.Present s) : Outcome now s write (.error recordNotFound) s.db
  | broken (h : write.Present s) (hbreaks : write.Breaks now s) (m : String) :
    Outcome now s write (.error (.plain m)) s.db
  | done (h : write.Present s) (hbreaks : ¬ write.Breaks now s) {db : CatalogDb}
    (hdone : write.Done now s.db db) : Outcome now s write (.ok ()) db

/-- What the service makes of it: a delete reports every rejection as not-found. -/
def answer (write : RowWrite) (m : String) (r : Except Error Unit) : Except Error Unit :=
  if write.isDelete then r.mapError fun _ => .notFound m else r

section Statements

variable {now : Int} {s : Shop}

theorem replace_eq_modify {t : ProductTable} {id : ProductId} {product : Product}
    (hfind : t.find? id = some product) {f : Product → Product} (hf : ∀ x, (f x).id = x.id) :
    t.replace id (f product) = some (t.modify id f hf) := by
  have hkey : (f product).id = id := (hf product).trans (Table.key_of_find? hfind)
  rw [Table.replace, dif_pos (.inl hkey), Option.some.injEq, Table.modify, Table.mk.injEq]
  apply List.map_congr_left
  intro x hx
  split
  · next hxid =>
    have hxfind := Table.find?_of_mem hx
    rw [hxid, hfind] at hxfind
    exact congrArg f (Option.some.inj hxfind)
  · rfl

variable (now s) in
theorem outcome_updateProduct (id : ProductId) (data : ProductData) (hid : data.id = none) :
    Outcome now s (.updateProduct id data hid) ((s.db.update id data now).1.map fun _ => ())
      (s.db.update id data now).2 := by
  unfold CatalogDb.update
  cases hfind : s.db.products.find? id with
  | none => exact .absent fun h => h hfind
  | some product =>
    have hpresent : Present s (.updateProduct id data hid) := by
      rw [Present, hfind]
      exact Option.some_ne_none product
    have hkey : (data.apply now product).id = id :=
      (ProductData.id_apply hid now product).trans (Table.key_of_find? hfind)
    simp only [replace_eq_modify hfind (ProductData.id_apply hid now)]
    split
    · next htakes => exact .broken hpresent ⟨product, hfind, .inl htakes⟩ _
    · next htakes =>
      cases hcategory : s.db.categories.find? (data.apply now product).categoryId with
      | none => exact .broken hpresent ⟨product, hfind, .inr hcategory⟩ _
      | some category =>
        refine .done hpresent ?_ ?_
        · rintro ⟨product', hfind', hbreaks⟩
          obtain rfl := Option.some.inj (hfind.symm.trans hfind')
          rcases hbreaks with hbreaks | hbreaks
          · exact htakes hbreaks
          · rw [hcategory] at hbreaks
            cases hbreaks
        · rw [Done, CatalogDb.moveInventory, if_pos hkey]

theorem outcome_updateCategory (id : String) (data : CategoryData) :
    Outcome now s (.updateCategory id data) ((s.db.updateCategory id data now).1.map fun _ => ())
      (s.db.updateCategory id data now).2 := by
  unfold CatalogDb.updateCategory
  cases hfind : s.db.categories.find? id with
  | none => exact .absent fun h => h hfind
  | some category =>
    have hpresent : Present s (.updateCategory id data) := by
      rw [Present, hfind]
      exact Option.some_ne_none category
    simp only
    split
    · next htakes => exact .broken hpresent ⟨category, hfind, .inl htakes⟩ _
    · next htakes =>
      split
      · next hparent => exact .broken hpresent ⟨category, hfind, .inr hparent⟩ _
      · next hparent =>
        refine .done hpresent ?_ rfl
        rintro ⟨category', hfind', hbreaks⟩
        obtain rfl := Option.some.inj (hfind.symm.trans hfind')
        exact hbreaks.elim htakes hparent

theorem outcome_deleteCategory (id : String) :
    Outcome now s (.deleteCategory id) (s.db.deleteCategory id).1 (s.db.deleteCategory id).2 := by
  unfold CatalogDb.deleteCategory
  cases hfind : s.db.categories.find? id with
  | none => exact .absent fun h => h hfind
  | some category =>
    have hpresent : Present s (.deleteCategory id) := by
      rw [Present, hfind]
      exact Option.some_ne_none category
    simp only
    split
    · next hany => exact .broken hpresent (by simpa [Breaks] using hany) _
    · next hany =>
      refine .done hpresent (fun h => hany (by simpa [Breaks] using h)) ?_
      rw [Done, Table.map, List.map_map]
      apply List.map_congr_left
      intro category _
      rw [Function.comp_apply]
      split <;> rfl

theorem outcome_updateInventory (p : ProductId) (data : InventoryUpdate) :
    Outcome now s (.updateInventory p data)
      ((CatalogDb.inventoryStatement now (.update p data) s.db).1.map fun _ => ())
      (CatalogDb.inventoryStatement now (.update p data) s.db).2 := by
  cases hfind : s.db.inventory p with
  | none =>
    simp only [CatalogDb.inventoryStatement, InventoryTable.db, hfind]
    exact .absent fun h => h hfind
  | some record =>
    simp only [CatalogDb.inventoryStatement, InventoryTable.db_update hfind]
    have hpresent : Present s (.updateInventory p data) := by
      rw [Present, hfind]
      exact Option.some_ne_none record
    refine .done hpresent id ?_
    rw [Done, hfind]
    rfl

end Statements

theorem reports_of_outcome {now : Int} {s t : Shop} {write : RowWrite} {m : String}
    {r : Except Error Unit} (h : Outcome now s write r t.db) (hordered : t.ordered = s.ordered) :
    write.Reports now s (write.answer m r, t) ↔ write.Told now s := by
  generalize hdb : t.db = db at h
  unfold answer Told
  cases h with
  | absent habsent =>
    cases write.isDelete with
    | false =>
      refine iff_of_false (fun hreports => ?_) habsent
      obtain ⟨m', hm'⟩ := hreports.notFound_iff.mpr habsent
      cases hm'
    | true => exact iff_of_true ⟨⟨fun _ => habsent, fun _ => ⟨m, rfl⟩⟩, fun hpresent =>
        absurd hpresent habsent, hordered⟩ fun hpresent => absurd hpresent habsent
  | broken hpresent hbreaks m' =>
    cases write.isDelete with
    | false =>
      refine iff_of_true ⟨⟨?_, fun habsent => absurd hpresent habsent⟩, fun _ =>
        .inr ⟨hbreaks, ⟨_, rfl, fun _ h => by cases h⟩, hdb⟩, hordered⟩ hpresent
      rintro ⟨m'', hm''⟩
      cases hm''
    | true =>
      refine iff_of_false (fun hreports => ?_) fun htold => htold hpresent hbreaks
      exact hreports.notFound_iff.mp ⟨m, rfl⟩ hpresent
  | done hpresent hbreaks hdone =>
    have hreports : write.Reports now s (.ok (), t) := by
      refine ⟨⟨?_, fun habsent => absurd hpresent habsent⟩, fun _ =>
        .inl ⟨hbreaks, rfl, hdb ▸ hdone⟩, hordered⟩
      rintro ⟨m', hm'⟩
      cases hm'
    cases write.isDelete with
    | false => exact iff_of_true hreports hpresent
    | true => exact iff_of_true hreports fun _ => hbreaks

/-- The database executes every statement; other services do not write meanwhile. -/
structure Sole (c : CatalogMove) : Prop where
  db : c.db = .accept
  others : c.others = none

section Calls

variable {engine : Engine} {s : Shop} {c : CatalogMove}

theorem Sole.drift_db (hc : Sole c) (catalog : Catalog) : (catalog.drift c).db = catalog.db := by
  rw [Catalog.drift, hc.others]
  rfl

structure SameTables (s s' : Shop) : Prop where
  db : s'.db = s.db
  ordered : s'.ordered = s.ordered

/-- The commands that an invalidation sends. -/
def Invalidates : CatalogOp → Prop
  | .del _ => True
  | .keys _ => True
  | _ => False

theorem SameTables.command {s s' : Shop} (h : SameTables s s') (hc : Sole c) {op : CatalogOp}
    (hop : Invalidates op) : SameTables s (Shop.product engine c op s').2 := by
  have hdb : (Shop.product engine c op s').2.db = (s'.catalog.drift c).db := by
    cases op <;> first
      | exact hop.elim
      | simp only [Shop.product, Shop.db, Catalog.handle, Catalog.perform, Catalog.command]
        split <;> rfl
  refine ⟨hdb.trans ((hc.drift_db _).trans h.db), ?_⟩
  cases op <;> first
    | exact hop.elim
    | exact h.ordered

theorem wp_invalidate {s s' : Shop} (h : SameTables s s') (id : ProductId) :
    Prog.wp Sole (Shop.product engine) (ProductService.invalidate id)
      (fun r s' => r = .ok () ∧ SameTables s s') s' := by
  have htables : Prog.wp Sole (Shop.product engine) (ProductService.invalidate id)
      (fun _ t => SameTables s t) s' :=
    (ProductService.awaits_invalidate (P := Invalidates) (fun _ => trivial) trivial id).wp
      (fun _ _ _ hc hop ht => ht.command hc hop) h
  have hresolves : Prog.wp Sole (Shop.product engine) (ProductService.invalidate id)
      (fun r _ => r = .ok ()) s' := by
    rw [ProductService.invalidate, Prog.wp_bind]
    refine (Prog.wp_swallow _ _).mono ?_
    rintro r t ⟨_, rfl⟩
    refine (Prog.wp_swallow _ _).mono ?_
    rintro r u ⟨_, rfl⟩
    rfl
  exact hresolves.and htables

variable (engine) in
theorem play_invalidate {env : Script CatalogMove} (henv : ∀ n, Sole (env n)) (id : ProductId)
    {α : Type} (a : α) (s : Shop) :
    ((do ProductService.invalidate id; pure a : CatalogM α).play (Shop.product engine) env s).1 =
        .ok a ∧
      SameTables s
        ((do ProductService.invalidate id; pure a : CatalogM α).play (Shop.product engine) env s).2 := by
  have hwp : Prog.wp Sole (Shop.product engine)
      (do ProductService.invalidate id; pure a : CatalogM α)
      (fun r s' => r = .ok a ∧ SameTables s s') s := by
    rw [Prog.wp_bind]
    refine (wp_invalidate ⟨rfl, rfl⟩ id).mono ?_
    rintro r t ⟨rfl, htables⟩
    exact ⟨rfl, htables⟩
  exact hwp.play henv

variable (engine) in
theorem product_update (hc : Sole c) (id : ProductId) {data : ProductData} (hid : data.id = none)
    (s : Shop) :
    (Shop.product engine c (.update id data) s).1 = (s.db.update id data c.now).1 ∧
      (Shop.product engine c (.update id data) s).2.db = (s.db.update id data c.now).2 ∧
      (Shop.product engine c (.update id data) s).2.ordered = s.ordered := by
  have hdb : (s.catalog.drift c).db = s.db := hc.drift_db s.catalog
  have hordered : (s.ordered.map fun p => if p = id then data.id.getD id else p) = s.ordered := by
    rw [hid]
    conv_rhs => rw [← List.map_id s.ordered]
    apply List.map_congr_left
    intro p _
    split
    · next hp => exact hp.symm
    · rfl
  refine ⟨?_, ?_, ?_⟩
  · simp only [Shop.product, Catalog.handle, Catalog.perform, Catalog.statement, hc.db, hdb]
  · simp only [Shop.product, Catalog.handle, Catalog.perform, Catalog.statement, hc.db, Shop.db, hdb]
  · simp only [Shop.product, hordered]
    split <;> rfl

variable (engine) in
theorem product_delete (hc : Sole c) (id : ProductId) (s : Shop) :
    Outcome c.now s (.deleteProduct id) (Shop.product engine c (.delete id) s).1
        (Shop.product engine c (.delete id) s).2.db ∧
      (Shop.product engine c (.delete id) s).2.ordered = s.ordered := by
  have hdb : (s.catalog.drift c).db = s.db := hc.drift_db s.catalog
  have hfree (hfree : ¬ (c.db = .accept ∧ s.db.products.find? id ≠ none ∧ id ∈ s.ordered)) :
      Shop.product engine c (.delete id) s = ((s.db.delete id).1,
        { s with catalog := { s.catalog.drift c with db := (s.db.delete id).2 } }) := by
    refine (if_neg hfree).trans ?_
    simp only [Catalog.handle, Catalog.perform, Catalog.statement, hc.db, hdb]
  cases hfind : s.db.products.find? id with
  | none =>
    rw [hfree fun h => h.2.1 hfind, CatalogDb.delete, hfind]
    exact ⟨.absent fun h => h hfind, rfl⟩
  | some product =>
    have hpresent : Present s (.deleteProduct id) := by
      rw [Present, hfind]
      exact Option.some_ne_none product
    by_cases hordered : id ∈ s.ordered
    · have hrefused : Shop.product engine c (.delete id) s =
          (.error CatalogDb.foreignKey, { s with catalog := s.catalog.drift c }) :=
        if_pos ⟨hc.db, hpresent, hordered⟩
      rw [hrefused, Shop.db, hdb]
      exact ⟨.broken hpresent hordered _, rfl⟩
    · rw [hfree fun h => hordered h.2.2, CatalogDb.delete, hfind]
      exact ⟨.done hpresent hordered rfl, rfl⟩

theorem call_updateProduct {env : Script CatalogMove} (henv : ∀ n, Sole (env n)) (id : ProductId)
    (data : ProductData) (hid : data.id = none) (s : Shop) :
    Outcome (env 0).now s (.updateProduct id data hid)
        (call engine env s (.updateProduct id data hid)).1
        (call engine env s (.updateProduct id data hid)).2.db ∧
      (call engine env s (.updateProduct id data hid)).2.ordered = s.ordered := by
  obtain ⟨hresult, hdb, hordered⟩ := product_update engine (henv 0) id hid s
  have houtcome := outcome_updateProduct (env 0).now s id data hid
  rw [← hresult, ← hdb] at houtcome
  simp only [call, ProductRequest.program_update, Prog.play_await]
  cases hr : (Shop.product engine (env 0) (.update id data) s).1 with
  | error e =>
    rw [hr] at houtcome
    exact ⟨houtcome, hordered⟩
  | ok written =>
    have htail : ∀ n, Sole (env.tail n) := fun n => henv (n + 1)
    obtain ⟨hok, htables⟩ := play_invalidate engine htail id (ProductAnswer.written written)
      (Shop.product engine (env 0) (.update id data) s).2
    rw [hr] at houtcome
    simp only [hok, htables.db, htables.ordered]
    exact ⟨houtcome, hordered⟩

theorem call_deleteProduct {env : Script CatalogMove} (henv : ∀ n, Sole (env n)) (id : ProductId)
    (s : Shop) :
    ∃ r, (call engine env s (.deleteProduct id)).1 =
        answer (.deleteProduct id) "Product not found" r ∧
      Outcome (env 0).now s (.deleteProduct id) r (call engine env s (.deleteProduct id)).2.db ∧
      (call engine env s (.deleteProduct id)).2.ordered = s.ordered := by
  obtain ⟨houtcome, hordered⟩ := product_delete engine (henv 0) id s
  simp only [call, ProductRequest.program_delete, Prog.play_await]
  cases hr : (Shop.product engine (env 0) (.delete id) s).1 with
  | error e =>
    rw [hr] at houtcome
    exact ⟨.error e, rfl, houtcome, hordered⟩
  | ok deleted =>
    have htail : ∀ n, Sole (env.tail n) := fun n => henv (n + 1)
    obtain ⟨hok, htables⟩ := play_invalidate engine htail id ProductAnswer.deleted
      (Shop.product engine (env 0) (.delete id) s).2
    rw [hr] at houtcome
    simp only [hok, htables.db, htables.ordered]
    exact ⟨.ok (), rfl, houtcome, hordered⟩

theorem call_updateCategory (env : Script CatalogMove) (id : String) (data : CategoryData)
    (s : Shop) :
    call engine env s (.updateCategory id data) =
      ((Shop.category (env 0) (.update id data) s).1.map fun _ => (),
        (Shop.category (env 0) (.update id data) s).2) := by
  change Prog.play Shop.category env (.await (.update id data) fun r => _) s = _
  rw [Prog.play_await]
  rcases Shop.category (env 0) (.update id data) s with ⟨e | category, s'⟩ <;> rfl

theorem call_deleteCategory (env : Script CatalogMove) (id : String) (s : Shop) :
    call engine env s (.deleteCategory id) =
      (answer (.deleteCategory id) "Category not found" (Shop.category (env 0) (.delete id) s).1,
        (Shop.category (env 0) (.delete id) s).2) := by
  change Prog.play Shop.category env (.await (.delete id) fun r => _) s = _
  rw [Prog.play_await]
  rcases Shop.category (env 0) (.delete id) s with ⟨e | ⟨⟩, s'⟩ <;> rfl

theorem call_updateInventory (env : Script CatalogMove) (p : ProductId) (data : InventoryUpdate)
    (s : Shop) :
    call engine env s (.updateInventory p data) =
      ((Shop.inventory (env 0) (.update p data) s).1.map fun _ => (),
        (Shop.inventory (env 0) (.update p data) s).2) := by
  change Prog.play Shop.inventory env (.await (.update p data) fun r => _) s = _
  rw [Prog.play_await]
  rcases Shop.inventory (env 0) (.update p data) s with ⟨e | row, s'⟩ <;> rfl

variable (engine) in
theorem call_outcome {env : Script CatalogMove} (henv : ∀ n, Sole (env n)) (s : Shop)
    (write : RowWrite) :
    ∃ m r, (call engine env s write).1 = write.answer m r ∧
      Outcome (env 0).now s write r (call engine env s write).2.db ∧
      (call engine env s write).2.ordered = s.ordered := by
  cases write with
  | updateProduct id data hid => exact ⟨"", _, rfl, call_updateProduct henv id data hid s⟩
  | deleteProduct id => exact ⟨_, call_deleteProduct henv id s⟩
  | updateCategory id data =>
    rw [call_updateCategory]
    refine ⟨"", _, rfl, ?_⟩
    simp only [Shop.category, TableMove.category, CatalogMove.table, TableMove.statement,
      (henv 0).db]
    exact ⟨outcome_updateCategory id data, trivial⟩
  | deleteCategory id =>
    rw [call_deleteCategory]
    refine ⟨_, _, rfl, ?_⟩
    simp only [Shop.category, TableMove.category, CatalogMove.table, TableMove.statement,
      (henv 0).db]
    exact ⟨outcome_deleteCategory id, trivial⟩
  | updateInventory p data =>
    rw [call_updateInventory]
    refine ⟨"", _, rfl, ?_⟩
    simp only [Shop.inventory, TableMove.inventory, CatalogMove.table, TableMove.statement,
      (henv 0).db]
    exact ⟨outcome_updateInventory p data, trivial⟩

end Calls

end RowWrite

open RowWrite in
/-- Not-found is reported exactly for absent rows by an update whose row is there, and by a delete
whose row is absent or free of references. -/
theorem reports_iff (engine : Engine) {env : Script CatalogMove} (henv : ∀ n, Sole (env n))
    (s : Shop) (write : RowWrite) :
    write.Reports (env 0).now s (call engine env s write) ↔ write.Told (env 0).now s := by
  obtain ⟨m, r, hanswer, houtcome, hordered⟩ := call_outcome engine henv s write
  have hreports := reports_of_outcome (m := m) houtcome hordered
  rwa [← hanswer] at hreports

section Example

private def bare : Engine :=
  ⟨id, fun _ _ _ _ => .ok [], fun _ _ => .ok 0, fun h _ hproduct => by
    obtain rfl := Except.ok.inj h
    cases hproduct⟩

private def eight : Number := .decimal ⟨false, 8, 1, by decide⟩

private def lamp : Product := ⟨"p", "p", "Lamp", "p", none, 900, "c", none, true, 0, 0⟩

private def lampShop (ordered : List ProductId) : Shop :=
  ⟨⟨⟨⟨[lamp], by decide⟩, .empty, fun _ => none⟩, .empty⟩, ordered⟩

private def nobodyElse : Script CatalogMove := fun _ => .undisturbed

theorem reports_iff_lamp :
    (RowWrite.deleteProduct "p").Reports 0 (lampShop [])
        (RowWrite.call bare nobodyElse (lampShop []) (.deleteProduct "p")) ↔
      (RowWrite.deleteProduct "p").Told 0 (lampShop []) :=
  have hsole : ∀ n, RowWrite.Sole (nobodyElse n) := fun _ => ⟨rfl, rfl⟩
  reports_iff bare hsole (lampShop []) (.deleteProduct "p")

/-- A product that has been ordered is reported as not found; a product that is not there is not. -/
theorem not_reports_lamp :
    ¬ (RowWrite.deleteProduct "p").Reports 0 (lampShop ["p"])
        (RowWrite.call bare nobodyElse (lampShop ["p"]) (.deleteProduct "p")) ∧
      ¬ (RowWrite.updateProduct "q" { price := some eight } rfl).Reports 0 (lampShop [])
        (RowWrite.call bare nobodyElse (lampShop []) (.updateProduct "q" { price := some eight } rfl)) := by
  constructor
  · intro h
    exact h.notFound_iff.mp ⟨_, rfl⟩ (Option.some_ne_none lamp)
  · intro h
    obtain ⟨m, hm⟩ := h.notFound_iff.mpr fun hpresent => hpresent rfl
    cases hm

end Example

end Ecommerce
