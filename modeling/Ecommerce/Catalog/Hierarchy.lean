import Ecommerce.Catalog.Category
import Ecommerce.Lib.Forest
import Ecommerce.Lib.Runs

namespace Ecommerce

namespace CatalogDb

def parentOf (db : CatalogDb) (id : String) : Option String :=
  (db.categories.find? id).bind Category.parentId

/-- Every `parentId` is the id of a category. -/
def ParentsExist (db : CatalogDb) : Prop :=
  ∀ id parent, db.parentOf id = some parent → (db.categories.find? parent).isSome

/-- No category is its own ancestor. -/
def IsForest (db : CatalogDb) : Prop := Forest.Acyclic db.parentOf

end CatalogDb

/-- The tables after a call of the category service. -/
def CategoryRequest.serve (db : CatalogDb) (call : CategoryRequest × Script TableMove) : CatalogDb :=
  (call.1.program.play TableMove.category call.2 db).2

/-- An update that is carried out hangs the category neither under itself nor under one of its
descendants, and a create does not name the id it is about to be given. -/
def KeepsForest (db : CatalogDb) : CategoryRequest × Script TableMove → Prop
  | (.create data, env) => (env 0).db = .accept →
      ∀ category, data.row (env 0).newId (env 0).now = some category →
        CatalogDb.takesCategory db.categories.rows category = false →
        db.categories.find? (env 0).newId = none → category.parentId ≠ some (env 0).newId
  | (.update id data, env) => (env 0).db = .accept →
      ∀ category, db.categories.find? id = some category →
        CatalogDb.takesCategory (db.categories.rows.filter (·.id ≠ id))
          (data.apply (env 0).now category) = false →
        ∀ parent, data.parentId = some (some parent) → ¬ Forest.Reaches db.parentOf parent id
  | (.delete _, _) => True

section Serve

variable (db : CatalogDb) (env : Script TableMove)

theorem serve_create (data : CategoryData) :
    CategoryRequest.serve db (.create data, env) = ((env 0).category (.create data) db).2 := by
  change (Prog.play TableMove.category env (.perform (CategoryOp.create data) >>= fun _ => pure ())
    db).2 = _
  rw [Prog.play_perform_bind]
  split <;> next h => rw [h] <;> rfl

theorem serve_update (id : String) (data : CategoryData) :
    CategoryRequest.serve db (.update id data, env) = ((env 0).category (.update id data) db).2 := by
  change (Prog.play TableMove.category env (.await (CategoryOp.update id data) fun r => _) db).2 = _
  rw [Prog.play_await]
  cases ((env 0).category (.update id data) db).1 <;> rfl

theorem serve_delete (id : String) :
    CategoryRequest.serve db (.delete id, env) = ((env 0).category (.delete id) db).2 := by
  change (Prog.play TableMove.category env (.await (CategoryOp.delete id) fun r => _) db).2 = _
  rw [Prog.play_await]
  cases ((env 0).category (.delete id) db).1 <;> rfl

end Serve

namespace CatalogDb

theorem id_row {data : CategoryData} {newId : String} {now : Int} {category : Category}
    (h : data.row newId now = some category) : category.id = newId := by
  cases hname : data.name <;> cases hslug : data.slug <;>
    simp only [CategoryData.row, hname, hslug, Option.pure_def, Option.bind_eq_bind,
      Option.bind_none, Option.bind_some, Option.some.injEq, reduceCtorEq] at h
  rw [← h]

theorem createCategory_cases (db : CatalogDb) (data : CategoryData) (newId : String) (now : Int) :
    (∃ e, db.createCategory data newId now = (.error e, db) ∧
      ∀ category, data.row newId now = some category →
        takesCategory db.categories.rows category = false → db.categories.find? newId = none →
          category.parentId ≠ some newId) ∨
    (∃ category categories,
      db.createCategory data newId now = (.ok category, { db with categories }) ∧
      data.row newId now = some category ∧
      takesCategory db.categories.rows category = false ∧
      (category.parentId = some newId ∨ db.parentExists category.parentId) ∧
      db.categories.insert category = some categories) := by
  unfold createCategory
  cases hrow : data.row newId now with
  | none => exact .inl ⟨_, rfl, by rintro _ ⟨⟩⟩
  | some category =>
    dsimp only
    by_cases htakes : takesCategory db.categories.rows category
    · rw [if_pos htakes]
      refine .inl ⟨_, rfl, ?_⟩
      rintro _ ⟨⟩ h
      simp [htakes] at h
    · rw [if_neg htakes]
      by_cases hparent : category.parentId ≠ some newId ∧ db.parentExists category.parentId = false
      · rw [if_pos hparent]
        refine .inl ⟨_, rfl, ?_⟩
        rintro _ ⟨⟩ - -
        exact hparent.1
      · rw [if_neg hparent]
        cases hinsert : db.categories.insert category with
        | none =>
          refine .inl ⟨_, rfl, ?_⟩
          rintro _ ⟨⟩ - hfind
          rw [Table.insert_eq_none, id_row hrow] at hinsert
          exact absurd hfind hinsert
        | some categories =>
          refine .inr ⟨category, categories, rfl, rfl, by simpa using htakes, ?_, hinsert⟩
          by_cases hself : category.parentId = some newId
          · exact .inl hself
          · exact .inr (by simpa [hself] using hparent)

theorem updateCategory_cases (db : CatalogDb) (id : String) (data : CategoryData) (now : Int) :
    (∃ e, db.updateCategory id data now = (.error e, db) ∧
      ∀ category, db.categories.find? id = some category →
        takesCategory (db.categories.rows.filter (·.id ≠ id)) (data.apply now category) = false →
          db.parentExists (data.apply now category).parentId = false) ∨
    (∃ category, db.updateCategory id data now = (.ok (data.apply now category),
        { db with categories := db.categories.modify id (data.apply now) fun _ => rfl }) ∧
      db.categories.find? id = some category ∧
      takesCategory (db.categories.rows.filter (·.id ≠ id)) (data.apply now category) = false ∧
      db.parentExists (data.apply now category).parentId) := by
  unfold updateCategory
  cases hfind : db.categories.find? id with
  | none => exact .inl ⟨_, rfl, by rintro _ ⟨⟩⟩
  | some category =>
    dsimp only
    by_cases htakes : takesCategory (db.categories.rows.filter (·.id ≠ id)) (data.apply now category)
    · rw [if_pos htakes]
      refine .inl ⟨_, rfl, ?_⟩
      rintro _ ⟨⟩ h
      exact absurd htakes (by rw [h]; decide)
    · rw [if_neg htakes]
      by_cases hparent : db.parentExists (data.apply now category).parentId = false
      · rw [if_pos hparent]
        refine .inl ⟨_, rfl, ?_⟩
        rintro _ ⟨⟩ -
        exact hparent
      · rw [if_neg hparent]
        exact .inr ⟨category, rfl, rfl, by simpa using htakes, by simpa using hparent⟩

theorem parentExists_some {db : CatalogDb} {parent : String}
    (h : db.parentExists (some parent)) : (db.categories.find? parent).isSome := by
  simpa [parentExists] using h

section Create

variable {db : CatalogDb} {category : Category} {categories : CategoryTable}
  (hinsert : db.categories.insert category = some categories)
include hinsert

theorem parentOf_insert (id : String) : parentOf { db with categories } id =
    if id = category.id then category.parentId else db.parentOf id := by
  rw [parentOf, Table.find?_insert hinsert]
  split <;> rfl

theorem isSome_insert {id : String} (h : (db.categories.find? id).isSome) :
    (categories.find? id).isSome := by
  rw [Table.find?_insert hinsert]
  split
  · rfl
  · exact h

theorem ParentsExist.insert (hdb : db.ParentsExist)
    (hparent : category.parentId = some category.id ∨ db.parentExists category.parentId) :
    ParentsExist { db with categories } := by
  intro id parent h
  rw [parentOf_insert hinsert] at h
  split at h
  · rcases hparent with hself | hexists
    · obtain rfl := Option.some.inj (hself.symm.trans h)
      change (categories.find? category.id).isSome
      rw [Table.find?_insert hinsert, if_pos rfl]
      rfl
    · rw [h] at hexists
      exact isSome_insert hinsert (parentExists_some hexists)
  · exact isSome_insert hinsert (hdb id parent h)

/-- Nothing refers to a new category, so the only cycle it can close is with itself. -/
theorem isForest_insert_iff (hdb : db.ParentsExist) (hforest : db.IsForest) :
    IsForest { db with categories } ↔ category.parentId ≠ some category.id := by
  have hnone := Table.find?_of_insert hinsert
  have hothers : ∀ id, id ≠ category.id → parentOf { db with categories } id = db.parentOf id := by
    intro id hne
    rw [parentOf_insert hinsert, if_neg hne]
  have hself : parentOf { db with categories } category.id = category.parentId := by
    rw [parentOf_insert hinsert, if_pos rfl]
  cases hparent : category.parentId with
  | none =>
    refine iff_of_true (hforest.mono fun id parent h => ?_) (by simp)
    by_cases hid : id = category.id
    · rw [Forest.Up, hid, hself, hparent] at h
      cases h
    · rw [Forest.Up, hothers id hid] at h
      exact h
  | some parent =>
    rw [IsForest, Forest.acyclic_iff_of_moved hforest hothers (hself.trans hparent),
      ne_eq, Option.some.injEq, not_iff_not]
    constructor
    · apply Forest.eq_of_reaches
      intro id h
      have hexists := hdb id category.id h
      simp [hnone] at hexists
    · rintro rfl
      exact .refl

end Create

section Update

variable {db : CatalogDb} {id : String} {category : Category} {f : Category → Category}
  {hf : ∀ category, (f category).id = category.id}

theorem parentOf_modify (hfind : db.categories.find? id = some category) (id' : String) :
    parentOf { db with categories := db.categories.modify id f hf } id' =
      if id' = id then (f category).parentId else db.parentOf id' := by
  rw [parentOf, Table.find?_modify, hfind]
  split <;> rfl

theorem isSome_modify (id' : String) :
    ((db.categories.modify id f hf).find? id').isSome = (db.categories.find? id').isSome := by
  rw [Table.find?_modify]
  split
  · next hid => rw [Option.isSome_map, hid]
  · rfl

theorem ParentsExist.modify (hdb : db.ParentsExist) (hfind : db.categories.find? id = some category)
    (hparent : db.parentExists (f category).parentId) :
    ParentsExist { db with categories := db.categories.modify id f hf } := by
  intro id' parent h
  rw [parentOf_modify hfind] at h
  change ((db.categories.modify id f hf).find? parent).isSome
  rw [isSome_modify]
  split at h
  · rw [h] at hparent
    exact parentExists_some hparent
  · exact hdb id' parent h

theorem not_reaches_parent (hforest : db.IsForest) (hfind : db.categories.find? id = some category)
    {parent : String} (hparent : category.parentId = some parent) :
    ¬ Forest.Reaches db.parentOf parent id := by
  intro h
  refine hforest id (Relation.TransGen.head' ?_ h)
  rw [Forest.Up, parentOf, hfind]
  exact hparent

theorem isForest_modify_iff (hforest : db.IsForest) (hfind : db.categories.find? id = some category) :
    IsForest { db with categories := db.categories.modify id f hf } ↔
      ∀ parent, (f category).parentId = some parent → ¬ Forest.Reaches db.parentOf parent id := by
  have hothers : ∀ id', id' ≠ id →
      parentOf { db with categories := db.categories.modify id f hf } id' = db.parentOf id' := by
    intro id' hne
    rw [parentOf_modify hfind, if_neg hne]
  have hself : parentOf { db with categories := db.categories.modify id f hf } id =
      (f category).parentId := by
    rw [parentOf_modify hfind, if_pos rfl]
  cases hparent : (f category).parentId with
  | none =>
    refine iff_of_true (hforest.mono fun id' parent h => ?_) (by simp)
    by_cases hid : id' = id
    · rw [Forest.Up, hid, hself, hparent] at h
      cases h
    · rw [Forest.Up, hothers id' hid] at h
      exact h
  | some parent =>
    rw [IsForest, Forest.acyclic_iff_of_moved hforest hothers (hself.trans hparent)]
    simp

end Update

theorem parentOf_delete {db : CatalogDb} {id id' parent : String}
    (h : (db.deleteCategory id).2.parentOf id' = some parent) :
    db.parentOf id' = some parent ∧
      ((db.categories.find? parent).isSome →
        ((db.deleteCategory id).2.categories.find? parent).isSome) := by
  unfold deleteCategory at h ⊢
  cases hfind : db.categories.find? id with
  | none =>
    rw [hfind] at h
    exact ⟨h, fun hexists => hexists⟩
  | some category =>
    rw [hfind] at h
    dsimp only at h ⊢
    split at h
    · next hproducts =>
      rw [if_pos hproducts]
      exact ⟨h, fun hexists => hexists⟩
    · next hproducts =>
      rw [if_neg hproducts]
      simp only [parentOf, Table.find?_map, Table.find?_filter_key_ne, Option.isSome_map] at h ⊢
      split at h
      · simp at h
      · cases hfind' : db.categories.find? id' with
        | none => simp [hfind'] at h
        | some category' =>
          rw [hfind', Option.map_some, Option.bind_some] at h
          split at h
          · cases h
          · next hne =>
            have hparent : parent ≠ id := by
              rintro rfl
              exact hne h
            rw [if_neg hparent]
            exact ⟨h, fun hexists => hexists⟩

end CatalogDb

section Step

variable {db : CatalogDb} (env : Script TableMove)

theorem serve_of_reject {m : String} (hdb : (env 0).db = .reject m) (request : CategoryRequest) :
    CategoryRequest.serve db (request, env) = db := by
  cases request with
  | create data => simp [serve_create, TableMove.category, TableMove.statement, hdb]
  | update id data => simp [serve_update, TableMove.category, TableMove.statement, hdb]
  | delete id => simp [serve_delete, TableMove.category, TableMove.statement, hdb]

theorem keepsForest_of_reject {m : String} (hdb : (env 0).db = .reject m)
    (request : CategoryRequest) : KeepsForest db (request, env) := by
  cases request with
  | create data => simp [KeepsForest, hdb]
  | update id data => simp [KeepsForest, hdb]
  | delete id => trivial

variable (hdb : db.ParentsExist) (hforest : db.IsForest) {env} (haccept : (env 0).db = .accept)
include hdb hforest haccept

theorem create_keepsForest (data : CategoryData) :
    (db.createCategory data (env 0).newId (env 0).now).2.ParentsExist ∧
      ((db.createCategory data (env 0).newId (env 0).now).2.IsForest ↔
        KeepsForest db (.create data, env)) := by
  obtain ⟨e, hcreate, hkeeps⟩ | ⟨category, categories, hcreate, hrow, htakes, hparent, hinsert⟩ :=
      db.createCategory_cases data (env 0).newId (env 0).now
  · rw [hcreate]
    exact ⟨hdb, iff_of_true hforest fun _ => hkeeps⟩
  · have hid := CatalogDb.id_row hrow
    have hnone := Table.find?_of_insert hinsert
    rw [hcreate]
    rw [← hid] at hparent
    refine ⟨hdb.insert hinsert hparent, ?_⟩
    dsimp only
    rw [CatalogDb.isForest_insert_iff hinsert hdb hforest, hid]
    constructor
    · rintro hne - category' hrow' - -
      obtain rfl := Option.some.inj (hrow.symm.trans hrow')
      exact hne
    · intro h
      exact h haccept category hrow htakes (hid ▸ hnone)

theorem update_keepsForest (id : String) (data : CategoryData) :
    (db.updateCategory id data (env 0).now).2.ParentsExist ∧
      ((db.updateCategory id data (env 0).now).2.IsForest ↔
        KeepsForest db (.update id data, env)) := by
  obtain ⟨e, hupdate, hkeeps⟩ | ⟨category, hupdate, hfind, htakes, hparent⟩ :=
      db.updateCategory_cases id data (env 0).now
  · rw [hupdate]
    refine ⟨hdb, iff_of_true hforest ?_⟩
    -- A refused parent is not in the table, so nothing is reached from it.
    intro _ category hfind htakes parent hdata hreaches
    have hmissing := hkeeps category hfind htakes
    have hnone : db.categories.find? parent = none := by
      simpa [CatalogDb.parentExists, CategoryData.apply, hdata] using hmissing
    rcases Forest.eq_or_isSome_of_reaches hreaches with rfl | hsome
    · simp [hnone] at hfind
    · simp [CatalogDb.parentOf, hnone] at hsome
  · rw [hupdate]
    refine ⟨hdb.modify hfind hparent, ?_⟩
    apply (CatalogDb.isForest_modify_iff hforest hfind).trans
    constructor
    · rintro h - category' hfind' - parent hdata
      obtain rfl := Option.some.inj (hfind.symm.trans hfind')
      exact h parent (by simp [CategoryData.apply, hdata])
    · intro h parent happly
      cases hdata : data.parentId with
      | none =>
        rw [CategoryData.apply, hdata, Option.getD_none] at happly
        exact CatalogDb.not_reaches_parent hforest hfind happly
      | some parentId =>
        have hparentId : parentId = some parent := by simpa [CategoryData.apply, hdata] using happly
        exact h haccept category hfind htakes parent (by rw [hdata, hparentId])

omit haccept in
theorem delete_keepsForest (id : String) :
    (db.deleteCategory id).2.ParentsExist ∧ (db.deleteCategory id).2.IsForest := by
  refine ⟨fun id' parent h => ?_, hforest.mono fun id' parent h => ?_⟩
  · obtain ⟨hparent, hkept⟩ := CatalogDb.parentOf_delete h
    exact hkept (hdb id' parent hparent)
  · exact (CatalogDb.parentOf_delete h).1

omit haccept in
/-- One call: the foreign key holds on, and the forest exactly as the call keeps it. -/
theorem serve_keepsForest (request : CategoryRequest) :
    (CategoryRequest.serve db (request, env)).ParentsExist ∧
      ((CategoryRequest.serve db (request, env)).IsForest ↔ KeepsForest db (request, env)) := by
  cases haccept : (env 0).db with
  | reject m =>
    rw [serve_of_reject env haccept]
    exact ⟨hdb, iff_of_true hforest (keepsForest_of_reject env haccept request)⟩
  | accept =>
    cases request with
    | create data =>
      rw [serve_create, TableMove.category, TableMove.statement, haccept]
      exact create_keepsForest hdb hforest haccept data
    | update id data =>
      rw [serve_update, TableMove.category, TableMove.statement, haccept]
      exact update_keepsForest hdb hforest haccept id data
    | delete id =>
      rw [serve_delete, TableMove.category, TableMove.statement, haccept]
      obtain ⟨hparents, hkept⟩ := delete_keepsForest hdb hforest id
      exact ⟨hparents, iff_of_true hkept trivial⟩

end Step

/-- The hierarchy stays a forest along exactly those runs in which no update hangs a category
under itself or under one of its descendants, and no create names its own id. -/
theorem forest_always_iff {db : CatalogDb} (hdb : db.ParentsExist) (hforest : db.IsForest)
    (calls : List (CategoryRequest × Script TableMove)) :
    Runs.Always CategoryRequest.serve CatalogDb.IsForest db calls ↔
      Runs.Along CategoryRequest.serve KeepsForest db calls := by
  refine Runs.always_iff_along (J := CatalogDb.ParentsExist) (Q := fun _ _ => True)
    (fun db call hforest hdb _ => ?_) (fun db call hforest hdb _ _ => ?_) hforest hdb
    (Runs.along_of_forall fun _ _ => trivial)
  · exact (serve_keepsForest hdb hforest call.1).2
  · exact (serve_keepsForest hdb hforest call.1).1

section Example

private def rootId : String := "3f1b0c9e-6a0d-4a53-9b0e-2f7f3c1d5a11"

private def leafId : String := "b7d2e4a0-1c35-4f8e-8a6b-90d3e2c4f522"

private def nursery : CatalogDb where
  products := .empty
  categories :=
    { rows := [⟨rootId, "Plants", "plants", none, none, true, 0, 0⟩,
        ⟨leafId, "Ferns", "ferns", none, some rootId, true, 0, 0⟩]
      nodup := by decide }
  inventory := fun _ => none

private theorem parentOf_nursery (id : String) :
    nursery.parentOf id = if id = leafId then some rootId else none := by
  by_cases hleaf : id = leafId
  · rw [hleaf]
    rfl
  · by_cases hroot : id = rootId
    · rw [hroot]
      rfl
    · have hnone : nursery.categories.find? id = none := by
        simp [nursery, Table.find?, Ne.symm hleaf, Ne.symm hroot]
      simp [CatalogDb.parentOf, hnone, hleaf]

private theorem parentsExist_nursery : nursery.ParentsExist := by
  intro id parent h
  rw [parentOf_nursery] at h
  split at h
  · obtain rfl := Option.some.inj h
    rfl
  · cases h

private theorem isForest_nursery : nursery.IsForest := by
  intro id h
  obtain ⟨parent, hup, hreaches⟩ := Relation.TransGen.head'_iff.mp h
  rw [Forest.Up, parentOf_nursery] at hup
  split at hup
  · next hid =>
    obtain rfl := Option.some.inj hup
    rcases Forest.eq_or_isSome_of_reaches hreaches with heq | hsome
    · rw [hid] at heq
      exact absurd heq (by decide)
    · rw [parentOf_nursery] at hsome
      exact absurd hsome (by decide)
  · cases hup

/-- The child is taken off its parent, which is then hung under it. -/
private def swapping : List (CategoryRequest × Script TableMove) :=
  [(.update leafId { parentId := some none }, fun _ => .calm),
    (.update rootId { parentId := some (some leafId) }, fun _ => .calm)]

private theorem keepsForest_swapping :
    Runs.Along CategoryRequest.serve KeepsForest nursery swapping := by
  refine ⟨?_, ?_, trivial⟩
  · intro _ category _ _ parent hparent
    cases hparent
  · intro _ category _ _ parent hparent hreaches
    obtain rfl : leafId = parent := Option.some.inj (Option.some.inj hparent)
    rcases Forest.eq_or_isSome_of_reaches hreaches with heq | hsome
    · exact absurd heq (by decide)
    · exact absurd hsome (by decide)

theorem forest_always_iff_nursery :
    Runs.Always CategoryRequest.serve CatalogDb.IsForest nursery swapping ∧
      (Runs.Always CategoryRequest.serve CatalogDb.IsForest nursery
          [(.update rootId { parentId := some (some leafId) }, fun _ => .calm)] ↔
        Runs.Along CategoryRequest.serve KeepsForest nursery
          [(.update rootId { parentId := some (some leafId) }, fun _ => .calm)]) := by
  constructor
  · exact (forest_always_iff parentsExist_nursery isForest_nursery _).mpr keepsForest_swapping
  · exact forest_always_iff parentsExist_nursery isForest_nursery _

/-- The root is hung under its own child. -/
theorem not_forest_always_nursery :
    ¬ Runs.Always CategoryRequest.serve CatalogDb.IsForest nursery
      [(.update rootId { parentId := some (some leafId) }, fun _ => .calm)] := by
  rintro ⟨hforest, -⟩
  have hroot : (CategoryRequest.serve nursery
      (.update rootId { parentId := some (some leafId) }, fun _ => .calm)).parentOf rootId =
        some leafId := by decide
  have hleaf : (CategoryRequest.serve nursery
      (.update rootId { parentId := some (some leafId) }, fun _ => .calm)).parentOf leafId =
        some rootId := by decide
  exact hforest rootId (.tail (.single hroot) hleaf)

end Example

end Ecommerce
