import Ecommerce.Catalog.Freshness
import Ecommerce.Lib.Rely

/-! Product calls that overlap: each Redis command and each statement is one turn. -/

namespace Ecommerce

open Prog ProductService

def Mentions (id : ProductId) (key : CacheKey) : Prop := key = itemKey id ∨ listStem.isPrefixOf key

/-- A statement that changes or removes the product. -/
def CatalogOp.Writes (id : ProductId) : CatalogOp → Prop
  | .update id' _ => id' = id
  | .delete id' => id' = id
  | _ => False

def Deletes {α : Type} (key : CacheKey) : CatalogM α → Prop
  | .await (.del keys) k => key ∈ keys ∨ Deletes key (k (.ok ()))
  | .await (.keys stem) k =>
    stem.isPrefixOf key ∧ ∀ keys, key ∈ keys → Deletes key (k (.ok keys))
  | _ => False

/-- Calls that run at once, over a cache that starts empty. -/
structure CatalogRace where
  engine : Engine
  db : CatalogDb
  requests : List ProductRequest
  sched : Nat → Nat × CatalogMove

namespace CatalogRace

variable (R : CatalogRace)

def start : Pool (CatalogM ProductAnswer) Catalog :=
  ⟨R.requests.map (ProductRequest.program R.engine), ⟨R.db, .empty⟩⟩

def pool (n : Nat) : Pool (CatalogM ProductAnswer) Catalog :=
  Pool.race (Catalog.handle R.engine) R.start R.sched n

def products (n : Nat) : ProductTable := (R.pool n).state.db.products

def Performs (i n : Nat) (op : CatalogOp) : Prop :=
  Pool.Performs (Catalog.handle R.engine) R.start R.sched i n op

def result (n : Nat) (op : CatalogOp) : Except Error (CatalogOp.Res op) :=
  (Catalog.handle R.engine (R.sched n).2 op (R.pool n).state).1

def Queries (i n : Nat) : Prop :=
  (∃ id, R.Performs i n (.findUnique id)) ∨
    ∃ filter skip take, R.Performs i n (.findMany filter skip take)

/-- The update or the deletion that is call `i` takes effect at turn `n`. -/
def Commits (i n : Nat) (id : ProductId) : Prop :=
  ∃ op, R.Performs i n op ∧ op.Writes id ∧ ∃ written, R.result n op = .ok written

def Returned (i n : Nat) : Prop :=
  ∃ p, (R.pool n).threads[i]? = some p ∧ p.settlement.isSome

def Answers (i n : Nat) (answer : ProductAnswer) : Prop :=
  (R.pool n).threads[i]? = some (.pure answer)

/-- Every write since turn `t` that can concern the key has still to delete it. -/
def Owed (t n : Nat) (key : CacheKey) : Prop :=
  ∀ j c id, R.Commits j c id → t ≤ c → c < n → Mentions id key →
    ∃ p, (R.pool n).threads[j]? = some p ∧ Deletes key p

/-- At turn `n` the deleting commands work, and if a read caches what it has found, then every write
that took effect since it looked has still to delete that key. -/
def Orderly (n : Nat) : Prop :=
  (R.sched n).2.Invalidates ∧
    ∀ i key ttl entry, R.Performs i n (.setex key ttl entry) →
      ∀ t < n, R.Queries i t → R.Owed t n key

def AsOf (t : Nat) (key : CacheKey) (entry : Entry) : Prop :=
  ∀ view ∈ entry.views, view.product ∈ (R.products t).rows ∧ Mentions view.product.id key

end CatalogRace

section Deletes

variable {α : Type} {engine : Engine} {c : CatalogMove} {s : Catalog} {key : CacheKey}
  {entry : Entry}

theorem Catalog.cache_statement {β : Type} (turn : DbTurn) (r : Except Error β × CatalogDb)
    (s : Catalog) : (Catalog.statement turn r s).2.cache = s.cache := by
  cases turn <;> rfl

theorem Catalog.command_cache {β : Type} (failure : Option String) (r : β) (s : Catalog) :
    (Catalog.command failure (r, s.cache) s).2.cache = s.cache := by
  cases failure <;> rfl

theorem Catalog.get_handle {op : CatalogOp} (hdel : c.fails .del = none)
    (h : (Catalog.handle engine c op s).2.cache.get key = some entry) :
    (∃ ttl, op = .setex key ttl entry) ∨
      s.cache.get key = some entry ∧ ∀ keys, op = .del keys → key ∉ keys := by
  have hdrift : (s.drift c).cache.get key = some entry → (∀ keys, op ≠ .del keys) →
      s.cache.get key = some entry ∧ ∀ keys, op = .del keys → key ∉ keys :=
    fun hget hop => ⟨Catalog.get_drift hget, fun keys hkeys => absurd hkeys (hop keys)⟩
  cases op with
  | findMany | count | findUnique | create | update | delete =>
    rw [Catalog.handle, Catalog.perform, Catalog.cache_statement] at h
    exact .inr (hdrift h (by simp))
  | get | keys =>
    rw [Catalog.handle, Catalog.perform, Catalog.command_cache] at h
    exact .inr (hdrift h (by simp))
  | setex key' ttl value =>
    simp only [Catalog.handle, Catalog.perform, Catalog.command] at h
    split at h
    · rw [KeyValue.get_set] at h
      split at h
      · next hkey =>
        obtain rfl := Option.some.inj h
        exact .inl ⟨ttl, by rw [hkey]⟩
      · exact .inr (hdrift h (by simp))
    · exact .inr (hdrift h (by simp))
  | del keys =>
    simp only [Catalog.handle, Catalog.perform, Catalog.command, hdel, KeyValue.get_del] at h
    split at h
    · cases h
    next hnot =>
      refine .inr ⟨Catalog.get_drift h, ?_⟩
      rintro _ ⟨⟩
      exact hnot

theorem Catalog.keys_handle {stem : CacheKey} (hkeys : c.fails .keys = none)
    (h : (Catalog.handle engine c (.keys stem) s).2.cache.get key = some entry)
    (hstem : stem.isPrefixOf key) :
    ∃ keys, (Catalog.handle engine c (.keys stem) s).1 = .ok keys ∧ key ∈ keys := by
  rw [Catalog.handle, Catalog.perform, Catalog.command_cache] at h
  simp only [Catalog.handle, Catalog.perform, Catalog.command, hkeys]
  exact ⟨_, rfl, KeyValue.mem_keys h hstem⟩

theorem Deletes.step {op : CatalogOp} {k : Except Error (CatalogOp.Res op) → CatalogM α}
    (h : Deletes key (.await op k)) (hc : c.Invalidates)
    (hentry : (Catalog.handle engine c op s).2.cache.get key = some entry) :
    Deletes key (k (Catalog.handle engine c op s).1) := by
  cases op with
  | del keys =>
    have hkept : key ∉ keys := by
      rcases Catalog.get_handle hc.1 hentry with ⟨ttl, hop⟩ | ⟨-, hkept⟩
      · cases hop
      · exact hkept keys rfl
    have hdone : (Catalog.handle engine c (.del keys) s).1 = .ok () := by
      simp only [Catalog.handle, Catalog.perform, Catalog.command, hc.1]
    rw [hdone]
    exact h.resolve_left hkept
  | keys stem =>
    obtain ⟨keys, hresult, hmem⟩ := Catalog.keys_handle hc.2 hentry h.1
    rw [hresult]
    exact h.2 keys hmem
  | _ => exact h.elim

end Deletes

section Tidy

variable {α : Type}

def Tidy : CatalogM α → Prop
  | .await op k =>
    (∀ id key, op.Writes id → Mentions id key → ∀ written, Deletes key (k (.ok written))) ∧
      ∀ r, Tidy (k r)
  | _ => True

/-- The program writes no product. -/
def Harmless (op : CatalogOp) : Prop := ∀ id, ¬ op.Writes id

theorem tidy_of_awaits {p : CatalogM α} (hp : Awaits Harmless p) : Tidy p := by
  induction p with
  | pure a => trivial
  | throw e => trivial
  | await op k ih =>
    exact ⟨fun id key hwrites => absurd hwrites (hp.1 id), fun r => ih r (hp.2 r)⟩

theorem deletes_invalidate {id : ProductId} {key : CacheKey} (hkey : Mentions id key)
    (f : Unit → CatalogM α) : Deletes key (ProductService.invalidate id >>= f) := by
  rcases hkey with rfl | hlist
  · exact .inl (List.mem_singleton_self _)
  · refine .inr ⟨hlist, fun keys hmem => ?_⟩
    cases keys with
    | nil => cases hmem
    | cons first keys => exact .inl hmem

theorem awaits_cacheGet (key : CacheKey) : Awaits Harmless (CacheService.get key) :=
  Awaits.tryCatch ((awaits_perform _).mpr fun _ h => h) fun _ => trivial

theorem awaits_cacheSet (key : CacheKey) (value : Entry) (ttl : Nat) :
    Awaits Harmless (CacheService.set key value ttl) :=
  Awaits.tryCatch ((awaits_perform _).mpr fun _ h => h) fun _ => trivial

theorem awaits_getById (id : ProductId) : Awaits Harmless (ProductService.getById id) := by
  apply (awaits_cacheGet _).bind
  intro cached
  cases cached with
  | some entry => trivial
  | none =>
    refine Awaits.bind ((awaits_perform _).mpr fun _ h => h) fun view => ?_
    cases view with
    | none => trivial
    | some view => exact (awaits_cacheSet _ _ _).bind fun _ => trivial

theorem awaits_getAll (engine : Engine) (query : ProductQuery) :
    Awaits Harmless (ProductService.getAll engine query) := by
  apply (awaits_cacheGet _).bind
  intro cached
  cases cached with
  | some entry => trivial
  | none =>
    refine Awaits.bind ?_ fun result => (awaits_cacheSet _ _ _).bind fun _ => trivial
    exact Awaits.bind ((awaits_perform _).mpr fun _ h => h) fun products =>
      Awaits.bind ((awaits_perform _).mpr fun _ h => h) fun total => trivial

theorem tidy_program (engine : Engine) (request : ProductRequest) :
    Tidy (request.program engine) := by
  cases request with
  | getById id => exact tidy_of_awaits ((awaits_getById id).bind fun _ => trivial)
  | getAll query | search query =>
    exact tidy_of_awaits ((awaits_getAll engine query).bind fun _ => trivial)
  | create data =>
    refine tidy_of_awaits (Awaits.bind ?_ fun _ => trivial)
    exact Awaits.bind ((awaits_perform _).mpr fun _ h => h) fun _ =>
      (awaits_deletePattern (fun _ _ h => h) fun _ h => h).bind fun _ => trivial
  | update id data =>
    rw [ProductRequest.program_update]
    refine ⟨fun id' key hid hkey written => ?_, fun r => ?_⟩
    · obtain rfl : id = id' := hid
      exact deletes_invalidate hkey _
    · cases r with
      | error e => trivial
      | ok written =>
        exact tidy_of_awaits
          ((awaits_invalidate (fun _ _ h => h) (fun _ h => h) id).bind fun _ => trivial)
  | delete id =>
    rw [ProductRequest.program_delete]
    refine ⟨fun id' key hid hkey written => ?_, fun r => ?_⟩
    · obtain rfl : id = id' := hid
      exact deletes_invalidate hkey _
    · cases r with
      | error e => trivial
      | ok written =>
        exact tidy_of_awaits
          ((awaits_invalidate (fun _ _ h => h) (fun _ h => h) id).bind fun _ => trivial)

end Tidy

namespace CatalogRace

variable {R : CatalogRace} {i n m : Nat}

section Reading

variable {G : Nat → CatalogOp → Prop} {Q : Entry → Nat → Prop} {key : CacheKey}

/-- What a read that starts at `n` can return and store: an entry that it finds, or what the product
table held at a turn of its own. -/
structure Reading (R : CatalogRace) (i n : Nat) (key : CacheKey) (G : Nat → CatalogOp → Prop)
    (Q : Entry → Nat → Prop) : Prop where
  free : ∀ m op, (∀ key ttl entry, op ≠ .setex key ttl entry) → G m op
  hit : ∀ m entry, n ≤ m → (R.pool m).state.cache.get key = some entry → Q entry (m + 1)
  stored : ∀ t m entry, n ≤ t → t < m → R.Queries i t → R.AsOf t key entry →
    G m (.setex key 300 entry) ∧ Q entry (m + 1)

theorem find?_of_findUnique {c : CatalogMove} {engine : Engine} {s : Catalog} {id : ProductId}
    {view : ProductView}
    (h : (Catalog.handle engine c (.findUnique id) s).1 = .ok (some view)) :
    s.db.products.find? id = some view.product := by
  rw [Catalog.handle, Catalog.perform] at h
  rcases Catalog.statement_query c.db
    (.ok (((s.drift c).db.products.find? id).map (s.drift c).db.view)) (s.drift c) with
    hr | ⟨m, -, hr⟩
  · rw [hr] at h
    obtain ⟨product, hfind, rfl⟩ := Option.map_eq_some_iff.mp (Except.ok.inj h)
    rw [← Catalog.products_drift c s]
    exact hfind
  · rw [hr] at h
    cases h

theorem mem_of_findMany {c : CatalogMove} {engine : Engine} {s : Catalog} {filter : ProductWhere}
    {skip : ℚ} {take : Number} {views : List ProductView}
    (h : (Catalog.handle engine c (.findMany filter skip take) s).1 = .ok views) :
    ∀ view ∈ views, view.product ∈ s.db.products.rows := by
  rw [Catalog.handle, Catalog.perform] at h
  rcases Catalog.statement_query c.db ((engine.findMany (s.drift c).db.products filter skip take).map
    (·.map (s.drift c).db.view)) (s.drift c) with hr | ⟨m, -, hr⟩
  · rw [hr] at h
    cases hrows : engine.findMany (s.drift c).db.products filter skip take with
    | error e =>
      rw [hrows] at h
      cases h
    | ok rows =>
      rw [hrows] at h
      obtain rfl := Except.ok.inj h
      intro view hview
      obtain ⟨product, hproduct, rfl⟩ := List.mem_map.mp hview
      rw [← Catalog.products_drift c s]
      exact engine.mem_of_findMany hrows product hproduct
  · rw [hr] at h
    cases h

theorem get_of_hit {c : CatalogMove} {engine : Engine} {s : Catalog} {key : CacheKey} {entry : Entry}
    (h : (Catalog.handle engine c (.get key) s).1 = .ok (some entry)) :
    s.cache.get key = some entry := by
  simp only [Catalog.handle, Catalog.perform, Catalog.command] at h
  split at h
  · exact Catalog.get_drift (Except.ok.inj h)
  · cases h

theorem Reading.get (h : Reading R i n key G Q) {Q' : Except Error (Option Entry) → Nat → Prop}
    (hmiss : ∀ m, n < m → Q' (.ok none) m) (hhit : ∀ m entry, Q entry m → Q' (.ok (some entry)) m) :
    Under (Pool.Settles (Catalog.handle R.engine) R.start R.sched i) G (CacheService.get key) Q'
      n := by
  rw [CacheService.get, under_tryCatch, under_perform]
  refine fun m hm => ⟨h.free m _ (by simp), fun r hr => ?_⟩
  cases r with
  | error e => exact hmiss _ (Nat.lt_succ_of_le hm)
  | ok cached =>
    cases cached with
    | none => exact hmiss _ (Nat.lt_succ_of_le hm)
    | some entry =>
      exact hhit _ _ (h.hit m entry hm (get_of_hit hr.2.symm))

theorem Reading.set (h : Reading R i n key G Q) {t u : Nat} {entry : Entry} (ht : n ≤ t)
    (htu : t < u) (hqueries : R.Queries i t) (hasOf : R.AsOf t key entry)
    {Q' : Except Error Unit → Nat → Prop} (hQ : ∀ m, Q entry m → Q' (.ok ()) m) :
    Under (Pool.Settles (Catalog.handle R.engine) R.start R.sched i) G
      (CacheService.set key entry 300) Q' u := by
  rw [CacheService.set, under_tryCatch, under_perform]
  intro m hm
  obtain ⟨hG, hentry⟩ := h.stored t m entry ht (htu.trans_le hm) hqueries hasOf
  refine ⟨hG, fun r hr => ?_⟩
  cases r <;> exact hQ _ hentry

theorem Reading.getById {id : ProductId} (h : Reading R i n (itemKey id) G Q) :
    Under (Pool.Settles (Catalog.handle R.engine) R.start R.sched i) G (ProductService.getById id)
      (fun r m => ∀ entry, r = .ok (some entry) → Q entry m) n := by
  rw [ProductService.getById, under_bind]
  refine h.get (fun m hm => ?_) fun m entry hentry => ?_
  · rw [cont_ok, under_bind, ProductRepository.findById, under_perform]
    refine fun t ht => ⟨h.free t _ (by simp), fun r hr => ?_⟩
    cases r with
    | error e => rintro entry ⟨⟩
    | ok found =>
      cases found with
      | none => rintro entry ⟨⟩
      | some view =>
        have hfind := find?_of_findUnique hr.2.symm
        have hasOf : R.AsOf t (itemKey id) (.product view) := by
          intro view' hview'
          obtain rfl := List.mem_singleton.mp hview'
          exact ⟨Table.mem_of_find? hfind, .inl (congrArg itemKey (Table.key_of_find? hfind).symm)⟩
        rw [cont_ok, under_bind]
        apply h.set (hm.le.trans ht) t.lt_succ_self (.inl ⟨id, hr.1⟩) hasOf
        intro l hQ
        rintro entry ⟨⟩
        exact hQ
  · rintro entry' ⟨⟩
    exact hentry

theorem Reading.getAll {query : ProductQuery} (h : Reading R i n (listKey query) G Q) :
    Under (Pool.Settles (Catalog.handle R.engine) R.start R.sched i) G
      (ProductService.getAll R.engine query)
      (fun r m => ∀ entry, r = .ok entry → Q entry m) n := by
  rw [ProductService.getAll, under_bind]
  refine h.get (fun m hm => ?_) fun m entry hentry => ?_
  · rw [cont_ok, under_bind, ProductRepository.findAll, under_bind, under_perform]
    refine fun t ht => ⟨h.free t _ (by simp), fun r hr => ?_⟩
    cases r with
    | error e => rintro entry ⟨⟩
    | ok views =>
      have hrows := mem_of_findMany hr.2.symm
      rw [cont_ok, under_bind, under_perform]
      refine fun l hl => ⟨h.free l _ (by simp), fun r' hr' => ?_⟩
      cases r' with
      | error e => rintro entry ⟨⟩
      | ok total =>
        have hasOf : ∀ page : ProductPage, page.products = views →
            R.AsOf t (listKey query) (.page page) := by
          rintro page rfl view hview
          exact ⟨hrows view hview, .inr (isPrefixOf_listKey query)⟩
        rw [cont_ok, under_pure, cont_ok, under_bind]
        refine h.set (hm.le.trans ht) (Nat.lt_succ_of_lt hl) (.inr ⟨_, _, _, hr.1⟩) (hasOf _ rfl)
          fun l hQ => ?_
        rintro entry ⟨⟩
        exact hQ
  · rintro entry' ⟨⟩
    exact hentry

theorem Reading.quiet {β : Type} {p : CatalogM β} {answer : β → ProductAnswer}
    (h : Reading R i n key G Q)
    (hp : Awaits (fun op => ∀ key ttl entry, op ≠ .setex key ttl entry) p)
    (hanswer : ∀ b entry, answer b ≠ .read (some entry)) :
    Under (Pool.Settles (Catalog.handle R.engine) R.start R.sched i) G
      (p >>= fun b => Pure.pure (answer b))
      (fun r m => ∀ entry, r = .ok (.read (some entry)) → Q entry m) m := by
  rw [under_bind]
  apply hp.under h.free
  intro r m
  cases r with
  | error e => rintro entry ⟨⟩
  | ok b => exact fun entry hentry => absurd (Except.ok.inj hentry) (hanswer b entry)

theorem Reading.program (request : ProductRequest) (h : ∀ key, Reading R i n key G Q) :
    Under (Pool.Settles (Catalog.handle R.engine) R.start R.sched i) G (request.program R.engine)
      (fun r m => ∀ entry, r = .ok (.read (some entry)) → Q entry m) n := by
  cases request with
  | getById id =>
    rw [ProductRequest.program, under_bind]
    apply (h _).getById.mono
    intro r m _ hr
    cases r with
    | error e => rintro entry ⟨⟩
    | ok found =>
      rintro entry ⟨⟩
      exact hr entry rfl
  | getAll query | search query =>
    rw [ProductRequest.program, under_bind]
    apply (h _).getAll.mono
    intro r m _ hr
    cases r with
    | error e => rintro entry ⟨⟩
    | ok found =>
      rintro entry ⟨⟩
      exact hr _ rfl
  | create data =>
    refine (h []).quiet ?_ (by simp)
    apply Awaits.bind ((awaits_perform _).mpr (by simp))
    intro _
    exact (awaits_deletePattern (by simp) (by simp)).bind fun _ => trivial
  | update id data =>
    rw [ProductRequest.program_update]
    refine fun m _ => ⟨(h []).free m _ (by simp), fun r _ => ?_⟩
    cases r with
    | error e => rintro entry ⟨⟩
    | ok written => exact (h []).quiet (awaits_invalidate (by simp) (by simp) id) (by simp)
  | delete id =>
    rw [ProductRequest.program_delete]
    refine fun m _ => ⟨(h []).free m _ (by simp), fun r _ => ?_⟩
    cases r with
    | error e => rintro entry ⟨⟩
    | ok done => exact (h []).quiet (awaits_invalidate (by simp) (by simp) id) (by simp)

end Reading

theorem exists_request {p : CatalogM ProductAnswer} (hp : (R.pool n).threads[i]? = some p) :
    ∃ request, R.start.threads[i]? = some (ProductRequest.program R.engine request) := by
  obtain ⟨q, hq⟩ := Pool.exists_start hp
  obtain ⟨request, -, hrequest⟩ := List.mem_map.mp (List.mem_of_getElem? hq)
  exact ⟨request, hrequest ▸ hq⟩

theorem unstarted (R : CatalogRace) {i m : Nat} (hstart : ∀ k < m, (R.sched k).1 ≠ i) :
    (R.pool m).threads[i]? = R.start.threads[i]? := Pool.unstarted_race hstart

theorem tidy_pool {p : CatalogM ProductAnswer} (hp : (R.pool n).threads[i]? = some p) : Tidy p := by
  refine Pool.forall_race (fun op k h r => h.2 r) (fun q hq => ?_) n p (List.mem_of_getElem? hp)
  obtain ⟨request, -, rfl⟩ := List.mem_map.mp hq
  exact tidy_program R.engine request

theorem stored {key : CacheKey} {ttl : Nat} {entry : Entry}
    (h : R.Performs i n (.setex key ttl entry)) :
    ∃ t < n, R.Queries i t ∧ R.AsOf t key entry := by
  obtain ⟨hi, k, hk⟩ := h
  obtain ⟨request, hrequest⟩ := exists_request hk
  have hreading : ∀ key', Reading R i 0 key'
      (fun m op => ∀ key ttl entry, op = .setex key ttl entry →
        ∃ t < m, R.Queries i t ∧ R.AsOf t key entry) fun _ _ => True := by
    intro key'
    constructor
    · exact fun m op hop key ttl entry h => absurd h (hop key ttl entry)
    · exact fun _ _ _ _ => trivial
    · rintro t m entry - htm hqueries hasOf
      refine ⟨?_, trivial⟩
      rintro _ _ _ ⟨⟩
      exact ⟨t, htm, hqueries, hasOf⟩
  obtain ⟨p, hp, hunder⟩ := Pool.under_race (Q := fun _ _ => True) (fun _ _ _ => trivial) hrequest
    ((Reading.program request hreading).mono fun _ _ _ _ => trivial) n.zero_le
  rw [hk] at hp
  obtain rfl := Option.some.inj hp
  exact (hunder n le_rfl).1 key ttl entry rfl

/-- Every entry shows what the product table held at a time since which no write has passed it. -/
def Sourced (R : CatalogRace) (n : Nat) : Prop :=
  ∀ key entry, (R.pool n).state.cache.get key = some entry →
    ∃ t ≤ n, R.AsOf t key entry ∧ R.Owed t n key

theorem pool_succ_of_await {op : CatalogOp}
    {k : Except Error (CatalogOp.Res op) → CatalogM ProductAnswer}
    (hk : (R.pool n).threads[(R.sched n).1]? = some (.await op k)) :
    (R.pool (n + 1)).threads[(R.sched n).1]? = some (k (R.result n op)) ∧
      (R.pool (n + 1)).state =
        (Catalog.handle R.engine (R.sched n).2 op (R.pool n).state).2 :=
  ⟨Pool.threads_turn_self hk, Pool.state_turn hk⟩

theorem state_pool_succ (hidle : ∀ op k, (R.pool n).threads[(R.sched n).1]? ≠ some (.await op k)) :
    (R.pool (n + 1)).state = (R.pool n).state := by
  cases hp : (R.pool n).threads[(R.sched n).1]? with
  | none => exact Pool.state_turn_none hp
  | some p =>
    have hstate : (R.pool (n + 1)).state = (p.step _ (R.pool n).state).2 := Pool.state_turn hp
    rw [hstate]
    cases p with
    | pure a => rfl
    | throw e => rfl
    | await op k => exact absurd hp (hidle op k)

theorem get_succ {key : CacheKey} {entry : Entry} (hworks : (R.sched n).2.Invalidates)
    (hentry : (R.pool (n + 1)).state.cache.get key = some entry) :
    (R.pool n).state.cache.get key = some entry ∨
      ∃ ttl, R.Performs (R.sched n).1 n (.setex key ttl entry) := by
  by_cases hawait : ∃ op k, (R.pool n).threads[(R.sched n).1]? = some (.await op k)
  · obtain ⟨op, k, hk⟩ := hawait
    rw [(pool_succ_of_await hk).2] at hentry
    rcases Catalog.get_handle hworks.1 hentry with ⟨ttl, rfl⟩ | ⟨hget, -⟩
    · exact .inr ⟨ttl, rfl, k, hk⟩
    · exact .inl hget
  · rw [state_pool_succ fun op k hk => hawait ⟨op, k, hk⟩] at hentry
    exact .inl hentry

theorem Commits.deletes {j : Nat} {id : ProductId} {key : CacheKey} (hcommit : R.Commits j n id)
    (hkey : Mentions id key) : ∃ p, (R.pool (n + 1)).threads[j]? = some p ∧ Deletes key p := by
  obtain ⟨op, ⟨rfl, k, hk⟩, hwrites, written, hresult⟩ := hcommit
  obtain ⟨hthread, -⟩ := pool_succ_of_await hk
  refine ⟨_, hthread, ?_⟩
  rw [hresult]
  exact (tidy_pool hk).1 id key hwrites hkey written

theorem Owed.succ {t : Nat} {key : CacheKey} {entry : Entry} (howed : R.Owed t n key)
    (hworks : (R.sched n).2.Invalidates)
    (hentry : (R.pool (n + 1)).state.cache.get key = some entry) : R.Owed t (n + 1) key := by
  intro j c id hcommit htc hcn hkey
  rcases Nat.lt_succ_iff_lt_or_eq.mp hcn with hlt | rfl
  · obtain ⟨p, hp, hdeletes⟩ := howed j c id hcommit htc hlt hkey
    by_cases hj : (R.sched n).1 = j
    · subst hj
      cases p with
      | pure a => exact hdeletes.elim
      | throw e => exact hdeletes.elim
      | await op k =>
        obtain ⟨hthread, hstate⟩ := pool_succ_of_await hp
        rw [hstate] at hentry
        exact ⟨_, hthread, hdeletes.step hworks hentry⟩
    · exact ⟨p, (Pool.threads_race_of_ne hj).trans hp, hdeletes⟩
  · exact hcommit.deletes hkey

theorem Sourced.succ (h : R.Sourced n) (horderly : R.Orderly n) : R.Sourced (n + 1) := by
  intro key entry hentry
  rcases get_succ horderly.1 hentry with hold | ⟨ttl, hset⟩
  · obtain ⟨t, ht, hasOf, howed⟩ := h key entry hold
    exact ⟨t, ht.trans n.le_succ, hasOf, howed.succ horderly.1 hentry⟩
  · obtain ⟨t, ht, hqueries, hasOf⟩ := stored hset
    have howed := horderly.2 _ key ttl entry hset t ht hqueries
    exact ⟨t, ht.le.trans n.le_succ, hasOf, howed.succ horderly.1 hentry⟩

theorem sourced (horderly : ∀ k < n, R.Orderly k) : R.Sourced n := by
  induction n with
  | zero =>
    intro key entry hentry
    cases hentry
  | succ n ih =>
    exact (ih fun k hk => horderly k (hk.trans n.lt_succ_self)).succ (horderly n n.lt_succ_self)

theorem lt_of_returned {w c m : Nat} {id : ProductId} (hcommit : R.Commits w c id)
    (hreturned : R.Returned w m) : c < m := by
  obtain ⟨op, ⟨-, k, hk⟩, -⟩ := hcommit
  obtain ⟨p, hp, hsettled⟩ := hreturned
  obtain ⟨result, hresult⟩ := Option.isSome_iff_exists.mp hsettled
  by_contra hle
  have hstill := hk.symm.trans (Pool.settled_race hp hresult (Nat.le_of_not_lt hle))
  obtain rfl := Option.some.inj hstill
  cases hresult

theorem not_owed {w c m t : Nat} {id : ProductId} {key : CacheKey} (hcommit : R.Commits w c id)
    (hreturned : R.Returned w m) (hmn : m ≤ n) (hkey : Mentions id key) (howed : R.Owed t n key) :
    c < t := by
  by_contra htc
  have hcn := (lt_of_returned hcommit hreturned).trans_le hmn
  obtain ⟨p, hp, hdeletes⟩ := howed w c id hcommit (Nat.le_of_not_lt htc) hcn hkey
  obtain ⟨q, hq, hsettled⟩ := hreturned
  obtain ⟨result, hresult⟩ := Option.isSome_iff_exists.mp hsettled
  obtain rfl := Option.some.inj (hp.symm.trans (Pool.settled_race hq hresult hmn))
  cases p with
  | pure a => exact hdeletes
  | throw e => exact hdeletes
  | await op k => cases hresult

def Since (R : CatalogRace) (c : Nat) (id : ProductId) (entry : Entry) (n : Nat) : Prop :=
  ∀ view ∈ entry.views, view.product.id = id →
    ∃ j, c < j ∧ j ≤ n ∧ view.product ∈ (R.products j).rows

theorem AsOf.since {c t : Nat} {id : ProductId} {key : CacheKey} {entry : Entry}
    (h : R.AsOf t key entry) (htn : t ≤ n) (hct : Mentions id key → c < t) :
    R.Since c id entry n := by
  rintro view hview rfl
  obtain ⟨hrow, hkey⟩ := h view hview
  exact ⟨t, hct hkey, htn, hrow⟩

theorem reading_after {w r c m N : Nat} {id : ProductId} (hcommit : R.Commits w c id)
    (hreturned : R.Returned w m) (hsourced : ∀ n ≤ N, R.Sourced n) (key : CacheKey) :
    Reading R r m key (fun _ _ => True) fun entry n => n ≤ N → R.Since c id entry n := by
  constructor
  · exact fun _ _ _ => trivial
  · intro n entry hmn hget hnN
    obtain ⟨t, htn, hasOf, howed⟩ := hsourced n (n.le_succ.trans hnN) key entry hget
    exact hasOf.since (htn.trans n.le_succ) fun hkey =>
      not_owed hcommit hreturned hmn hkey howed
  · intro t n entry hmt htn _ hasOf
    have hct := (lt_of_returned hcommit hreturned).trans_le hmt
    exact ⟨trivial, fun _ => hasOf.since (htn.le.trans n.le_succ) fun _ => hct⟩

end CatalogRace

theorem ProductRequest.program_ne_pure (engine : Engine) (request : ProductRequest)
    (answer : ProductAnswer) : request.program engine ≠ .pure answer := by
  cases request <;> rintro ⟨⟩

/-- A read that starts after a write of the product has returned yields only rows that the table has
held since that write. -/
theorem no_stale_read (R : CatalogRace) {w c m r n : Nat} {id : ProductId} {entry : Entry}
    {view : ProductView} (horderly : ∀ k < n, R.Orderly k) (hcommit : R.Commits w c id)
    (hreturned : R.Returned w m) (hstart : ∀ k < m, (R.sched k).1 ≠ r)
    (hanswer : R.Answers r n (.read (some entry))) (hview : view ∈ entry.views)
    (hid : view.product.id = id) :
    ∃ j, c < j ∧ j ≤ n ∧ view.product ∈ (R.products j).rows := by
  obtain ⟨request, hrequest⟩ := CatalogRace.exists_request hanswer
  have hmn : m ≤ n := by
    by_contra hlt
    have hstill := R.unstarted fun k hk => hstart k (hk.trans (Nat.lt_of_not_le hlt))
    have hprogram := hanswer.symm.trans (hstill.trans hrequest)
    exact request.program_ne_pure _ _ (Option.some.inj hprogram).symm
  have hsourced : ∀ k ≤ n, R.Sourced k := fun k hk =>
    CatalogRace.sourced fun l hl => horderly l (hl.trans_le hk)
  have hprogram := CatalogRace.Reading.program (i := r) request
    (CatalogRace.reading_after hcommit hreturned hsourced)
  have hunstarted := (R.unstarted hstart).trans hrequest
  obtain ⟨p, hp, hunder⟩ := Pool.under_race (fun result k hQ entry hentry hk view hview hid => by
    obtain ⟨j, hcj, hjk, hrow⟩ := hQ entry hentry (k.le_succ.trans hk) view hview hid
    exact ⟨j, hcj, hjk.trans k.le_succ, hrow⟩) hunstarted hprogram hmn
  obtain rfl := Option.some.inj (hanswer.symm.trans hp)
  exact hunder entry rfl le_rfl view hview hid

section Example

private def operation (R : CatalogRace) (n : Nat) : Option CatalogOp :=
  (R.pool n).threads[(R.sched n).1]?.bind Prog.awaited

private def isSet : CatalogOp → Bool
  | .setex _ _ _ => true
  | _ => false

private def isWrite : CatalogOp → Bool
  | .update _ _ | .delete _ => true
  | _ => false

private theorem operation_of_performs {R : CatalogRace} {i n : Nat} {op : CatalogOp}
    (h : R.Performs i n op) : operation R n = some op := by
  obtain ⟨rfl, k, hk⟩ := h
  simp only [operation, CatalogRace.pool, hk]
  rfl

private theorem isWrite_of_commits {R : CatalogRace} {j c : Nat} {id : ProductId}
    (h : R.Commits j c id) : (operation R c).any isWrite := by
  obtain ⟨op, hop, hwrites, -⟩ := h
  rw [operation_of_performs hop]
  cases op <;> first | rfl | exact hwrites.elim

private theorem orderly_of_late {R : CatalogRace} {n : Nat} (hworks : (R.sched n).2.Invalidates)
    (h : (operation R n).any isSet = false ∨
      ∀ c < n, (operation R c).any isWrite → ∀ t ≤ c, (R.sched t).1 ≠ (R.sched n).1) :
    R.Orderly n := by
  refine ⟨hworks, fun i key ttl entry hset t _ hqueries j c id hcommit htc hcn _ => ?_⟩
  rcases h with hnone | hlate
  · rw [operation_of_performs hset] at hnone
    cases hnone
  · have hsame : (R.sched t).1 = (R.sched n).1 := by
      rcases hqueries with ⟨_, ht⟩ | ⟨_, _, _, ht⟩ <;> exact ht.1.trans hset.1.symm
    exact absurd hsame (hlate c hcn (isWrite_of_commits hcommit) t htc)

/-- A slow read, a write in its middle, and a read after the write. -/
private def slowRead : CatalogRace where
  engine := .exact
  db := .sample
  requests := [.getById "p", .dearer, .getById "p"]
  sched n := ([0, 0, 1, 1, 1, 0, 2].getD n 0, .calm)

/-- The slow read caches the old price after the write has deleted it, and the next read finds it. -/
theorem old_price_after_update :
    ∃ view, slowRead.Commits 1 2 "p" ∧ slowRead.Returned 1 5 ∧ (∀ k < 5, (slowRead.sched k).1 ≠ 2) ∧
      slowRead.Answers 2 7 (.read (some (.product view))) ∧ view.product.id = "p" ∧
      ∀ j ≤ 7, 2 < j → view.product ∉ (slowRead.products j).rows :=
  ⟨_, ⟨_, ⟨rfl, _, rfl⟩, rfl, _, rfl⟩, ⟨_, rfl, rfl⟩, by decide, rfl, rfl, by decide⟩

/-- A read that looks before the write and caches in its middle, and a read after both. -/
private def overtakenRead : CatalogRace where
  engine := .exact
  db := .sample
  requests := [.dearer, .getById "p", .getById "p"]
  sched n := ([2, 2, 0, 2, 0, 0, 1, 1, 1].getD n 0, .calm)

private theorem orderly_overtakenRead : overtakenRead.Orderly 3 := by
  refine ⟨⟨rfl, rfl⟩, fun i key ttl entry hset t _ hqueries j c id hcommit htc hc hkey => ?_⟩
  have honly : ∀ c < 3, (operation overtakenRead c).any isWrite → c = 2 := by decide
  obtain rfl := honly c hc (isWrite_of_commits hcommit)
  exact hcommit.deletes hkey

theorem no_stale_read_late :
    ∃ view, overtakenRead.Answers 1 9 (.read (some (.product view))) ∧ view.product.price = 1200 ∧
      ∃ j, 2 < j ∧ j ≤ 9 ∧ view.product ∈ (overtakenRead.products j).rows := by
  have horderly : ∀ k < 9, overtakenRead.Orderly k := by
    intro k hk
    by_cases h : k = 3
    · exact h ▸ orderly_overtakenRead
    · exact orderly_of_late ⟨rfl, rfl⟩ (by revert k; decide)
  have hcommit : overtakenRead.Commits 0 2 "p" := ⟨_, ⟨rfl, _, rfl⟩, rfl, _, rfl⟩
  have hreturned : overtakenRead.Returned 0 6 := ⟨_, rfl, rfl⟩
  obtain ⟨view, hanswer, hid, hprice⟩ : ∃ view,
      overtakenRead.Answers 1 9 (.read (some (.product view))) ∧ view.product.id = "p" ∧
        view.product.price = 1200 := ⟨_, rfl, rfl, rfl⟩
  exact ⟨view, hanswer, hprice, no_stale_read overtakenRead horderly hcommit hreturned (by decide)
    hanswer (List.mem_singleton_self view) hid⟩

end Example

end Ecommerce
