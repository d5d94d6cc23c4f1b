import Ecommerce.Catalog.Listing

namespace Ecommerce

def walk (engine : Engine) (query : ProductQuery) :
    Nat → Nat → CatalogM (Option (List ProductPage))
  | 0, _ => pure none
  | fuel + 1, page => do
    let result ← ProductRepository.findAll engine (query.atPage page)
    if result.pageMeta.hasNext then do
      let rest ← walk engine query fuel (page + 1)
      pure (rest.map (result :: ·))
    else pure (some [result])

def visited (results : List ProductPage) : List Product :=
  results.flatMap fun result => result.products.map ProductView.product

structure VisitsOnce (fold : Char → List Char) (s : Catalog) (query : ProductQuery) (limit : Nat)
    (results : List ProductPage) : Prop where
  requests : results.length = max 1 ((query.wanted fold s.db.products).length ⌈/⌉ limit)
  once : ∀ product ∈ query.wanted fold s.db.products, (visited results).count product = 1

/-- With fuel for as many requests as there are pages, the walk ends. -/
def WalksOnce (engine : Engine) (fold : Char → List Char) (s : Catalog) (query : ProductQuery)
    (limit : Nat) : Prop :=
  ∀ env : Script CatalogMove, (∀ n, Accepts (env n)) →
    ∀ fuel, max 1 ((query.wanted fold s.db.products).length ⌈/⌉ limit) ≤ fuel →
      ∃ results, (Prog.play (Catalog.handle engine) env (walk engine query fuel 1) s).1 =
          .ok (some results) ∧
        VisitsOnce fold s query limit results

/-- No products of one `createdAt` stand on the two sides of a page boundary. -/
def Untied (fold : Char → List Char) (s : Catalog) (query : ProductQuery) (limit : Nat) : Prop :=
  ∀ n, ¬ Paging.Splits Product.createdAt (query.wanted fold s.db.products) (n * limit)

section Run

variable {engine : Engine} {fold : Char → List Char} {t : ProductTable} {s : Catalog}
  {query : ProductQuery} {page limit : Nat} {order : Nat → List Product}

structure Answers (engine : Engine) (fold : Char → List Char) (t : ProductTable)
    (query : ProductQuery) (limit : Nat) (order : Nat → List Product) : Prop where
  round : ∀ x, engine.round x = x
  orders : ∀ n, Paging.Orders Product.createdAt (query.wanted fold t) (order n)
  findMany : ∀ n, engine.findMany t (ProductRepository.filter query)
    (ProductRepository.skip engine (query.atPage (n + 1))) query.limit =
      .ok (Paging.page limit n (order n))
  count : engine.count t (ProductRepository.filter query) = .ok (query.wanted fold t).length

theorem wp_walk (h : Answers engine fold t query limit order) (hquery : query.Accepted page limit)
    (hs : s.db.products = t) {n fuel : Nat}
    (hfuel : max 1 ((query.wanted fold t).length ⌈/⌉ limit - n) ≤ fuel) :
    Prog.wp Accepts (Catalog.handle engine) (walk engine query fuel (n + 1))
      (fun r _ => ∃ results, r = .ok (some results) ∧
        results.map (fun result => result.products.map ProductView.product) =
          (List.range' n (max 1 ((query.wanted fold t).length ⌈/⌉ limit - n))).map fun k =>
            Paging.page limit k (order k)) s := by
  induction fuel generalizing n s with
  | zero => omega
  | succ fuel ih =>
    have hrows : engine.findMany s.db.products (ProductRepository.filter (query.atPage (n + 1)))
        (ProductRepository.skip engine (query.atPage (n + 1))) (query.atPage (n + 1)).limit =
          .ok (Paging.page limit n (order n)) := hs ▸ h.findMany n
    have htotal : engine.count s.db.products (ProductRepository.filter (query.atPage (n + 1))) =
        .ok (query.wanted fold t).length := hs ▸ h.count
    rw [walk, Prog.wp_bind]
    refine (wp_findAll hrows htotal).mono ?_
    rintro r s' ⟨hproducts, products, hmap, rfl⟩
    rw [Prog.cont_ok, metaOf_eq h.round (hquery.atPage (Nat.le_add_left 1 n))]
    by_cases hnext : n + 1 < (query.wanted fold t).length ⌈/⌉ limit
    · -- There is a next page: the rest of the walk starts there.
      rw [if_pos (decide_eq_true hnext), Prog.wp_bind]
      refine (ih (hproducts.trans hs) (by omega)).mono ?_
      rintro r s'' ⟨results, rfl, hresults⟩
      rw [Prog.cont_ok, Prog.wp_pure]
      refine ⟨_, rfl, ?_⟩
      have hsucc : max 1 ((query.wanted fold t).length ⌈/⌉ limit - n) =
          max 1 ((query.wanted fold t).length ⌈/⌉ limit - (n + 1)) + 1 := by omega
      rw [List.map_cons, hresults, hsucc, List.range'_succ, List.map_cons, hmap]
    · rw [if_neg (by simpa using hnext), Prog.wp_pure]
      refine ⟨_, rfl, ?_⟩
      have hone : max 1 ((query.wanted fold t).length ⌈/⌉ limit - n) = 1 := by omega
      rw [hone, List.map_singleton, hmap]
      rfl

theorem play_walk (h : Answers engine fold s.db.products query limit order)
    (hquery : query.Accepted page limit) {env : Script CatalogMove} (henv : ∀ n, Accepts (env n))
    {fuel : Nat} (hfuel : max 1 ((query.wanted fold s.db.products).length ⌈/⌉ limit) ≤ fuel) :
    ∃ results, (Prog.play (Catalog.handle engine) env (walk engine query fuel 1) s).1 =
        .ok (some results) ∧
      results.length = max 1 ((query.wanted fold s.db.products).length ⌈/⌉ limit) ∧
      visited results =
        (List.range (max 1 ((query.wanted fold s.db.products).length ⌈/⌉ limit))).flatMap fun k =>
          Paging.page limit k (order k) := by
  obtain ⟨results, hplay, hresults⟩ := (wp_walk h hquery rfl (n := 0) hfuel).play henv
  rw [Nat.sub_zero, ← List.range_eq_range'] at hresults
  have hlength := congrArg List.length hresults
  rw [List.length_map, List.length_map, List.length_range] at hlength
  refine ⟨results, hplay, hlength, ?_⟩
  rw [visited, List.flatMap_def, hresults, ← List.flatMap_def]

theorem Engine.Documented.answers (hengine : engine.Documented fold)
    (hquery : query.Accepted page limit) (t : ProductTable) :
    ∃ order, Answers engine fold t query limit order := by
  have hpages : ∀ n, ∃ rows, Paging.Orders Product.createdAt (query.wanted fold t) rows ∧
      engine.findMany t (ProductRepository.filter query)
        (ProductRepository.skip engine (query.atPage (n + 1))) query.limit =
          .ok (Paging.page limit n rows) := by
    intro n
    rw [skip_eq hengine (hquery.atPage (Nat.le_add_left 1 n)), ← hquery.filter_matches]
    exact hengine.findMany t (ProductRepository.filter query) (n * limit) limit query.limit
      hquery.limit_value
  choose order horders hfindMany using hpages
  have hcount := hengine.count t (ProductRepository.filter query)
  rw [List.countP_eq_length_filter, hquery.filter_matches] at hcount
  exact ⟨order, hengine.round, horders, hfindMany, hcount⟩

variable (fold) in
theorem answers_ofOrder (hquery : query.Accepted page limit) (t : ProductTable)
    {order : Nat → List Product → List Product}
    (horder : ∀ n rows, Paging.Orders Product.createdAt rows (order n rows)) :
    Answers (.ofOrder fold order horder) fold t query limit
      fun n => order (n * limit) (query.wanted fold t) where
  round _ := rfl
  orders _ := horder _ _
  findMany n := by
    have hskip := skip_eq (Engine.documented_ofOrder fold order horder)
      (hquery.atPage (Nat.le_add_left 1 n))
    rw [hskip, Engine.ofOrder]
    simp only [hquery.limit_value, Nat.floor_natCast, hquery.filter_matches]
    rfl
  count := by
    rw [← hquery.filter_matches, ← List.countP_eq_length_filter]
    rfl

theorem nodup_wanted (query : ProductQuery) (fold : Char → List Char) (t : ProductTable) :
    (query.wanted fold t).Nodup := (List.Nodup.of_map _ t.nodup).filter _

theorem Untied.walksOnce (huntied : Untied fold s query limit) (hengine : engine.Documented fold)
    (hquery : query.Accepted page limit) : WalksOnce engine fold s query limit := by
  intro env henv fuel hfuel
  obtain ⟨order, hanswers⟩ := hengine.answers hquery s.db.products
  obtain ⟨results, hplay, hlength, hseen⟩ := play_walk hanswers hquery henv hfuel
  refine ⟨results, hplay, hlength, fun product hproduct => ?_⟩
  have hcover : (query.wanted fold s.db.products).length ≤
      max 1 ((query.wanted fold s.db.products).length ⌈/⌉ limit) * limit :=
    (Paging.le_ceilDiv_mul hquery.limit_pos).trans
      (Nat.mul_le_mul_right limit (Nat.le_max_right _ _))
  have hperm := Paging.flatMap_pages_perm hcover hanswers.orders huntied
  rw [hseen, hperm.count_eq]
  exact List.count_eq_one_of_mem (nodup_wanted query fold _) hproduct

end Run

/-- The newest first; where `m` rows or more are skipped, two neighbours of one `createdAt` change
places. -/
def wavering (m skip : Nat) (rows : List Product) : List Product :=
  if skip < m then rows.insertionSort fun a b => b.createdAt ≤ a.createdAt
  else Paging.swapAt Product.createdAt (m - 1)
    (rows.insertionSort fun a b => b.createdAt ≤ a.createdAt)

theorem orders_wavering (m skip : Nat) (rows : List Product) :
    Paging.Orders Product.createdAt rows (wavering m skip rows) := by
  unfold wavering
  split
  · exact Paging.orders_insertionSort rows
  · exact (Paging.orders_insertionSort rows).swapAt _

def Engine.wavering (fold : Char → List Char) (m : Nat) : Engine :=
  .ofOrder fold (Ecommerce.wavering m) (orders_wavering m)

section Converse

variable {fold : Char → List Char} {s : Catalog} {query : ProductQuery} {page limit : Nat}

theorem VisitsOnce.nodup {results : List ProductPage} (h : VisitsOnce fold s query limit results)
    (hwanted : ∀ product ∈ visited results, product ∈ query.wanted fold s.db.products) :
    (visited results).Nodup := by
  rw [List.nodup_iff_count_le_one]
  intro product
  by_cases hproduct : product ∈ visited results
  · exact (h.once product (hwanted product hproduct)).le
  · rw [List.count_eq_zero_of_not_mem hproduct]
    exact Nat.zero_le 1

theorem not_walksOnce_wavering (hquery : query.Accepted page limit) {n : Nat}
    (hsplits : Paging.Splits Product.createdAt (query.wanted fold s.db.products) (n * limit)) :
    ¬ WalksOnce (.wavering fold (n * limit)) fold s query limit := by
  obtain ⟨n, rfl⟩ : ∃ m, n = m + 1 := by
    obtain ⟨a, -, hbefore, -⟩ := hsplits
    exact ⟨n - 1, (Nat.succ_pred fun h => by simp [h] at hbefore).symm⟩
  intro hwalks
  have hundisturbed : ∀ n : Nat, Accepts ((fun _ => .undisturbed : Script CatalogMove) n) :=
    fun _ => rfl
  obtain ⟨results, hplay, -, hseen⟩ := play_walk
    (answers_ofOrder fold hquery s.db.products (orders_wavering ((n + 1) * limit)))
    hquery hundisturbed le_rfl
  obtain ⟨results', hplay', hvisits⟩ := hwalks _ hundisturbed _ le_rfl
  obtain rfl : results = results' := by
    rw [Engine.wavering, hplay] at hplay'
    exact Option.some.inj (Except.ok.inj hplay')
  have hlast : n + 1 < max 1 ((query.wanted fold s.db.products).length ⌈/⌉ limit) := by
    obtain ⟨a, -, -, hupTo⟩ := hsplits
    have hlt := (Paging.lt_ceilDiv_iff hquery.limit_pos).mpr (hupTo.trans_le Paging.upTo_le_length)
    omega
  obtain ⟨a, hfirst, hsecond⟩ := (Paging.orders_insertionSort _).exists_mem_both hquery.limit_pos
    hsplits
  have htwice : ¬ (visited results).Nodup := by
    rw [hseen]
    apply Paging.not_nodup_flatMap (Nat.lt_succ_self n) hlast (a := a)
    · rw [wavering, if_pos (Nat.mul_lt_mul_of_pos_right (Nat.lt_succ_self n) hquery.limit_pos)]
      exact hfirst
    · rw [wavering, if_neg (Nat.lt_irrefl _)]
      exact hsecond
  refine htwice (hvisits.nodup fun product hproduct => ?_)
  rw [hseen] at hproduct
  obtain ⟨k, -, hk⟩ := List.mem_flatMap.mp hproduct
  exact (orders_wavering _ _ _).perm.mem_iff.mp (Paging.mem_of_mem_page hk)

end Converse

/-- Whatever order the database gives to products of one `createdAt`, a walk over the pages shows
every product once: exactly when no such products stand on the two sides of a page boundary. -/
theorem walksOnce_iff {query : ProductQuery} {page limit : Nat}
    (hquery : query.Accepted page limit) (fold : Char → List Char) (s : Catalog) :
    (∀ engine : Engine, engine.Documented fold → WalksOnce engine fold s query limit) ↔
      Untied fold s query limit := by
  constructor
  · intro hwalks n hsplits
    exact not_walksOnce_wavering hquery hsplits (hwalks _ (Engine.documented_ofOrder fold _ _))
  · intro huntied engine hengine
    exact huntied.walksOnce hengine hquery

section Example

private def exact (c : Char) : List Char := [c]

private def tulip (id : ProductId) (createdAt : Int) : Product :=
  ⟨id, id, "Tulip", id, none, 300, "c", none, true, createdAt, createdAt⟩

private def bulbs (createdAt : Int) : Catalog :=
  ⟨⟨⟨[tulip "a" 1, tulip "b" createdAt], by simp [tulip]⟩, .empty, fun _ => none⟩, .empty⟩

private def onePerPage : ProductQuery :=
  ⟨.ofNat 1, .ofNat 1, none, none, none, none, _, List.Perm.refl _⟩

private theorem accepted_onePerPage : onePerPage.Accepted 1 1 :=
  ⟨Number.value_ofNat 1, Number.value_ofNat 1, by decide, by decide, by decide, fun _ h => by cases h⟩

theorem walksOnce_iff_bulbs :
    (∀ engine : Engine, engine.Documented exact → WalksOnce engine exact (bulbs 2) onePerPage 1) ↔
      Untied exact (bulbs 2) onePerPage 1 :=
  walksOnce_iff accepted_onePerPage exact (bulbs 2)

/-- Two bulbs that were stored at one time. -/
theorem not_walksOnce_bulbs :
    (Engine.wavering exact 1).Documented exact ∧
      ¬ WalksOnce (.wavering exact 1) exact (bulbs 1) onePerPage 1 :=
  ⟨Engine.documented_ofOrder exact _ _,
    not_walksOnce_wavering (n := 1) accepted_onePerPage (by decide)⟩

end Example

end Ecommerce
