import Ecommerce.Catalog.Effect
import Ecommerce.Lib.Paging
import Ecommerce.Lib.Triple
import Ecommerce.Shared.Http
import Mathlib.Data.List.Infix

namespace Ecommerce

section Filter

-- What a letter counts as when the mode is insensitive.
variable (fold : Char → List Char)

/-- `contains` with `mode: 'insensitive'`. -/
def Includes (text search : String) : Prop :=
  search.toList.flatMap fold <:+: text.toList.flatMap fold

instance (text search : String) : Decidable (Includes fold text search) :=
  inferInstanceAs (Decidable (_ <:+: _))

def Product.amount (product : Product) : ℚ := product.price / 100

/-- The `where` object: its properties are conjuncts, `OR` is one of them. -/
def ProductWhere.matches (filter : ProductWhere) (product : Product) : Bool :=
  product.isActive && filter.categoryId.all (product.categoryId = ·) &&
    (filter.gte.all (·.value ≤ product.amount) && filter.lte.all (product.amount ≤ ·.value)) &&
    filter.search.all fun text =>
      Includes fold product.name text || product.description.any (Includes fold · text)

structure ProductQuery.Wants (query : ProductQuery) (product : Product) : Prop where
  active : product.isActive = true
  category : ∀ c ∈ query.categoryId, product.categoryId = c
  minPrice : ∀ low ∈ query.minPrice, low.value ≤ product.amount
  maxPrice : ∀ high ∈ query.maxPrice, product.amount ≤ high.value
  search : ∀ text ∈ query.search,
    Includes fold product.name text ∨ ∃ d ∈ product.description, Includes fold d text

instance (query : ProductQuery) (product : Product) : Decidable (query.Wants fold product) :=
  decidable_of_iff
    (product.isActive = true ∧ (∀ c ∈ query.categoryId, product.categoryId = c) ∧
      (∀ low ∈ query.minPrice, low.value ≤ product.amount) ∧
      (∀ high ∈ query.maxPrice, product.amount ≤ high.value) ∧
      ∀ text ∈ query.search,
        Includes fold product.name text ∨ product.description.any (Includes fold · text))
    (by
      simp only [Option.any_eq_true, decide_eq_true_eq]
      exact ⟨fun ⟨hactive, hcategory, hmin, hmax, hsearch⟩ =>
          ⟨hactive, hcategory, hmin, hmax, hsearch⟩,
        fun h => ⟨h.active, h.category, h.minPrice, h.maxPrice, h.search⟩⟩)

def ProductQuery.wanted (query : ProductQuery) (t : ProductTable) : List Product :=
  t.rows.filter fun product => query.Wants fold product

/-- The arithmetic is exact, and the database does what the statement says: it finds the rows of
the `where` in an order that `orderBy` allows, which may be another one for each statement. -/
structure Engine.Documented (engine : Engine) : Prop where
  round : ∀ x, engine.round x = x
  findMany : ∀ (t : ProductTable) (filter : ProductWhere) (skip take : Nat) (x : Number),
    x.value = take →
      ∃ rows, Paging.Orders Product.createdAt (t.rows.filter (filter.matches fold)) rows ∧
        engine.findMany t filter skip x = .ok ((rows.drop skip).take take)
  count : ∀ (t : ProductTable) (filter : ProductWhere),
    engine.count t filter = .ok (t.rows.countP (filter.matches fold))

def Engine.ofOrder (order : Nat → List Product → List Product)
    (horder : ∀ n rows, Paging.Orders Product.createdAt rows (order n rows)) : Engine where
  round := id
  findMany t filter skip take :=
    .ok (((order ⌊skip⌋₊ (t.rows.filter (filter.matches fold))).drop ⌊skip⌋₊).take ⌊take.value⌋₊)
  count t filter := .ok (t.rows.countP (filter.matches fold))
  mem_of_findMany := by
    intro t filter skip take rows hrows product hproduct
    obtain rfl := Except.ok.inj hrows
    have hmem := List.mem_of_mem_drop (List.mem_of_mem_take hproduct)
    exact (List.mem_filter.mp ((horder _ _).perm.mem_iff.mp hmem)).1

theorem Engine.documented_ofOrder (order : Nat → List Product → List Product)
    (horder : ∀ n rows, Paging.Orders Product.createdAt rows (order n rows)) :
    (Engine.ofOrder fold order horder).Documented fold where
  round _ := rfl
  findMany t filter skip take x hx := by
    refine ⟨order skip (t.rows.filter (filter.matches fold)), horder _ _, ?_⟩
    have hskip : ⌊(skip : ℚ)⌋₊ = skip := Nat.floor_natCast skip
    have htake : ⌊x.value⌋₊ = take := by rw [hx, Nat.floor_natCast]
    simp only [ofOrder, hskip, htake]
  count _ _ := rfl

theorem includes_empty (text : String) : Includes fold text "" := by
  rw [Includes, String.toList_empty, List.flatMap_nil]
  exact List.nil_infix

/-- An empty search text finds everything, so dropping it changes nothing. -/
theorem matches_filter_iff {query : ProductQuery} (hcategory : ∀ c ∈ query.categoryId, c ≠ "")
    (product : Product) :
    (ProductRepository.filter query).matches fold product ↔ query.Wants fold product := by
  have hcategory' : query.categoryId.filter (· ≠ "") = query.categoryId := by
    cases hc : query.categoryId with
    | none => rfl
    | some c => simp [hcategory c hc]
  have hsearch : (query.search.filter (· ≠ "")).all (fun text =>
      Includes fold product.name text || product.description.any (Includes fold · text)) ↔
      ∀ text ∈ query.search,
        Includes fold product.name text ∨ ∃ d ∈ product.description, Includes fold d text := by
    cases query.search with
    | none => simp
    | some text =>
      by_cases htext : text = ""
      · simp [htext, includes_empty]
      · simp [htext, Option.any_eq_true]
  have hrest : (product.isActive && query.categoryId.all (product.categoryId = ·) &&
      (query.minPrice.all (·.value ≤ product.amount) &&
        query.maxPrice.all (product.amount ≤ ·.value))) ↔
      product.isActive = true ∧ (∀ c ∈ query.categoryId, product.categoryId = c) ∧
        (∀ low ∈ query.minPrice, low.value ≤ product.amount) ∧
          ∀ high ∈ query.maxPrice, product.amount ≤ high.value := by
    simp [and_assoc, Option.all_eq_true]
  rw [ProductWhere.matches, ProductRepository.filter, hcategory', Bool.and_eq_true, hrest, hsearch]
  constructor
  · rintro ⟨⟨hactive, hcategory, hmin, hmax⟩, hsearch⟩
    exact ⟨hactive, hcategory, hmin, hmax, hsearch⟩
  · exact fun h => ⟨⟨h.active, h.category, h.minPrice, h.maxPrice⟩, h.search⟩

end Filter

namespace ProductQuery

/-- What `querySchema` accepts. -/
structure Accepted (query : ProductQuery) (page limit : Nat) : Prop where
  page_value : query.page.value = page
  limit_value : query.limit.value = limit
  page_pos : 1 ≤ page
  limit_pos : 1 ≤ limit
  limit_le : limit ≤ 100
  categoryId : ∀ c ∈ query.categoryId, isUuid c

def atPage (query : ProductQuery) (page : Nat) : ProductQuery :=
  { query with
    page := .ofNat page
    properties := query.properties.map fun property =>
      if property.1 = "page" then ("page", .num (.ofNat page)) else property
    perm := by
      refine (query.perm.map _).trans (List.Perm.of_eq ?_)
      obtain ⟨_, limit, categoryId, minPrice, maxPrice, search, _, _⟩ := query
      cases categoryId <;> cases minPrice <;> cases maxPrice <;> cases search <;>
        simp [queryProperties] }

end ProductQuery

/-- A move at which the database executes what it is asked; other services may write their own
tables. -/
def Accepts (c : CatalogMove) : Prop := c.db = .accept

def Found (engine : Engine) (s : Catalog) (query : ProductQuery) (result : ProductPage) : Prop :=
  ∃ env : Script CatalogMove, (∀ n, Accepts (env n)) ∧
    (Prog.play (Catalog.handle engine) env (ProductRepository.findAll engine query) s).1 = .ok result

/-- What is promised of page `page` of `pages`. -/
structure Listing (engine : Engine) (fold : Char → List Char) (s : Catalog) (query : ProductQuery)
    (page limit pages : Nat) (result : ProductPage) : Prop where
  slice : ∃ rows, Paging.Orders Product.createdAt (query.wanted fold s.db.products) rows ∧
    result.products.map ProductView.product = (rows.drop ((page - 1) * limit)).take limit
  total : result.pageMeta.total = (query.wanted fold s.db.products).length
  totalPages : result.pageMeta.totalPages = some (pages : Int)
  hasNext : result.pageMeta.hasNext = true ↔ page < pages
  nextPage : ∀ next, Found engine s (query.atPage (page + 1)) next →
    (result.pageMeta.hasNext = true ↔ next.products ≠ [])
  hasPrev : result.pageMeta.hasPrev = true ↔ 1 < page
  lengths : ∀ results : Nat → ProductPage,
    (∀ n < pages, Found engine s (query.atPage (n + 1)) (results n)) →
      ((List.range pages).map fun n => (results n).products.length).sum = result.pageMeta.total
  empty : pages = 0 ↔ result.pageMeta.total = 0

section Run

variable {engine : Engine} {fold : Char → List Char} {s : Catalog} {query : ProductQuery}
  {page limit : Nat} {env : Script CatalogMove}

theorem ProductQuery.Accepted.filter_matches (hquery : query.Accepted page limit)
    (t : ProductTable) :
    t.rows.filter ((ProductRepository.filter query).matches fold) = query.wanted fold t := by
  apply List.filter_congr
  intro product _
  have hcategory : ∀ c ∈ query.categoryId, c ≠ "" := by
    rintro c hc rfl
    exact absurd (hquery.categoryId "" hc) (by decide)
  rw [Bool.eq_iff_iff, matches_filter_iff fold hcategory, decide_eq_true_eq]

theorem skip_eq (hengine : engine.Documented fold) (hquery : query.Accepted page limit) :
    ProductRepository.skip engine query = ((page - 1) * limit : Nat) := by
  rw [ProductRepository.skip, hengine.round, hengine.round, hquery.page_value, hquery.limit_value,
    Nat.cast_mul, Nat.cast_sub hquery.page_pos, Nat.cast_one]

theorem wp_findAll {rows : List Product} {total : Nat}
    (hrows : engine.findMany s.db.products (ProductRepository.filter query)
      (ProductRepository.skip engine query) query.limit = .ok rows)
    (htotal : engine.count s.db.products (ProductRepository.filter query) = .ok total) :
    Prog.wp Accepts (Catalog.handle engine) (ProductRepository.findAll engine query)
      (fun r s' => s'.db.products = s.db.products ∧
        ∃ products : List ProductView, products.map ProductView.product = rows ∧
          r = .ok ⟨products, ProductRepository.metaOf engine query total⟩) s := by
  rw [ProductRepository.findAll, Prog.wp_bind, Prog.wp_perform]
  intro c hc
  simp only [Catalog.handle, Catalog.perform, show c.db = .accept from hc, Catalog.statement,
    Catalog.products_drift, hrows]
  rw [Except.map, Prog.cont_ok, Prog.wp_bind, Prog.wp_perform]
  intro c' hc'
  simp only [Catalog.handle, Catalog.perform, show c'.db = .accept from hc', Catalog.statement,
    Catalog.products_drift, htotal]
  rw [Prog.cont_ok, Prog.wp_pure]
  refine ⟨(Catalog.products_drift c' _).trans (Catalog.products_drift c s),
    rows.map (s.drift c).db.view, ?_, rfl⟩
  rw [List.map_map]
  exact List.map_id _

theorem ceil_div_eq (total : Nat) (hlimit : 0 < limit) :
    ⌈(total / limit : ℚ)⌉ = (total ⌈/⌉ limit : Nat) := by
  have hlimit' : (0 : ℚ) < limit := Nat.cast_pos.mpr hlimit
  rw [Int.ceil_eq_iff]
  constructor
  · rw [lt_div_iff₀ hlimit']
    cases hpages : total ⌈/⌉ limit with
    | zero =>
      have hnonneg : (0 : ℚ) ≤ total := Nat.cast_nonneg total
      push_cast
      linarith
    | succ n =>
      have hlt : n * limit < total := (Paging.lt_ceilDiv_iff hlimit).mp (by omega)
      push_cast
      rw [add_sub_cancel_right]
      exact_mod_cast hlt
  · rw [div_le_iff₀ hlimit']
    exact_mod_cast Paging.le_ceilDiv_mul hlimit

theorem metaOf_eq (hround : ∀ x, engine.round x = x) (hquery : query.Accepted page limit)
    (total : Nat) :
    ProductRepository.metaOf engine query total =
      { page := query.page
        limit := query.limit
        total
        totalPages := some (total ⌈/⌉ limit : Nat)
        hasNext := page < total ⌈/⌉ limit
        hasPrev := 1 < page } := by
  have hlimit : (limit : ℚ) ≠ 0 := Nat.cast_ne_zero.mpr (by have := hquery.limit_pos; omega)
  rw [ProductRepository.metaOf, hround, hround, hquery.page_value, hquery.limit_value,
    if_neg hlimit, ceil_div_eq total hquery.limit_pos]
  congr 1
  · rw [decide_eq_decide, Paging.lt_ceilDiv_iff hquery.limit_pos]
    exact_mod_cast Iff.rfl
  · rw [decide_eq_decide]
    exact_mod_cast Iff.rfl

/-- What `findAll` resolves with when the database does as documented. -/
structure Shows (engine : Engine) (query : ProductQuery) (wanted : List Product) (page limit : Nat)
    (result : ProductPage) : Prop where
  slice : ∃ rows, Paging.Orders Product.createdAt wanted rows ∧
    result.products.map ProductView.product = Paging.page limit (page - 1) rows
  pageMeta : result.pageMeta = ProductRepository.metaOf engine query wanted.length

theorem Shows.length_products {wanted : List Product} {result : ProductPage}
    (h : Shows engine query wanted page limit result) :
    result.products.length = min limit (wanted.length - (page - 1) * limit) := by
  obtain ⟨rows, horders, hslice⟩ := h.slice
  rw [← List.length_map ProductView.product, hslice, Paging.length_page, horders.perm.length_eq]

theorem wp_findAll_documented (hengine : engine.Documented fold)
    (hquery : query.Accepted page limit) :
    Prog.wp Accepts (Catalog.handle engine) (ProductRepository.findAll engine query)
      (fun r s' => s'.db.products = s.db.products ∧ ∃ result, r = .ok result ∧
        Shows engine query (query.wanted fold s.db.products) page limit result) s := by
  obtain ⟨rows, horders, hrows⟩ := hengine.findMany s.db.products (ProductRepository.filter query)
    ((page - 1) * limit) limit query.limit hquery.limit_value
  have htotal := hengine.count s.db.products (ProductRepository.filter query)
  rw [← skip_eq hengine hquery] at hrows
  rw [List.countP_eq_length_filter] at htotal
  rw [hquery.filter_matches] at horders htotal
  refine (wp_findAll hrows htotal).mono ?_
  rintro r s' ⟨hproducts, products, hmap, rfl⟩
  exact ⟨hproducts, _, rfl, ⟨rows, horders, hmap⟩, rfl⟩

theorem Found.shows {result : ProductPage} (h : Found engine s query result)
    (hengine : engine.Documented fold) (hquery : query.Accepted page limit) :
    Shows engine query (query.wanted fold s.db.products) page limit result := by
  obtain ⟨env, henv, hplay⟩ := h
  obtain ⟨-, result', hresult', hshows⟩ := (wp_findAll_documented hengine hquery).play henv
  rw [hplay] at hresult'
  exact Except.ok.inj hresult' ▸ hshows

theorem ProductQuery.Accepted.atPage (hquery : query.Accepted page limit) {n : Nat} (hn : 1 ≤ n) :
    (query.atPage n).Accepted n limit where
  page_value := Number.value_ofNat n
  limit_value := hquery.limit_value
  page_pos := hn
  limit_pos := hquery.limit_pos
  limit_le := hquery.limit_le
  categoryId := hquery.categoryId

theorem ProductQuery.Accepted.wanted_atPage (hquery : query.Accepted page limit) {n : Nat}
    (hn : 1 ≤ n) (t : ProductTable) : (query.atPage n).wanted fold t = query.wanted fold t := by
  rw [← hquery.filter_matches, ← (hquery.atPage hn).filter_matches]
  rfl

end Run

/-- A product listing is a page of the products that its query asks for, and its metadata say
which. -/
theorem findAll_listing {engine : Engine} {fold : Char → List Char} {s : Catalog}
    {query : ProductQuery} {page limit : Nat} {env : Script CatalogMove}
    (hengine : engine.Documented fold) (hquery : query.Accepted page limit)
    (henv : ∀ n, Accepts (env n)) :
    ∃ result pages, (Prog.play (Catalog.handle engine) env
        (ProductRepository.findAll engine query) s).1 = .ok result ∧
      Listing engine fold s query page limit pages result := by
  obtain ⟨-, result, hresult, hshows⟩ := (wp_findAll_documented hengine hquery).play henv
  have hmeta := hshows.pageMeta
  rw [metaOf_eq hengine.round hquery] at hmeta
  have hnext : ∀ n next, Found engine s (query.atPage (n + 1)) next → next.products.length =
      min limit ((query.wanted fold s.db.products).length - n * limit) := by
    intro n next hfound
    have hshows' := hfound.shows hengine (hquery.atPage (Nat.le_add_left 1 n))
    rw [hquery.wanted_atPage (Nat.le_add_left 1 n)] at hshows'
    exact hshows'.length_products
  refine ⟨result, (query.wanted fold s.db.products).length ⌈/⌉ limit, hresult, ?_⟩
  constructor
  · exact hshows.slice
  · rw [hmeta]
  · rw [hmeta]
  · rw [hmeta, decide_eq_true_eq]
  · intro next hfound
    rw [hmeta, decide_eq_true_eq, Paging.lt_ceilDiv_iff hquery.limit_pos, ← List.length_pos_iff,
      hnext page next hfound]
    have hlimit := hquery.limit_pos
    omega
  · rw [hmeta, decide_eq_true_eq]
  · intro results hfound
    rw [hmeta]
    exact Paging.sum_length_pages hquery.limit_pos fun n hn => hnext n (results n) (hfound n hn)
  · rw [hmeta, Paging.ceilDiv_eq_zero_iff hquery.limit_pos]

section Example

private def lower (c : Char) : List Char := [c.toLower]

private def newestFirst : Engine :=
  .ofOrder lower (fun _ rows => rows.insertionSort fun a b => b.createdAt ≤ a.createdAt)
    fun _ rows => Paging.orders_insertionSort rows

private def pot (id : ProductId) (name : String) (price createdAt : Int) : Product :=
  ⟨id, id, name, id, none, price, "c", none, true, createdAt, createdAt⟩

private def pots : Catalog :=
  ⟨⟨⟨[pot "a" "Clay pot" 500 1, pot "b" "Vase" 900 2, pot "c" "Flower pot" 700 3], by decide⟩,
    .empty, fun _ => none⟩, .empty⟩

/-- Pots from 5.00 on, one a page, the second page. -/
private def secondPot : ProductQuery :=
  ⟨.ofNat 2, .ofNat 1, none, some (.ofNat 5), none, some "POT", _, List.Perm.refl _⟩

private theorem accepted_secondPot : secondPot.Accepted 2 1 :=
  ⟨Number.value_ofNat 2, Number.value_ofNat 1, by decide, by decide, by decide, fun _ h => by cases h⟩

theorem findAll_listing_pots :
    ∃ result pages, (Prog.play (Catalog.handle newestFirst) (fun _ => .undisturbed)
        (ProductRepository.findAll newestFirst secondPot) pots).1 = .ok result ∧
      Listing newestFirst lower pots secondPot 2 1 pages result :=
  findAll_listing (Engine.documented_ofOrder _ _ _) accepted_secondPot fun _ => rfl

end Example

end Ecommerce
