import Ecommerce.Catalog.Messaging
import Ecommerce.Gateway.Visits

namespace Ecommerce

structure Columns where
  time : String → Option Int
  query : Json → ProductQuery

namespace Columns

def text : Json → Option String
  | .str s => some s
  | _ => none

def flag : Json → Option Bool
  | .bool b => some b
  | _ => none

def number : Json → Option Number
  | .num x => some x
  | _ => none

def date (columns : Columns) : Json → Option Int
  | .str s => columns.time s
  | _ => none

def nullable {α : Type} (type : Json → Option α) : Json → Option (Option α)
  | .null => some none
  | j => (type j).map some

/-- The value of a column; `none` inside where it is undefined. -/
def read {α : Type} (type : Json → Option α) (key : String) (fields : List (String × Json)) :
    Option (Option α) :=
  match fields.lookup key with
  | none => some none
  | some j => (type j).map some

end Columns

open Columns

/-- The `data` of a statement, where every property is a column of the right type.  Prisma refuses
other data, or writes to other tables with it. -/
def ProductData.ofFields (columns : Columns) (fields : List (String × Json)) :
    Option ProductData := do
  let id ← read text "id" fields
  let sku ← read text "sku" fields
  let name ← read text "name" fields
  let slug ← read text "slug" fields
  let description ← read (nullable text) "description" fields
  let price ← read number "price" fields
  let categoryId ← read text "categoryId" fields
  let imageUrl ← read (nullable text) "imageUrl" fields
  let isActive ← read flag "isActive" fields
  let createdAt ← read columns.date "createdAt" fields
  let updatedAt ← read columns.date "updatedAt" fields
  if fields.all fun field => field.1 ∈ ["id", "sku", "name", "slug", "description", "price",
      "categoryId", "imageUrl", "isActive", "createdAt", "updatedAt"] then
    return { id, sku, name, slug, description, price, categoryId, imageUrl, isActive, createdAt,
             updatedAt }
  else none

def CategoryData.ofFields (fields : List (String × Json)) : Option CategoryData := do
  let name ← read text "name" fields
  let slug ← read text "slug" fields
  let description ← read (nullable text) "description" fields
  let parentId ← read (nullable text) "parentId" fields
  let isActive ← read flag "isActive" fields
  if fields.all fun field => field.1 ∈ ["name", "slug", "description", "parentId", "isActive"] then
    return { name, slug, description, parentId, isActive }
  else none

/-- `request[key]`, an id. -/
def idOf (key : String) (request : Json) : Option String := (destructure key request).1.bind text

def CatalogRpc.ofMessage (columns : Columns) : CatalogQueue → Json → Option CatalogRpc
  | .productList, request => some (.productList (columns.query request))
  | .productGet, request => (idOf "productId" request).map .productGet
  | .productCreate, .obj fields => (ProductData.ofFields columns fields).map .productCreate
  | .productUpdate, request => do
    let productId ← idOf "productId" request
    let data ← ProductData.ofFields columns (destructure "productId" request).2
    return .productUpdate productId data
  | .productDelete, request => (idOf "productId" request).map .productDelete
  | .categoryList, _ => some .categoryList
  | .categoryGet, request => (idOf "categoryId" request).map .categoryGet
  | .categoryCreate, .obj fields => (CategoryData.ofFields fields).map .categoryCreate
  | .categoryUpdate, request => do
    let categoryId ← idOf "categoryId" request
    let data ← CategoryData.ofFields (destructure "categoryId" request).2
    return .categoryUpdate categoryId data
  | .categoryDelete, request => (idOf "categoryId" request).map .categoryDelete
  | _, _ => none

def CatalogRpc.queue : CatalogRpc → CatalogQueue
  | .productList _ => .productList
  | .productGet _ => .productGet
  | .productCreate _ => .productCreate
  | .productUpdate _ _ => .productUpdate
  | .productDelete _ => .productDelete
  | .categoryList => .categoryList
  | .categoryGet _ => .categoryGet
  | .categoryCreate _ => .categoryCreate
  | .categoryUpdate _ _ => .categoryUpdate
  | .categoryDelete _ => .categoryDelete

/-- The data leaves to the database what no schema names. -/
structure ProductData.Plain (data : ProductData) : Prop where
  id : data.id = none
  isActive : data.isActive = none
  createdAt : data.createdAt = none
  updatedAt : data.updatedAt = none

def CatalogRpc.Plain : CatalogRpc → Prop
  | .productCreate data | .productUpdate _ data => data.Plain
  | .categoryCreate data | .categoryUpdate _ data => data.isActive = none
  | _ => True

def CatalogVisit.asked (isUrl : String → Bool) (columns : Columns) :
    CatalogVisit → Option CatalogRpc
  | products _ (.list query) => query.toOption.map fun q => .productList (columns.query q)
  | products _ (.get id) => some (.productGet id)
  | products _ (.create body) => do
    let fields ← (parseBody (createProductSchema isUrl) body).toOption
    let data ← ProductData.ofFields columns fields
    return .productCreate data
  | products _ (.update id body) => do
    let fields ← (parseBody (updateProductSchema isUrl) body).toOption
    let data ← ProductData.ofFields columns fields
    return .productUpdate id data
  | products _ (.delete id) => some (.productDelete id)
  | categories _ (.list _) => some .categoryList
  | categories _ (.get id) => some (.categoryGet id)
  | categories _ (.create body) => do
    let fields ← (parseBody createCategorySchema body).toOption
    let data ← CategoryData.ofFields fields
    return .categoryCreate data
  | categories _ (.update id body) => do
    let fields ← (parseBody updateCategorySchema body).toOption
    let data ← CategoryData.ofFields fields
    return .categoryUpdate id data
  | categories _ (.delete id) => some (.categoryDelete id)

namespace Columns

section Readable

variable {α : Type} {type : Json → Option α} {key : String} {fields : List (String × Json)}

theorem exists_read (h : ∀ j, fields.lookup key = some j → ∃ a, type j = some a) :
    ∃ v, read type key fields = some v := by
  unfold Columns.read
  cases hlookup : fields.lookup key with
  | none => exact ⟨none, rfl⟩
  | some j =>
    obtain ⟨a, ha⟩ := h j hlookup
    exact ⟨some a, congrArg (Option.map some) ha⟩

theorem read_absent (h : key ∉ fields.map Prod.fst) : read type key fields = some none := by
  have hnone : fields.lookup key = none := by
    rw [List.lookup_eq_none_iff]
    intro field hfield
    refine bne_iff_ne.mpr fun hkey => h ?_
    rw [hkey]
    exact List.mem_map_of_mem hfield
  rw [Columns.read, hnone]

theorem exists_text {checks : List (Check String)}
    (h : ∀ j, fields.lookup key = some j → (Schema.string checks).issues (some j) = []) :
    ∃ v, read text key fields = some v :=
  exists_read fun j hj => by
    obtain ⟨s, hs, -⟩ := Schema.issues_string.mp (h j hj)
    obtain rfl := Option.some.inj hs
    exact ⟨s, rfl⟩

theorem exists_nullable {checks : List (Check String)}
    (h : ∀ j, fields.lookup key = some j →
      j = .null ∨ (Schema.string checks).issues (some j) = []) :
    ∃ v, read (nullable text) key fields = some v :=
  exists_read fun j hj => by
    obtain rfl | hissues := h j hj
    · exact ⟨none, rfl⟩
    · obtain ⟨s, hs, -⟩ := Schema.issues_string.mp hissues
      obtain rfl := Option.some.inj hs
      exact ⟨some s, rfl⟩

theorem exists_number {checks : List (Check Number)}
    (h : ∀ j, fields.lookup key = some j → (Schema.number checks).issues (some j) = []) :
    ∃ v, read number key fields = some v :=
  exists_read fun j hj => by
    obtain ⟨x, hx, -⟩ := Schema.issues_number.mp (h j hj)
    obtain rfl := Option.some.inj hx
    exact ⟨x, rfl⟩

theorem issues_of_nullable {s : Schema} {j : Json} (h : (Schema.nullable s).issues (some j) = []) :
    j = .null ∨ s.issues (some j) = [] := by
  cases j with
  | null => exact .inl rfl
  | _ => exact .inr h

variable (columns : Columns) {isUrl : String → Bool} {data : List (String × Json)}

theorem exists_productData (h : Accepted (updateProductSchema isUrl) data) :
    ∃ d, ProductData.ofFields columns data = some d ∧ d.Plain := by
  obtain ⟨props, hprops, hissues, -⟩ := Schema.parse_eq_ok.mp h.again
  obtain rfl := Json.obj.inj (Option.some.inj hprops)
  have hchecks := Schema.issuesFields_eq_nil.mp hissues
  have hkeys : data.map Prod.fst ⊆
      ["sku", "name", "slug", "description", "price", "categoryId", "imageUrl"] := h.keys.subset
  simp only [updateProductSchema, createProductSchema, Schema.partialFields, List.map_cons,
    List.map_nil, List.forall_mem_cons, Schema.issues_optional] at hchecks
  obtain ⟨hsku, hname, hslug, hdescription, hprice, hcategoryId, himageUrl, -⟩ := hchecks
  obtain ⟨sku, hsku⟩ := exists_text hsku
  obtain ⟨name, hname⟩ := exists_text hname
  obtain ⟨slug, hslug⟩ := exists_text hslug
  obtain ⟨description, hdescription⟩ := exists_nullable fun j hj => .inr (hdescription j hj j rfl)
  obtain ⟨price, hprice⟩ := exists_number hprice
  obtain ⟨categoryId, hcategoryId⟩ := exists_text hcategoryId
  obtain ⟨imageUrl, himageUrl⟩ := exists_nullable fun j hj => .inr (himageUrl j hj j rfl)
  have hid : read text "id" data = some none :=
    read_absent fun hmem => absurd (hkeys hmem) (by decide)
  have hisActive : read flag "isActive" data = some none :=
    read_absent fun hmem => absurd (hkeys hmem) (by decide)
  have hcreatedAt : read columns.date "createdAt" data = some none :=
    read_absent fun hmem => absurd (hkeys hmem) (by decide)
  have hupdatedAt : read columns.date "updatedAt" data = some none :=
    read_absent fun hmem => absurd (hkeys hmem) (by decide)
  have hall : data.all fun field => field.1 ∈ ["id", "sku", "name", "slug", "description", "price",
      "categoryId", "imageUrl", "isActive", "createdAt", "updatedAt"] := by
    refine List.all_eq_true.mpr fun field hfield => decide_eq_true ?_
    have hkey := hkeys (List.mem_map_of_mem hfield)
    simp only [List.mem_cons] at hkey ⊢
    tauto
  refine ⟨{ sku, name, slug, description, price, categoryId, imageUrl }, ?_, rfl, rfl, rfl, rfl⟩
  simp only [ProductData.ofFields, hid, hsku, hname, hslug, hdescription, hprice, hcategoryId,
    himageUrl, hisActive, hcreatedAt, hupdatedAt, Option.bind_eq_bind, Option.bind_some, hall]
  rfl

theorem exists_categoryData (h : Accepted updateCategorySchema data) :
    ∃ d, CategoryData.ofFields data = some d ∧ d.isActive = none := by
  obtain ⟨props, hprops, hissues, -⟩ := Schema.parse_eq_ok.mp h.again
  obtain rfl := Json.obj.inj (Option.some.inj hprops)
  have hchecks := Schema.issuesFields_eq_nil.mp hissues
  have hkeys : data.map Prod.fst ⊆ ["name", "slug", "description", "parentId"] := h.keys.subset
  simp only [updateCategorySchema, createCategorySchema, Schema.partialFields, List.map_cons,
    List.map_nil, List.forall_mem_cons, Schema.issues_optional] at hchecks
  obtain ⟨hname, hslug, hdescription, hparentId, -⟩ := hchecks
  obtain ⟨name, hname⟩ := exists_text hname
  obtain ⟨slug, hslug⟩ := exists_text hslug
  obtain ⟨description, hdescription⟩ := exists_nullable fun j hj => .inr (hdescription j hj j rfl)
  obtain ⟨parentId, hparentId⟩ := exists_nullable fun j hj =>
    (issues_of_nullable (hparentId j hj)).imp_right fun h => Schema.issues_optional.mp h j rfl
  have hisActive : read flag "isActive" data = some none :=
    read_absent fun hmem => absurd (hkeys hmem) (by decide)
  have hall : data.all fun field =>
      field.1 ∈ ["name", "slug", "description", "parentId", "isActive"] := by
    refine List.all_eq_true.mpr fun field hfield => decide_eq_true ?_
    have hkey := hkeys (List.mem_map_of_mem hfield)
    simp only [List.mem_cons] at hkey ⊢
    tauto
  refine ⟨{ name, slug, description, parentId }, ?_, rfl⟩
  simp only [CategoryData.ofFields, hname, hslug, hdescription, hparentId, hisActive,
    Option.bind_eq_bind, Option.bind_some, hall]
  rfl

end Readable

end Columns

section Messages

variable (columns : Columns) {isUrl : String → Bool} {queue : CatalogQueue} {payload : Json}
  {authorization : Option Authorization} {input : CatalogInput}

theorem idOf_of_destructure {key id : String} {data : List (String × Json)}
    (h : destructure key payload = (some (.str id), data)) : idOf key payload = some id := by
  rw [idOf, h]
  rfl

theorem accepted_update {kind : CatalogKind} (hkind : kind.Proper) {body : Option Json}
    {data : List (String × Json)} (h : parseBody kind.fields body = .ok data) :
    Accepted kind.updateFields data :=
  accepted_of_parseBody hkind.updateFields (parse_update_of_create hkind.fields h)

theorem ofMessage_products (h : input.Message (.product isUrl) queue payload) :
    ∃ rpc, CatalogRpc.ofMessage columns queue payload = some rpc ∧
      (CatalogVisit.products authorization input).asked isUrl columns = some rpc ∧
      rpc.Plain ∧ rpc.queue = queue := by
  have hkind := CatalogKind.proper_product isUrl
  cases input with
  | list query =>
    obtain ⟨rfl, hquery⟩ := h
    obtain rfl : query = .ok payload := hquery
    exact ⟨.productList (columns.query payload), rfl, rfl, trivial, rfl⟩
  | get id =>
    obtain ⟨rfl, -, hid⟩ := h
    refine ⟨.productGet id, ?_, rfl, trivial, rfl⟩
    exact congrArg (Option.map CatalogRpc.productGet) (idOf_of_destructure hid)
  | create body =>
    obtain ⟨rfl, fields, hbody, -, rfl⟩ := h
    obtain ⟨data, hdata, hplain⟩ := exists_productData columns (accepted_update hkind hbody)
    have hbody' : parseBody (createProductSchema isUrl) body = .ok fields := hbody
    refine ⟨.productCreate data, congrArg (Option.map CatalogRpc.productCreate) hdata, ?_, hplain,
      rfl⟩
    simp [CatalogVisit.asked, hbody', hdata, Except.toOption]
  | update id body =>
    obtain ⟨rfl, -, fields, hbody, haccepted, -, hpayload⟩ := h
    obtain ⟨data, hdata, hplain⟩ := exists_productData columns haccepted
    have hbody' : parseBody (updateProductSchema isUrl) body = .ok fields := hbody
    have hid : idOf "productId" payload = some id := idOf_of_destructure hpayload
    have hfields : (destructure "productId" payload).2 = fields := congrArg Prod.snd hpayload
    refine ⟨.productUpdate id data, ?_, ?_, hplain, rfl⟩
    · change CatalogRpc.ofMessage columns .productUpdate payload = _
      simp [CatalogRpc.ofMessage, hid, hfields, hdata]
    · simp [CatalogVisit.asked, hbody', hdata, Except.toOption]
  | delete id =>
    obtain ⟨rfl, -, hid⟩ := h
    refine ⟨.productDelete id, ?_, rfl, trivial, rfl⟩
    exact congrArg (Option.map CatalogRpc.productDelete) (idOf_of_destructure hid)

theorem ofMessage_categories (h : input.Message .category queue payload) :
    ∃ rpc, CatalogRpc.ofMessage columns queue payload = some rpc ∧
      (CatalogVisit.categories authorization input).asked isUrl columns = some rpc ∧
      rpc.Plain ∧ rpc.queue = queue := by
  have hkind := CatalogKind.proper_category
  cases input with
  | list query =>
    obtain ⟨rfl, hquery⟩ := h
    exact ⟨.categoryList, rfl, rfl, trivial, rfl⟩
  | get id =>
    obtain ⟨rfl, -, hid⟩ := h
    refine ⟨.categoryGet id, ?_, rfl, trivial, rfl⟩
    exact congrArg (Option.map CatalogRpc.categoryGet) (idOf_of_destructure hid)
  | create body =>
    obtain ⟨rfl, fields, hbody, -, rfl⟩ := h
    obtain ⟨data, hdata, hplain⟩ := exists_categoryData (accepted_update hkind hbody)
    have hbody' : parseBody createCategorySchema body = .ok fields := hbody
    refine ⟨.categoryCreate data, congrArg (Option.map CatalogRpc.categoryCreate) hdata, ?_, hplain,
      rfl⟩
    simp [CatalogVisit.asked, hbody', hdata, Except.toOption]
  | update id body =>
    obtain ⟨rfl, -, fields, hbody, haccepted, -, hpayload⟩ := h
    obtain ⟨data, hdata, hplain⟩ := exists_categoryData haccepted
    have hbody' : parseBody updateCategorySchema body = .ok fields := hbody
    have hid : idOf "categoryId" payload = some id := idOf_of_destructure hpayload
    have hfields : (destructure "categoryId" payload).2 = fields := congrArg Prod.snd hpayload
    refine ⟨.categoryUpdate id data, ?_, ?_, hplain, rfl⟩
    · change CatalogRpc.ofMessage columns .categoryUpdate payload = _
      simp [CatalogRpc.ofMessage, hid, hfields, hdata]
    · simp [CatalogVisit.asked, hbody', hdata, Except.toOption]
  | delete id =>
    obtain ⟨rfl, -, hid⟩ := h
    refine ⟨.categoryDelete id, ?_, rfl, trivial, rfl⟩
    exact congrArg (Option.map CatalogRpc.categoryDelete) (idOf_of_destructure hid)

/-- Whatever the gateway sends for a request is read, as what is asked for. -/
theorem ofMessage_asked {visit : CatalogVisit}
    (h : visit.input.Message (visit.kind isUrl) queue payload) :
    ∃ rpc, CatalogRpc.ofMessage columns queue payload = some rpc ∧
      visit.asked isUrl columns = some rpc ∧ rpc.Plain ∧ rpc.queue = queue := by
  cases visit with
  | products authorization input => exact ofMessage_products columns h
  | categories authorization input => exact ofMessage_categories columns h

end Messages

end Ecommerce
