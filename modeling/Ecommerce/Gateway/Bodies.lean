import Ecommerce.Gateway.Routes
import Ecommerce.Lib.Schema
import Ecommerce.Lib.Triple

/-! The bodies that the catalogue's routes accept, and the messages that they are sent on as. -/

namespace Ecommerce

section Schemas

/-- `isUrl` is the `URL` constructor's opinion. -/
def createProductSchema (isUrl : String → Bool) : List (String × Schema) :=
  [("sku", .string [.min 1 "SKU is required", .max 100]),
    ("name", .string [.min 1 "Product name is required", .max 255]),
    ("slug", .string [.min 1 "Slug is required", .max 255]),
    ("description", .optional (.string [])),
    ("price", .number [.positive "Price must be greater than 0"]),
    ("categoryId", .string [⟨isUuid, "Invalid category ID format"⟩]),
    ("imageUrl", .optional (.string [⟨isUrl, "Invalid image URL"⟩]))]

def updateProductSchema (isUrl : String → Bool) : List (String × Schema) :=
  Schema.partialFields (createProductSchema isUrl)

def createCategorySchema : List (String × Schema) :=
  [("name", .string [.min 1 "Category name is required", .max 255]),
    ("slug", .string [.min 1 "Slug is required", .max 255]),
    ("description", .optional (.string [])),
    ("parentId",
      .nullable (.optional (.string [⟨isUuid, "Invalid parent category ID format"⟩])))]

def updateCategorySchema : List (String × Schema) := Schema.partialFields createCategorySchema

end Schemas

/-- `schema.parse(request.body)`; a `ZodError` becomes the `error` of a 400. -/
def parseBody (fields : List (String × Schema)) (body : Option Json) :
    Except String (List (String × Json)) :=
  (Schema.parse fields body).mapError fun found => ", ".intercalate (found.map Issue.text)

/-- What Fastify does with a request by the `schema` of its route, before any `preHandler`: it refuses
a part with a text, or it hands it on; of a body, it coerces the values. -/
structure Validation (Query : Type) where
  querystring : Query → Except String Unit
  params : String → Except String Unit
  body : Option Json → Except String (Option Json)

/-- A request that the validation refuses gets no further. -/
def Validation.answer {Request : Type} (routes : Request → GatewayM (ApiResponse (Option Json))) :
    Except String Request → GatewayM (ApiResponse (Option Json))
  | .error text => pure (errorHandler (.badRequest text))
  | .ok request => routes request

/-- A request for the product or the category routes, its body not looked at yet.  `query` is what
zod makes of the query that it is handed. -/
inductive CatalogInput
  | list (query : Except String Json)
  | get (id : String)
  | create (body : Option Json)
  | update (id : String) (body : Option Json)
  | delete (id : String)

/-- What tells the products from the categories: their queues, the name of their ids in a message,
the fields of their create schema, and what is sent for a list. -/
structure CatalogKind where
  texts : CatalogTexts
  list : CatalogQueue
  get : CatalogQueue
  create : CatalogQueue
  update : CatalogQueue
  delete : CatalogQueue
  idKey : String
  fields : List (String × Schema)
  listed : Except String Json → Except String Json

namespace CatalogKind

def product (isUrl : String → Bool) : CatalogKind where
  texts := ⟨"product", "products", "Product", "Products"⟩
  list := .productList
  get := .productGet
  create := .productCreate
  update := .productUpdate
  delete := .productDelete
  idKey := "productId"
  fields := createProductSchema isUrl
  listed query := query

def category : CatalogKind where
  texts := ⟨"category", "categories", "Category", "Categories"⟩
  list := .categoryList
  get := .categoryGet
  create := .categoryCreate
  update := .categoryUpdate
  delete := .categoryDelete
  idKey := "categoryId"
  fields := createCategorySchema
  listed _ := .ok (.obj [])

def updateFields (kind : CatalogKind) : List (String × Schema) := Schema.partialFields kind.fields

end CatalogKind

/-- `const { key, ...data } = request`. -/
def destructure (key : String) : Json → Option Json × List (String × Json)
  | .obj props => (props.lookup key, props.filter (·.1 ≠ key))
  | _ => (none, [])

/-- Data that the schema accepts as it is, and that has no property but the schema's. -/
structure Accepted (fields : List (String × Schema)) (data : List (String × Json)) : Prop where
  again : Schema.parse fields (some (.obj data)) = .ok data
  keys : (data.map Prod.fst).Sublist (fields.map Prod.fst)

namespace CatalogInput

/-- An update has no schema for its body. -/
def validated (validation : Validation (Except String Json)) :
    CatalogInput → Except String CatalogInput
  | list query => (validation.querystring query).map fun _ => list query
  | get id => (validation.params id).map fun _ => get id
  | create body => (validation.body body).map create
  | update id body => (validation.params id).map fun _ => update id body
  | delete id => (validation.params id).map fun _ => delete id

def parse (kind : CatalogKind) : CatalogInput → CatalogRequest
  | list query => .list query
  | get id => .get id
  | create body => .create ((parseBody kind.fields body).map .obj)
  | update id body => .update id (parseBody kind.updateFields body)
  | delete id => .delete id

def Message (kind : CatalogKind) : CatalogInput → CatalogQueue → Json → Prop
  | list query, queue, payload => queue = kind.list ∧ kind.listed query = .ok payload
  | get id, queue, payload =>
    queue = kind.get ∧ isUuid id ∧ destructure kind.idKey payload = (some (.str id), [])
  | create body, queue, payload => queue = kind.create ∧
    ∃ data, parseBody kind.fields body = .ok data ∧ Accepted kind.fields data ∧ payload = .obj data
  | update id body, queue, payload => queue = kind.update ∧ isUuid id ∧
    ∃ data, parseBody kind.updateFields body = .ok data ∧ Accepted kind.updateFields data ∧
      data ≠ [] ∧ destructure kind.idKey payload = (some (.str id), data)
  | delete id, queue, payload =>
    queue = kind.delete ∧ isUuid id ∧ destructure kind.idKey payload = (some (.str id), [])

def Sends (kind : CatalogKind) (input : CatalogInput) : GatewayOp → Prop
  | .rpcCall queue payload _ => input.Message kind queue payload
  | .delay _ => True
  | .dateNow => True
  | .forward _ _ _ => False

def Replies (kind : CatalogKind) (input : CatalogInput) (reply : ApiResponse (Option Json)) :
    Prop :=
  reply.status = 401 ∨
  match input with
  | list _ => True
  | get id | delete id => isUuid id = false → reply = kind.texts.invalidId
  | create body => ∀ text, parseBody kind.fields body = .error text → reply = validationError text
  | update id body => (isUuid id = false → reply = kind.texts.invalidId) ∧
    (isUuid id → ∀ text, parseBody kind.updateFields body = .error text →
      reply = validationError text)

end CatalogInput

section Messages

variable {fields : List (String × Schema)} {body : Option Json} {data : List (String × Json)}

theorem parse_of_parseBody (h : parseBody fields body = .ok data) :
    Schema.parse fields body = .ok data := by
  unfold parseBody at h
  cases hparse : Schema.parse fields body with
  | error found =>
    rw [hparse] at h
    cases h
  | ok data' =>
    rw [hparse] at h
    exact congrArg Except.ok (Except.ok.inj h)

theorem accepted_of_parseBody (hfields : (Schema.object fields).proper)
    (h : parseBody fields body = .ok data) : Accepted fields data :=
  have hparse := parse_of_parseBody h
  ⟨Schema.parse_passes (.refl _ hfields) hparse, Schema.keys_parse hparse⟩

theorem destructure_cons {key : String} {j : Json} (h : key ∉ data.map Prod.fst) :
    destructure key (.obj ((key, j) :: data)) = (some j, data) := by
  have hdata : data.filter (·.1 ≠ key) = data :=
    List.filter_eq_self.mpr fun field hfield =>
      decide_eq_true fun hkey => h (hkey ▸ List.mem_map_of_mem hfield)
  rw [destructure, List.lookup_cons_self, List.filter_cons_of_neg (by simp), hdata]

theorem parse_update_of_create (hfields : (Schema.object fields).proper)
    (h : parseBody fields body = .ok data) :
    parseBody (Schema.partialFields fields) (some (.obj data)) = .ok data := by
  rw [parseBody, Schema.parse_passes (.object_optional hfields) (parse_of_parseBody h)]
  rfl

end Messages

structure CatalogKind.Proper (kind : CatalogKind) : Prop where
  fields : (Schema.object kind.fields).proper
  updateFields : (Schema.object kind.updateFields).proper
  idKey : kind.idKey ∉ kind.updateFields.map Prod.fst

theorem CatalogKind.proper_product (isUrl : String → Bool) : (product isUrl).Proper where
  fields := rfl
  updateFields := rfl
  idKey := by
    change "productId" ∉ ["sku", "name", "slug", "description", "price", "categoryId", "imageUrl"]
    decide

theorem CatalogKind.proper_category : category.Proper where
  fields := rfl
  updateFields := rfl
  idKey := by
    change "categoryId" ∉ ["name", "slug", "description", "parentId"]
    decide

section Awaits

variable {P : GatewayOp → Prop}

open CatalogClient

end Awaits

namespace CatalogTexts

variable {P : GatewayOp → Prop} (t : CatalogTexts)

end CatalogTexts

namespace CatalogInput

variable {kind : CatalogKind} {id : String} {body : Option Json} {data : List (String × Json)}

theorem destructure_id {idKey : String} : destructure idKey (.obj [(idKey, .str id)]) =
    (some (.str id), []) := destructure_cons List.not_mem_nil

theorem message_create (hkind : kind.Proper) (h : parseBody kind.fields body = .ok data) :
    (create body).Message kind kind.create (.obj data) :=
  ⟨rfl, data, h, accepted_of_parseBody hkind.fields h, rfl⟩

theorem message_update (hkind : kind.Proper) (hid : isUuid id)
    (h : parseBody kind.updateFields body = .ok data) (hdata : data ≠ []) :
    (update id body).Message kind kind.update (.obj ((kind.idKey, .str id) :: data)) := by
  have haccepted := accepted_of_parseBody hkind.updateFields h
  refine ⟨rfl, hid, data, h, haccepted, hdata, destructure_cons fun hmem => ?_⟩
  exact hkind.idKey (haccepted.keys.subset hmem)

/-- The replies of a route: Fastify's refusal, or one to the request as it is handed on. -/
def Told (validation : Validation (Except String Json)) (kind : CatalogKind) (input : CatalogInput)
    (reply : ApiResponse (Option Json)) : Prop :=
  (∀ text, input.validated validation = .error text →
    reply = errorHandler (.badRequest text)) ∧
  ∀ checked, input.validated validation = .ok checked → checked.Replies kind reply

end CatalogInput

end Ecommerce
