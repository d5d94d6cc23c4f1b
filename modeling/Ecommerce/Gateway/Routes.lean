import Ecommerce.Gateway.Auth
import Ecommerce.Gateway.Messaging

namespace Ecommerce

/-- An `Authorization` header, by what comes after `Bearer `. -/
inductive Authorization
  | bearer (token : Token)
  | other (text : String)

def UserRole.name : UserRole → String
  | .admin => "ADMIN"
  | .user => "USER"
  | .guest => "GUEST"

/-- How a hook ends: with a reply, or with the `request.user` that it leaves. -/
inductive HookResult
  | reply (response : ApiResponse (Option Json))
  | next (user : Option JWTPayload)

abbrev Hook := Option JWTPayload → GatewayM HookResult

def unauthorized (message : String) : ApiResponse (Option Json) := .failure 401 message

def authMiddleware (config : Config) (authorization : Option Authorization) : Hook := fun _ =>
  match authorization with
  | some (.bearer token) => do
    let now ← .perform GatewayOp.dateNow
    match Jwt.verify config.jwtAccessSecret now token with
    | .ok payload => pure (.next (some payload))
    | .error _ => pure (.reply (unauthorized "Invalid or expired token"))
  | _ => pure (.reply (unauthorized "Missing or invalid authorization header"))

def requireRole (allowedRoles : List UserRole) : Hook := fun user =>
  match user with
  | none => throw (.app .forbidden "User not authenticated")
  | some payload =>
    if payload.role ∉ allowedRoles then
      throw (.app .forbidden
        ("Access denied. Required roles: " ++ ", ".intercalate (allowedRoles.map UserRole.name)))
    else pure (.next user)

def requireAdmin : Hook := requireRole [.admin]

/-- The handler behind its `preHandler`s; a hook that replies stops the request. -/
def hooked (handler : Option JWTPayload → GatewayM (ApiResponse (Option Json))) :
    List Hook → Option JWTPayload → GatewayM (ApiResponse (Option Json))
  | [], user => handler user
  | hook :: hooks, user => do
    match ← hook user with
    | .reply response => pure response
    | .next user => hooked handler hooks user

/-- A `catch` block that sends a 500. -/
def orServerError (fallback : String) (body : GatewayM (ApiResponse (Option Json))) :
    GatewayM (ApiResponse (Option Json)) :=
  Prog.tryCatch body fun error => pure (.failure 500 (orFallback error.message fallback))

def validationError (text : String) : ApiResponse (Option Json) :=
  ⟨400, "Validation error", none, text⟩

/-- What a handler makes of input that its schema has read, or not. -/
def validated {α : Type} (body : Except String α)
    (handler : α → GatewayM (ApiResponse (Option Json))) : GatewayM (ApiResponse (Option Json)) :=
  match body with
  | .error text => pure (validationError text)
  | .ok data => handler data

structure CatalogTexts where
  one : String
  many : String
  One : String
  Many : String

inductive CatalogRequest
  | list (query : Except String Json)
  | get (id : String)
  | create (body : Except String Json)
  | update (id : String) (body : Except String (List (String × Json)))
  | delete (id : String)

namespace CatalogTexts

variable (t : CatalogTexts)

def invalidId : ApiResponse (Option Json) :=
  validationError ("Invalid " ++ t.one ++ " ID format. Must be a valid UUID.")

def list (getAll : Json → GatewayM (Option Json)) (query : Except String Json) :
    GatewayM (ApiResponse (Option Json)) :=
  orServerError ("Failed to fetch " ++ t.many) <| validated query fun query => do
    let result ← getAll query
    pure (.success 200 (t.Many ++ " fetched successfully") result)

def get (getById : String → GatewayM (Option Json)) (id : String) :
    GatewayM (ApiResponse (Option Json)) :=
  orServerError ("Failed to fetch " ++ t.one) <|
    if isUuid id = false then pure t.invalidId
    else do
      let result ← getById id
      pure (.success 200 (t.One ++ " fetched successfully") result)

def create (create : Json → GatewayM (Option Json)) (body : Except String Json) :
    GatewayM (ApiResponse (Option Json)) :=
  orServerError ("Failed to create " ++ t.one) <| validated body fun data => do
    let result ← create data
    pure (.success 201 (t.One ++ " created successfully") result)

def update (update : String → List (String × Json) → GatewayM (Option Json)) (id : String)
    (body : Except String (List (String × Json))) : GatewayM (ApiResponse (Option Json)) :=
  orServerError ("Failed to update " ++ t.one) <|
    if isUuid id = false then pure t.invalidId
    else validated body fun data =>
      if data.length = 0 then
        pure (validationError
          "Request body cannot be empty. Provide at least one field to update.")
      else do
        let result ← update id data
        pure (.success 200 (t.One ++ " updated successfully") result)

def delete (delete : String → GatewayM (Option Json)) (id : String) :
    GatewayM (ApiResponse (Option Json)) :=
  orServerError ("Failed to delete " ++ t.one) <|
    if isUuid id = false then pure t.invalidId
    else do
      let result ← delete id
      pure (.success 200 (t.One ++ " deleted successfully") result)

end CatalogTexts

def adminOnly (config : Config) (authorization : Option Authorization)
    (handler : GatewayM (ApiResponse (Option Json))) : GatewayM (ApiResponse (Option Json)) :=
  hooked (fun _ => handler) [authMiddleware config authorization, requireAdmin] none

open CatalogClient in
def productsRoutes (config : Config) (authorization : Option Authorization) :
    CatalogRequest → GatewayM (ApiResponse (Option Json)) :=
  let t : CatalogTexts := ⟨"product", "products", "Product", "Products"⟩
  fun
  | .list query => t.list getProducts query
  | .get id => t.get getProductById id
  | .create body => adminOnly config authorization (t.create createProduct body)
  | .update id body => adminOnly config authorization (t.update updateProduct id body)
  | .delete id => adminOnly config authorization (t.delete deleteProduct id)

open CatalogClient in
/-- The list of the categories takes no query. -/
def categoriesRoutes (config : Config) (authorization : Option Authorization) :
    CatalogRequest → GatewayM (ApiResponse (Option Json)) :=
  let t : CatalogTexts := ⟨"category", "categories", "Category", "Categories"⟩
  fun
  | .list _ => t.list (fun _ => getCategories) (.ok .null)
  | .get id => t.get getCategoryById id
  | .create body => adminOnly config authorization (t.create createCategory body)
  | .update id body => adminOnly config authorization (t.update updateCategory id body)
  | .delete id => adminOnly config authorization (t.delete deleteCategory id)

structure CreateOrderBody where
  items : List Item
  shippingAddress : ShippingAddress
  paymentMethod : Option String

inductive OrdersRequest
  | list (query : Except String Unit)
  | get (id : String)
  | create (body : Except String CreateOrderBody)
  | cancel (id : String)

namespace OrdersRoutes

/-- `value ?? fallback`. -/
def nullish (value : Option Json) (fallback : Json) : Json :=
  match value with
  | none | some .null => fallback
  | some value => value

/-- `result.data?.key ?? result.data ?? result`. -/
def unwrap (key : String) (result : Json) : GatewayM Json := do
  let data ← readField "data" result
  match data with
  | none | some .null => pure result
  | some data => do
    let value ← readField key data
    pure (nullish value data)

def forwarded (path : String) (method : HttpMethod) (data : ForwardData) (key : String)
    (status : Nat) (message : String) : GatewayM (ApiResponse (Option Json)) := do
  let result ← .perform (GatewayOp.forward path method data)
  let data ← unwrap key result
  pure (.success status message (some data))

def invalidId : ApiResponse (Option Json) :=
  validationError "Invalid order ID format. Must be a valid UUID."

def list (userId : String) (query : Except String Unit) : GatewayM (ApiResponse (Option Json)) :=
  orServerError "Failed to fetch orders" <| validated query fun _ =>
    forwarded "/orders" .get (.user userId) "orders" 200 "Orders fetched successfully"

def get (userId id : String) : GatewayM (ApiResponse (Option Json)) :=
  if isUuid id = false then pure invalidId
  else orServerError "Failed to fetch order"
    (forwarded ("/orders/" ++ id) .get (.user userId) "order" 200 "Order fetched successfully")

def create (userId : String) (body : Except String CreateOrderBody) :
    GatewayM (ApiResponse (Option Json)) :=
  orServerError "Failed to create order" <| validated body fun data =>
    forwarded "/orders" .post
      (.order userId data.items data.shippingAddress data.paymentMethod) "order" 201
      "Order created successfully"

def cancel (userId id : String) : GatewayM (ApiResponse (Option Json)) :=
  if isUuid id = false then pure invalidId
  else orServerError "Failed to cancel order"
    (forwarded ("/orders/" ++ id ++ "/cancel") .put (.user userId) "order" 200
      "Order cancelled successfully")

end OrdersRoutes

/-- Every handler reads `request.user!.userId`. -/
def ordersRoutes (config : Config) (authorization : Option Authorization)
    (request : OrdersRequest) : GatewayM (ApiResponse (Option Json)) :=
  hooked
    (fun user =>
      match user with
      | none => throw (.plain "Cannot read properties of undefined (reading 'userId')")
      | some user =>
        match request with
        | .list query => OrdersRoutes.list user.userId query
        | .get id => OrdersRoutes.get user.userId id
        | .create body => OrdersRoutes.create user.userId body
        | .cancel id => OrdersRoutes.cancel user.userId id)
    [authMiddleware config authorization] none

end Ecommerce
