import Ecommerce.Lib.Async
import Ecommerce.Lib.Json
import Ecommerce.Order.Repository

namespace Ecommerce

inductive CatalogQueue
  | productList
  | productGet
  | productCreate
  | productUpdate
  | productDelete
  | categoryList
  | categoryGet
  | categoryCreate
  | categoryUpdate
  | categoryDelete
  deriving DecidableEq, Repr

namespace CatalogQueue

def name : CatalogQueue → String
  | productList => "product.list.rpc"
  | productGet => "product.get.rpc"
  | productCreate => "product.create.rpc"
  | productUpdate => "product.update.rpc"
  | productDelete => "product.delete.rpc"
  | categoryList => "category.list.rpc"
  | categoryGet => "category.get.rpc"
  | categoryCreate => "category.create.rpc"
  | categoryUpdate => "category.update.rpc"
  | categoryDelete => "category.delete.rpc"

def mutates : CatalogQueue → Bool
  | productList | productGet | categoryList | categoryGet => false
  | productCreate | productUpdate | productDelete => true
  | categoryCreate | categoryUpdate | categoryDelete => true

end CatalogQueue

inductive HttpMethod
  | get
  | post
  | put
  deriving DecidableEq

inductive ForwardData
  | user (userId : String)
  | order (userId : String) (items : List Item) (shippingAddress : ShippingAddress)
      (paymentMethodId : Option String)

inductive GatewayOp
  | rpcCall (queue : CatalogQueue) (payload : Json) (timeout : Nat)
  | delay (ms : Nat)
  | dateNow
  | forward (path : String) (method : HttpMethod) (data : ForwardData)

abbrev GatewayOp.Res : GatewayOp → Type
  | .rpcCall _ _ _ => Json
  | .delay _ => Unit
  | .dateNow => Int
  | .forward _ _ _ => Json

abbrev GatewayM := Prog GatewayOp GatewayOp.Res Error

/-- `response.key`, `none` where it is undefined. -/
def readField (key : String) (response : Json) : GatewayM (Option Json) :=
  Prog.settle ((response.get key).mapError .plain)

/-- `new Error(value)`. -/
def newError (value : Json) : GatewayM Error := do
  let message ← Prog.settle (value.display.mapError Error.plain)
  pure (.plain (String.ofList message))

/-! The gateway's `MessagingService`. -/
namespace CatalogClient

def rpcWithRetry (queue : CatalogQueue) (payload : Json) (timeout : Nat) : Nat → GatewayM Json
  | 0 => .perform (GatewayOp.rpcCall queue payload timeout)
  | retries + 1 =>
    Prog.tryCatch (.perform (GatewayOp.rpcCall queue payload timeout)) fun _ => do
      .perform (GatewayOp.delay 1000)
      rpcWithRetry queue payload timeout retries

def rpc (queue : CatalogQueue) (payload : Json) : GatewayM Json :=
  rpcWithRetry queue payload 10000 1

/-- The `data` of a response that reports success. -/
def dataOf (fallback : String) (response : Json) : GatewayM (Option Json) := do
  let success ← readField "success" response
  if (success.getD .null).truthy then readField "data" response
  else
    let error ← readField "error" response
    let error ← newError (if (error.getD .null).truthy then error.getD .null else .str fallback)
    throw error

/-- The `catch` block of most calls. -/
def orUnavailable {α : Type} (body : GatewayM α) : GatewayM α :=
  Prog.tryCatch body fun _ => throw (.plain "Product service unavailable")

/-- The `catch` block of the two create calls. -/
def timeoutUnavailable {α : Type} (body : GatewayM α) : GatewayM α :=
  Prog.tryCatch body fun error =>
    throw (if error.message = "RPC timeout" then .plain "Product service unavailable" else error)

/-- A call whose response is checked. -/
def call (queue : CatalogQueue) (payload : Json) (fallback : String) : GatewayM (Option Json) := do
  let response ← rpc queue payload
  dataOf fallback response

def getProducts (query : Json) : GatewayM (Option Json) :=
  orUnavailable (call .productList query "Failed to get products")

def getProductById (productId : String) : GatewayM (Option Json) :=
  orUnavailable (call .productGet (.obj [("productId", .str productId)]) "Failed to get product")

def createProduct (data : Json) : GatewayM (Option Json) :=
  timeoutUnavailable (call .productCreate data "Failed to create product")

def updateProduct (productId : String) (data : List (String × Json)) : GatewayM (Option Json) :=
  orUnavailable (call .productUpdate (.obj (("productId", .str productId) :: data))
    "Failed to update product")

/-- The one call whose response is passed on as it is. -/
def deleteProduct (productId : String) : GatewayM (Option Json) :=
  orUnavailable do
    let response ← rpc .productDelete (.obj [("productId", .str productId)])
    pure (some response)

def getCategories : GatewayM (Option Json) :=
  orUnavailable (call .categoryList (.obj []) "Failed to get categories")

def getCategoryById (categoryId : String) : GatewayM (Option Json) :=
  orUnavailable (call .categoryGet (.obj [("categoryId", .str categoryId)])
    "Failed to get category")

def createCategory (data : Json) : GatewayM (Option Json) :=
  timeoutUnavailable (call .categoryCreate data "Failed to create category")

def updateCategory (categoryId : String) (data : List (String × Json)) : GatewayM (Option Json) :=
  orUnavailable (call .categoryUpdate (.obj (("categoryId", .str categoryId) :: data))
    "Failed to update category")

def deleteCategory (categoryId : String) : GatewayM (Option Json) :=
  orUnavailable (call .categoryDelete (.obj [("categoryId", .str categoryId)])
    "Failed to delete category")

end CatalogClient

end Ecommerce
