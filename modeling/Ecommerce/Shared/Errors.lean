import Mathlib.Init

namespace Ecommerce

inductive ErrorClass
  | badRequest
  | unauthorized
  | forbidden
  | notFound
  | conflict
  | validation
  | tooManyRequests
  | internalServer
  deriving DecidableEq, Repr

/-- What a promise rejects with: an `AppError`, or the plain `Error` of a library. -/
inductive Error
  | app (cls : ErrorClass) (message : String)
  | plain (message : String)
  deriving DecidableEq, Repr

namespace Error

def message : Error → String
  | .app _ m => m
  | .plain m => m

/-- `error.statusCode || 500`. -/
def statusCode : Error → Nat
  | .app .badRequest _ => 400
  | .app .unauthorized _ => 401
  | .app .forbidden _ => 403
  | .app .notFound _ => 404
  | .app .conflict _ => 409
  | .app .validation _ => 422
  | .app .tooManyRequests _ => 429
  | .app .internalServer _ => 500
  | .plain _ => 500

/-- `err instanceof cls`. -/
def isInstance (cls : ErrorClass) : Error → Bool
  | .app c _ => c = cls
  | .plain _ => false

def badRequest (message : String) : Error := .app .badRequest message

def notFound (message : String) : Error := .app .notFound message

end Error

end Ecommerce
