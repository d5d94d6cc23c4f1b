import Ecommerce.Shared.Errors

namespace Ecommerce

/-- The response body of every service; `none` is the empty `data` object, or that there is none. -/
structure ApiResponse (α : Type) where
  status : Nat
  message : String
  data : Option α
  error : String

/-- `message || fallback`. -/
def orFallback (message fallback : String) : String := if message = "" then fallback else message

def ApiResponse.success {α : Type} (status : Nat) (message : String) (data : α) : ApiResponse α :=
  ⟨status, message, some data, ""⟩

def ApiResponse.failure {α : Type} (status : Nat) (message : String) : ApiResponse α :=
  ⟨status, message, none, message⟩

/-- `http.STATUS_CODES`, of the codes that are thrown. -/
def statusText : Nat → String
  | 400 => "Bad Request"
  | 401 => "Unauthorized"
  | 403 => "Forbidden"
  | 404 => "Not Found"
  | 409 => "Conflict"
  | 422 => "Unprocessable Entity"
  | 429 => "Too Many Requests"
  | _ => "Internal Server Error"

/-- Fastify's `{ statusCode, error, message }` for an error that is thrown.  Every application sets
its own error handler after its routes are registered, and these keep the one they found. -/
def errorHandler {α : Type} (error : Error) : ApiResponse α :=
  ⟨error.statusCode, error.message, none, statusText error.statusCode⟩

def isHexDigit (c : Char) : Bool :=
  ('0' ≤ c && c ≤ '9') || ('a' ≤ c && c ≤ 'f') || ('A' ≤ c && c ≤ 'F')

/-- `z.string().uuid()`: hexadecimal groups of 8, 4, 4, 4 and 12 digits. -/
def isUuid (s : String) : Bool :=
  s.toList.length = 36 && s.toList.zipIdx.all fun (c, i) =>
    if i = 8 ∨ i = 13 ∨ i = 18 ∨ i = 23 then c = '-' else isHexDigit c

end Ecommerce
