import Ecommerce.Gateway.Auth
import Ecommerce.Lib.EventLoop
import Ecommerce.Lib.Json
import Mathlib.Data.Rat.Floor

namespace Ecommerce

/-- The `Service` of an entry that Consul's health endpoint lists. -/
structure HealthEntry where
  ID : String
  Address : String
  Port : Nat
  deriving DecidableEq

structure DiscoveredService where
  id : String
  address : String
  port : Nat

structure Target where
  address : String
  port : Nat
  deriving DecidableEq

def Target.baseUrl (target : Target) : String :=
  "http://" ++ target.address ++ ":" ++ toString target.port

structure DiscoveryEntry where
  expiresAt : Int
  targets : List Target
  deriving DecidableEq

def DiscoveryEntry.usable (now : Int) (cached : DiscoveryEntry) : Bool :=
  now < cached.expiresAt && 0 < cached.targets.length

/-- What `Math.random` returns. -/
structure Chance where
  value : Rat
  nonneg : 0 ≤ value
  lt_one : value < 1

structure AxiosRequestConfig where
  method : String
  url : String
  headers : String → Option String
  data : Option Json
  params : Option Json

/-- A rejection that carries a response, with the `message` of its body, or any other one. -/
inductive ProxyError
  | response (message : Option String)
  | error (error : Error)

inductive ProxyOp
  | dateNow
  | random
  | cacheGet (serviceName : String)
  | cacheSet (serviceName : String) (entry : DiscoveryEntry)
  | health (consulHttpAddr serviceName : String)
  | axios (config : AxiosRequestConfig)

abbrev ProxyOp.Res : ProxyOp → Type
  | .dateNow => Int
  | .random => Chance
  | .cacheGet _ => Option DiscoveryEntry
  | .cacheSet _ _ => Unit
  | .health _ _ => List HealthEntry
  | .axios _ => Json

/-- Only the requests are waited for. -/
def ProxyOp.sync : ProxyOp → Bool
  | .health _ _ | .axios _ => false
  | _ => true

abbrev ProxyM := Prog ProxyOp ProxyOp.Res ProxyError

structure ProxyConfig where
  consulHttpAddr : Option String
  discoveryTtlMs : Int

/-- The arguments of `forward`. -/
structure ForwardCall where
  serviceName : String
  fallbackUrl : String
  path : String
  method : String
  data : Option Json
  headers : String → Option String

def HealthEntry.discovered (entry : HealthEntry) : DiscoveredService :=
  ⟨entry.ID, entry.Address, entry.Port⟩

def DiscoveredService.target (d : DiscoveredService) : Target := ⟨d.address, d.port⟩

def HealthEntry.target (entry : HealthEntry) : Target := entry.discovered.target

namespace ProxyService

variable (config : ProxyConfig)

def consulDiscoverService (serviceName : String) : ProxyM (List DiscoveredService) :=
  match truthy config.consulHttpAddr with
  | none => pure []
  | some consulHttpAddr => do
    let res ← .perform (ProxyOp.health consulHttpAddr serviceName)
    pure (res.map HealthEntry.discovered)

/-- `targets[Math.floor(Math.random() * targets.length)]`. -/
def choose (targets : List Target) : ProxyM String := do
  let chance ← .perform ProxyOp.random
  match targets[⌊chance.value * targets.length⌋₊]? with
  | some target => pure target.baseUrl
  | none => throw (.error (.plain "Cannot read properties of undefined (reading 'address')"))

/-- What `resolveBaseUrl` does with an answer of Consul to a question of time `now`. -/
def remember (serviceName fallbackUrl : String) (now : Int) (discovered : List DiscoveredService) :
    ProxyM String := do
  let targets := discovered.map DiscoveredService.target
  .perform (ProxyOp.cacheSet serviceName ⟨now + config.discoveryTtlMs, targets⟩)
  if 0 < targets.length then choose targets else pure fallbackUrl

def resolveBaseUrl (serviceName fallbackUrl : String) : ProxyM String := do
  let now ← .perform ProxyOp.dateNow
  let cached ← .perform (ProxyOp.cacheGet serviceName)
  match cached.filter (·.usable now) with
  | some cached => choose cached.targets
  | none =>
    Prog.tryCatch
      (do
        let discovered ← consulDiscoverService config serviceName
        remember config serviceName fallbackUrl now discovered)
      fun _ => pure fallbackUrl

def requestConfig (call : ForwardCall) (baseUrl : String) : AxiosRequestConfig :=
  let data := call.data.filter Json.truthy
  let inBody := call.method.toUpper ∈ ["POST", "PUT", "PATCH"]
  { method := call.method
    url := baseUrl ++ call.path
    headers := fun name =>
      call.headers name <|> if name = "Content-Type" then some "application/json" else none
    data := if inBody then data else none
    params := if inBody then none else data }

def serviceError : ProxyError → ProxyError
  | .response message =>
    .error (.app .internalServer (orFallback (message.getD "") "Service request failed"))
  | .error _ => .error (.app .internalServer "Service unavailable")

def sendTo (call : ForwardCall) (base : ProxyM String) : ProxyM Json :=
  Prog.tryCatch
    (do
      let baseUrl ← base
      .perform (ProxyOp.axios (requestConfig call baseUrl)))
    fun error => throw (serviceError error)

def forward (call : ForwardCall) : ProxyM Json :=
  sendTo call (resolveBaseUrl config call.serviceName call.fallbackUrl)

end ProxyService

end Ecommerce
