import Ecommerce.Gateway.Roles
import Ecommerce.Lib.Triple

namespace Ecommerce

namespace RateLimit

abbrev Response := ApiResponse (Option Json)

inductive HookName
  | onRequest
  | preHandler
  deriving DecidableEq

structure Passing where
  ip : String
  user : Option JWTPayload
  keys : List String

structure AppHook where
  name : HookName
  run : Passing → GatewayM (Passing × Option Response)

def keyGenerator (request : Passing) : String :=
  match truthy (request.user.map JWTPayload.userId) with
  | some userId => "user:" ++ userId
  | none => "ip:" ++ request.ip

/-- The plugin's hook; `refusal` is what it answers for a key that has no requests left. -/
def rateLimit (refusal : String → Option Response) : AppHook where
  name := .onRequest
  run request :=
    pure ({ request with keys := request.keys ++ [keyGenerator request] },
      refusal (keyGenerator request))

def preHandler (hook : Hook) : AppHook where
  name := .preHandler
  run request :=
    Prog.tryCatch
      (do
        match ← hook request.user with
        | .reply response => pure (request, some response)
        | .next user => pure ({ request with user }, none))
      fun error => pure (request, some (errorHandler error))

/-- The hooks of one name run in the order they were added, and `onRequest` comes first. -/
def lifecycle (hooks : List AppHook) : List AppHook :=
  hooks.filter (·.name = .onRequest) ++ hooks.filter (·.name = .preHandler)

def through (handler : Option JWTPayload → GatewayM Response) :
    List AppHook → Passing → GatewayM (Passing × Response)
  | [], request => do
    let response ← Prog.tryCatch (handler request.user) fun error => pure (errorHandler error)
    pure (request, response)
  | hook :: hooks, request => do
    let (request, reply) ← hook.run request
    match reply with
    | some response => pure (request, response)
    | none => through handler hooks request

/-- A route behind `authMiddleware` and further hooks. -/
structure ProtectedRoute where
  hooks : List Hook
  handler : Option JWTPayload → GatewayM Response

namespace ProtectedRoute

variable (config : Config) (authorization : Option Authorization) (route : ProtectedRoute)

def program : GatewayM Response :=
  hooked route.handler (authMiddleware config authorization :: route.hooks) none

/-- `buildApp` registers the plugin before the routes. -/
def appHooks (refusal : String → Option Response) : List AppHook :=
  rateLimit refusal :: (authMiddleware config authorization :: route.hooks).map preHandler

def serve (refusal : String → Option Response) (ip : String) : GatewayM (Passing × Response) :=
  through route.handler (lifecycle (route.appHooks config authorization refusal)) ⟨ip, none, []⟩

def Limits (p : GatewayM Response) : Prop :=
  ∀ refusal ip, refusal ("ip:" ++ ip) = none →
    (do
      let (_, response) ← route.serve config authorization refusal ip
      pure response) = Prog.tryCatch p fun error => pure (errorHandler error)

end ProtectedRoute

/-- A request with a token that `verifyAccessToken` accepts. -/
structure Authenticated (config : Config) where
  ip : String
  token : Token
  payload : JWTPayload
  now : Int
  valid : Jwt.verify config.jwtAccessSecret now token = .ok payload

/-- The keys that the request is counted under. -/
def Authenticated.keys {config : Config} (request : Authenticated config) (route : ProtectedRoute)
    (refusal : String → Option Response) (env : Script GatewayMove) : List String :=
  match ((route.serve config (some (.bearer request.token)) refusal request.ip).play
    GatewayMove.handle env []).1 with
  | .ok (passing, _) => passing.keys
  | .error _ => []

section Hooks

variable {handler : Option JWTPayload → GatewayM Response} {M : GatewayMove → Prop} {sent : Sent}

theorem wp_through_preHandlers (hooks : List Hook) (request : Passing) :
    (through handler (hooks.map preHandler) request).wp M GatewayMove.handle
      (fun r _ => ∃ passing response, r = .ok (passing, response) ∧ passing.keys = request.keys)
      sent := by
  induction hooks generalizing request sent with
  | nil =>
    rw [List.map_nil, through, Prog.wp_bind]
    refine (Prog.wp_swallow _ errorHandler).mono ?_
    rintro r sent ⟨response, rfl⟩
    exact ⟨request, response, rfl, rfl⟩
  | cons hook hooks ih =>
    rw [List.map_cons, through, Prog.wp_bind, preHandler, Prog.wp_tryCatch, Prog.wp_bind]
    refine Prog.wp_of_forall (fun r sent => ?_) _
    cases r with
    | error error => exact ⟨request, _, rfl, rfl⟩
    | ok result =>
      cases result with
      | reply response => exact ⟨request, response, rfl, rfl⟩
      | next user => exact ih { request with user }

theorem lifecycle_appHooks (config : Config) (authorization : Option Authorization)
    (route : ProtectedRoute) (refusal : String → Option Response) :
    lifecycle (route.appHooks config authorization refusal) =
      rateLimit refusal :: (authMiddleware config authorization :: route.hooks).map preHandler := by
  have hnone : ∀ hooks : List Hook, (hooks.map preHandler).filter (·.name = .onRequest) = [] := by
    intro hooks
    simp [preHandler]
  have hall : ∀ hooks : List Hook,
      (hooks.map preHandler).filter (·.name = .preHandler) = hooks.map preHandler := by
    intro hooks
    simp [preHandler]
  rw [lifecycle, ProtectedRoute.appHooks, List.filter_cons_of_pos (by simp [rateLimit]), hnone,
    List.filter_cons_of_neg (by simp [rateLimit]), hall, List.singleton_append]

/-- The limiter runs before anybody has read the token. -/
theorem wp_serve (config : Config) (authorization : Option Authorization) (route : ProtectedRoute)
    (refusal : String → Option Response) (ip : String) :
    (route.serve config authorization refusal ip).wp M GatewayMove.handle
      (fun r _ => ∃ passing response, r = .ok (passing, response) ∧ passing.keys = ["ip:" ++ ip])
      sent := by
  rw [ProtectedRoute.serve, lifecycle_appHooks, through, rateLimit, Prog.wp_bind, Prog.wp_pure,
    Prog.cont_ok]
  cases refusal (keyGenerator ⟨ip, none, []⟩) with
  | some response => exact ⟨_, response, rfl, rfl⟩
  | none => exact wp_through_preHandlers _ _

theorem Authenticated.keys_eq {config : Config} (request : Authenticated config)
    (route : ProtectedRoute) (refusal : String → Option Response) (env : Script GatewayMove) :
    request.keys route refusal env = ["ip:" ++ request.ip] := by
  have hwp : (route.serve config (some (.bearer request.token)) refusal request.ip).wp
      (fun _ => True) GatewayMove.handle _ [] := wp_serve config _ route refusal request.ip
  have henv : ∀ n, (fun _ => True : GatewayMove → Prop) (env n) := fun _ => trivial
  obtain ⟨passing, response, hplay, hkeys⟩ := hwp.play henv
  rw [keys, hplay]
  exact hkeys

end Hooks

section Routes

/-- Behind the limiter a route answers as it does without one. -/
theorem through_preHandlers (handler : Option JWTPayload → GatewayM Response) (hooks : List Hook)
    (request : Passing) :
    (do
      let (_, response) ← through handler (hooks.map preHandler) request
      pure response) =
      Prog.tryCatch (hooked handler hooks request.user) fun error => pure (errorHandler error) := by
  induction hooks generalizing request with
  | nil =>
    rw [List.map_nil, through, hooked, bind_assoc]
    exact bind_pure _
  | cons hook hooks ih =>
    rw [List.map_cons, through, hooked]
    simp only [preHandler]
    generalize hook request.user = p
    induction p with
    | pure result =>
      cases result with
      | reply response => rfl
      | next user => exact ih { request with user }
    | throw error => rfl
    | await op k ihk => exact congrArg (Prog.await op) (funext ihk)

theorem limits_program (config : Config) (authorization : Option Authorization)
    (route : ProtectedRoute) :
    route.Limits config authorization (route.program config authorization) := by
  intro refusal ip hallowed
  rw [ProtectedRoute.serve, lifecycle_appHooks, ProtectedRoute.program,
    ← through_preHandlers _ _ ⟨ip, none, ["ip:" ++ ip]⟩, through]
  have hpasses : (rateLimit refusal).run ⟨ip, none, []⟩ =
      pure (⟨ip, none, ["ip:" ++ ip]⟩, none) := by
    rw [← hallowed]
    rfl
  rw [hpasses]
  rfl

/-- The routes that write to the catalogue are protected, and so are those of the orders. -/
theorem productsRoutes_protected {request : CatalogRequest}
    (h : (∀ query, request ≠ .list query) ∧ ∀ id, request ≠ .get id) :
    ∃ route : ProtectedRoute, ∀ config authorization,
      route.Limits config authorization (productsRoutes config authorization request) := by
  cases request with
  | list query => exact absurd rfl (h.1 query)
  | get id => exact absurd rfl (h.2 id)
  | create body => exact ⟨⟨[requireAdmin], _⟩, fun config header => limits_program config header _⟩
  | update id body => exact ⟨⟨[requireAdmin], _⟩, fun config header => limits_program config header _⟩
  | delete id => exact ⟨⟨[requireAdmin], _⟩, fun config header => limits_program config header _⟩

theorem categoriesRoutes_protected {request : CatalogRequest}
    (h : (∀ query, request ≠ .list query) ∧ ∀ id, request ≠ .get id) :
    ∃ route : ProtectedRoute, ∀ config authorization,
      route.Limits config authorization (categoriesRoutes config authorization request) := by
  cases request with
  | list query => exact absurd rfl (h.1 query)
  | get id => exact absurd rfl (h.2 id)
  | create body => exact ⟨⟨[requireAdmin], _⟩, fun config header => limits_program config header _⟩
  | update id body => exact ⟨⟨[requireAdmin], _⟩, fun config header => limits_program config header _⟩
  | delete id => exact ⟨⟨[requireAdmin], _⟩, fun config header => limits_program config header _⟩

theorem ordersRoutes_protected (request : OrdersRequest) :
    ∃ route : ProtectedRoute, ∀ config authorization,
      route.Limits config authorization (ordersRoutes config authorization request) :=
  ⟨⟨[], _⟩, fun config authorization => limits_program config authorization _⟩

end Routes

end RateLimit

open RateLimit in
/-- Rate-limit keys tell users apart exactly as far as their addresses do. -/
theorem keys_iff {config : Config} (request request' : Authenticated config)
    (route route' : ProtectedRoute) (refusal refusal' : String → Option Response)
    (env env' : Script GatewayMove) :
    (request.keys route refusal env = request'.keys route' refusal' env' ↔
        request.payload.userId = request'.payload.userId) ↔
      (request.ip = request'.ip ↔ request.payload.userId = request'.payload.userId) := by
  rw [Authenticated.keys_eq, Authenticated.keys_eq, List.singleton_inj]
  rw [String.append_right_inj]

section Example

private def signing : Config :=
  .ofSecrets "access-secret-of-32-characters--" "refresh-secret-of-32-characters-"

private def signedIn (userId ip : String) : RateLimit.Authenticated signing where
  ip
  token := .signed signing.jwtAccessSecret ⟨⟨userId, "a@b.co", .user⟩, none, 0, 900⟩
  payload := ⟨userId, "a@b.co", .user⟩
  now := 1000
  valid := rfl

private def myOrders : RateLimit.ProtectedRoute := ⟨[], fun _ => pure (.success 200 "" none)⟩

private def noAnswers : Script GatewayMove :=
  fun _ => ⟨1000, .unsent (.plain ""), .error (.plain "")⟩

private def counted (userId ip : String) : List String :=
  (signedIn userId ip).keys myOrders (fun _ => none) noAnswers

/-- One user at two addresses has two keys, two users at one address have one. -/
theorem not_keys_signedIn :
    ¬ (counted "u" "10.0.0.1" = counted "u" "10.0.0.2" ↔
        (signedIn "u" "10.0.0.1").payload.userId = (signedIn "u" "10.0.0.2").payload.userId) ∧
      ¬ (counted "u" "10.0.0.1" = counted "v" "10.0.0.1" ↔
        (signedIn "u" "10.0.0.1").payload.userId = (signedIn "v" "10.0.0.1").payload.userId) := by
  decide

end Example

end Ecommerce
