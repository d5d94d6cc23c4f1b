import Ecommerce.Gateway.AuthEffect
import Ecommerce.Gateway.Routes
import Ecommerce.Lib.Runs

namespace Ecommerce

inductive RpcMove
  | unsent (error : Error)
  | sent (reply : Except Error Json)

/-- The environment's move at one operation of a product, category or order route. -/
structure GatewayMove where
  now : Int
  rpc : RpcMove
  forwarded : Except Error Json

abbrev Sent := List (CatalogQueue × Json)

def GatewayMove.handle (c : GatewayMove) : Handler GatewayOp GatewayOp.Res Error Sent
  | .rpcCall queue payload _, sent =>
    match c.rpc with
    | .unsent error => (.error error, sent)
    | .sent reply => (reply, sent ++ [(queue, payload)])
  | .delay _, sent => (.ok (), sent)
  | .dateNow, sent => (.ok c.now, sent)
  | .forward _ _ _, sent => (c.forwarded, sent)

structure Guarded (Request : Type) where
  authorization : Option Authorization
  invalid : Option String
  request : Request

inductive GatewayRequest
  | auth (request : AuthRequest)
  | products (request : Guarded CatalogRequest)
  | categories (request : Guarded CatalogRequest)
  | orders (request : Guarded OrdersRequest)

inductive GatewayResponse
  | auth (response : AuthResponse)
  | json (body : ApiResponse (Option Json))

def GatewayResponse.tokens : GatewayResponse → List Token
  | .auth response => response.tokens
  | .json _ => []

structure Served where
  response : GatewayResponse
  accounts : Accounts
  sent : Sent

namespace GatewayRequest

def authorization : GatewayRequest → Option Authorization
  | .auth _ => none
  | .products request | .categories request => request.authorization
  | .orders request => request.authorization

/-- The token of the `Authorization` header. -/
def bearer (request : GatewayRequest) : Option Token :=
  match request.authorization with
  | some (.bearer token) => some token
  | _ => none

/-- Only what Fastify's schema accepts gets to the hooks. -/
def answer {Request : Type} (request : Guarded Request)
    (routes : Option Authorization → Request → GatewayM (ApiResponse (Option Json)))
    (env : Script GatewayMove) (accounts : Accounts) : Served :=
  match request.invalid with
  | some text => ⟨.json (errorHandler (.badRequest text)), accounts, []⟩
  | none =>
    let played := (routes request.authorization request.request).play GatewayMove.handle env []
    ⟨.json (match played.1 with | .ok response => response | .error e => errorHandler e),
      accounts, played.2⟩

def serve (config : Config) (request : GatewayRequest) (authEnv : Script AuthMove)
    (env : Script GatewayMove) (accounts : Accounts) : Served :=
  match request with
  | .auth request =>
    let served := request.serve config authEnv accounts
    ⟨.auth served.1, served.2, []⟩
  | .products request => answer request (productsRoutes config) env accounts
  | .categories request => answer request (categoriesRoutes config) env accounts
  | .orders request => answer request (ordersRoutes config) env accounts

end GatewayRequest

section Sent

variable {config : Config} {sent : Sent} {env : Script GatewayMove}
  {authorization : Option Authorization}

def Authorised (config : Config) (authorization : Option Authorization) : Prop :=
  ∃ claims, authorization = some (.bearer (.signed config.jwtAccessSecret claims)) ∧
    claims.role = .admin

def SentBy (config : Config) (authorization : Option Authorization) (sent : Sent) : Prop :=
  ∀ m ∈ sent, m.1.mutates = true → Authorised config authorization

/-- The operations that send nothing on a mutating queue. -/
def GatewayOp.Reads : GatewayOp → Prop
  | .rpcCall queue _ _ => queue.mutates = false
  | .delay _ | .dateNow | .forward _ _ _ => True

theorem wp_reads {α : Type} {p : GatewayM α} (hp : p.Awaits GatewayOp.Reads) :
    p.wp (fun _ => True) GatewayMove.handle
      (fun _ sent => SentBy config authorization sent) [] := by
  have hquiet : p.wp (fun _ => True) GatewayMove.handle
      (fun _ sent => ∀ m ∈ sent, m.1.mutates = false) [] := by
    refine hp.wp (fun c op sent _ hop hsent => ?_) (by simp)
    cases op with
    | rpcCall queue payload timeout =>
      simp only [GatewayMove.handle]
      split
      · exact hsent
      · intro m hm
        rcases List.mem_append.mp hm with hm | hm
        · exact hsent m hm
        · obtain rfl := List.mem_singleton.mp hm
          exact hop
    | delay ms | dateNow | forward path method data => exact hsent
  apply hquiet.mono
  intro _ sent hsent m hm hmutates
  rw [hsent m hm] at hmutates
  cases hmutates

theorem wp_adminOnly (handler : GatewayM (ApiResponse (Option Json))) :
    (adminOnly config authorization handler).wp (fun _ => True) GatewayMove.handle
      (fun _ sent => SentBy config authorization sent) [] := by
  by_cases hauth : Authorised config authorization
  · exact Prog.wp_of_forall (fun _ _ _ _ _ => hauth) _
  · have hnone : SentBy config authorization [] := fun m hm => absurd hm List.not_mem_nil
    rw [adminOnly, hooked, Prog.wp_bind]
    match authorization with
    | none | some (.other text) => exact hnone
    | some (.bearer token) =>
      simp only [authMiddleware, Prog.wp_bind, Prog.wp_perform, GatewayMove.handle, Prog.cont_ok]
      intro c _
      cases hverify : Jwt.verify config.jwtAccessSecret c.now token with
      | error e => exact hnone
      | ok payload =>
        have hrole : payload.role ∉ [UserRole.admin] := by
          intro hadmin
          obtain ⟨claims, rfl, -, rfl⟩ := Jwt.verify_ok hverify
          exact hauth ⟨claims, rfl, List.mem_singleton.mp hadmin⟩
        simp only [Prog.wp_pure, Prog.cont_ok, hooked, Prog.wp_bind, requireAdmin, requireRole,
          if_pos hrole, Prog.wp_throw, Prog.cont_error]
        exact hnone

section Reads

open CatalogClient

theorem awaits_call {queue : CatalogQueue} (hqueue : queue.mutates = false) (payload : Json)
    (fallback : String) : (orUnavailable (call queue payload fallback)).Awaits GatewayOp.Reads := by
  have hrpc : (rpc queue payload).Awaits GatewayOp.Reads := by
    refine .tryCatch ((Prog.awaits_perform _).mpr hqueue) fun _ => ?_
    exact .bind ((Prog.awaits_perform _).mpr trivial) fun _ => (Prog.awaits_perform _).mpr hqueue
  have hdata : ∀ response, (dataOf fallback response).Awaits GatewayOp.Reads := by
    refine fun response => .bind (Prog.awaits_settle _) fun success => ?_
    split
    · exact Prog.awaits_settle _
    · exact .bind (Prog.awaits_settle _) fun _ =>
        .bind (.bind (Prog.awaits_settle _) fun _ => trivial) fun _ => trivial
  exact .tryCatch (.bind hrpc hdata) fun _ => trivial

theorem awaits_validated {α : Type} (body : Except String α)
    {handler : α → GatewayM (ApiResponse (Option Json))}
    (h : ∀ data, (handler data).Awaits GatewayOp.Reads) :
    (validated body handler).Awaits GatewayOp.Reads := by
  cases body with
  | error text => trivial
  | ok data => exact h data

theorem awaits_list (t : CatalogTexts) {getAll : Json → GatewayM (Option Json)}
    (h : ∀ query, (getAll query).Awaits GatewayOp.Reads) (query : Except String Json) :
    (t.list getAll query).Awaits GatewayOp.Reads :=
  .tryCatch (awaits_validated _ fun query => .bind (h query) fun _ => trivial) fun _ => trivial

theorem awaits_get (t : CatalogTexts) {getById : String → GatewayM (Option Json)}
    (h : ∀ id, (getById id).Awaits GatewayOp.Reads) (id : String) :
    (t.get getById id).Awaits GatewayOp.Reads := by
  refine .tryCatch ?_ fun _ => trivial
  split
  · trivial
  · exact .bind (h id) fun _ => trivial

theorem wp_productsRoutes (request : CatalogRequest) :
    (productsRoutes config authorization request).wp (fun _ => True) GatewayMove.handle
      (fun _ sent => SentBy config authorization sent) [] := by
  cases request with
  | list query => exact wp_reads (awaits_list _ (fun _ => awaits_call rfl _ _) query)
  | get id => exact wp_reads (awaits_get _ (fun _ => awaits_call rfl _ _) id)
  | create body | update id body | delete id => exact wp_adminOnly _

theorem wp_categoriesRoutes (request : CatalogRequest) :
    (categoriesRoutes config authorization request).wp (fun _ => True) GatewayMove.handle
      (fun _ sent => SentBy config authorization sent) [] := by
  cases request with
  | list query => exact wp_reads (awaits_list _ (fun _ => awaits_call rfl _ _) _)
  | get id => exact wp_reads (awaits_get _ (fun _ => awaits_call rfl _ _) id)
  | create body | update id body | delete id => exact wp_adminOnly _

theorem awaits_authMiddleware (user : Option JWTPayload) :
    (authMiddleware config authorization user).Awaits GatewayOp.Reads := by
  unfold authMiddleware
  split
  · refine .bind ((Prog.awaits_perform _).mpr trivial) fun now => ?_
    split <;> trivial
  · trivial

theorem awaits_forwarded (path : String) (method : HttpMethod) (data : ForwardData) (key : String)
    (status : Nat) (message : String) :
    (OrdersRoutes.forwarded path method data key status message).Awaits GatewayOp.Reads := by
  have hunwrap : ∀ result, (OrdersRoutes.unwrap key result).Awaits GatewayOp.Reads := by
    refine fun result => .bind (Prog.awaits_settle _) fun data => ?_
    split
    · trivial
    · trivial
    · exact .bind (Prog.awaits_settle _) fun _ => trivial
  exact .bind ((Prog.awaits_perform _).mpr trivial) fun result =>
    .bind (hunwrap result) fun _ => trivial

theorem awaits_ordersRoutes (request : OrdersRequest) :
    (ordersRoutes config authorization request).Awaits GatewayOp.Reads := by
  refine .bind (awaits_authMiddleware none) fun result => ?_
  cases result with
  | reply response => trivial
  | next user =>
    cases user with
    | none => trivial
    | some user =>
      cases request with
      | list query =>
        exact .tryCatch (awaits_validated _ fun _ => awaits_forwarded _ _ _ _ _ _) fun _ => trivial
      | create body =>
        exact .tryCatch (awaits_validated _ fun _ => awaits_forwarded _ _ _ _ _ _) fun _ => trivial
      | get id =>
        simp only [hooked, OrdersRoutes.get]
        split
        · trivial
        · exact .tryCatch (awaits_forwarded _ _ _ _ _ _) fun _ => trivial
      | cancel id =>
        simp only [hooked, OrdersRoutes.cancel]
        split
        · trivial
        · exact .tryCatch (awaits_forwarded _ _ _ _ _ _) fun _ => trivial

end Reads

theorem sentBy_answer {Request : Type} {request : Guarded Request} {accounts : Accounts}
    {routes : Option Authorization → Request → GatewayM (ApiResponse (Option Json))}
    (h : (routes request.authorization request.request).wp (fun _ => True) GatewayMove.handle
      (fun _ sent => SentBy config request.authorization sent) []) :
    SentBy config request.authorization
      (GatewayRequest.answer request routes env accounts).sent := by
  unfold GatewayRequest.answer
  split
  · exact fun m hm => absurd hm List.not_mem_nil
  · exact h.play fun _ => trivial

/-- A message on a mutating queue is caused by a request with an admin's token. -/
theorem GatewayRequest.serve_sent (request : GatewayRequest) {authEnv : Script AuthMove}
    {accounts : Accounts} :
    SentBy config request.authorization (request.serve config authEnv env accounts).sent := by
  cases request with
  | auth request => exact fun m hm => absurd hm List.not_mem_nil
  | products request => exact sentBy_answer (wp_productsRoutes _)
  | categories request => exact sentBy_answer (wp_categoriesRoutes _)
  | orders request => exact sentBy_answer (wp_reads (awaits_ordersRoutes _))

end Sent

def Token.Carries (user : User) (token : Token) : Prop :=
  ∃ secret claims, token = .signed secret claims ∧ claims.userId = user.id ∧
    claims.role = user.role

structure RolesKept (s s' : Accounts) : Prop where
  kept : ∀ user ∈ s.users.rows, ∃ user' ∈ s'.users.rows, user'.id = user.id ∧ user'.role = user.role
  admins : ∀ user' ∈ s'.users.rows, user'.role = .admin →
    ∃ user ∈ s.users.rows, user.id = user'.id ∧ user.role = .admin

section Roles

variable {config : Config} {T : Int → Prop} {V : User → Prop} {s s' s'' : Accounts}

theorem RolesKept.of_users (h : s'.users = s.users) : RolesKept s s' where
  kept user hmem := ⟨user, h ▸ hmem, rfl, rfl⟩
  admins user hmem hrole := ⟨user, h ▸ hmem, rfl, hrole⟩

theorem RolesKept.trans (h : RolesKept s s') (h' : RolesKept s' s'') : RolesKept s s'' where
  kept user hmem := by
    obtain ⟨user', hmem', hid, hrole⟩ := h.kept user hmem
    obtain ⟨user'', hmem'', hid', hrole'⟩ := h'.kept user' hmem'
    exact ⟨user'', hmem'', hid'.trans hid, hrole'.trans hrole⟩
  admins user hmem hrole := by
    obtain ⟨user', hmem', hid, hrole'⟩ := h'.admins user hmem hrole
    obtain ⟨user'', hmem'', hid', hrole''⟩ := h.admins user' hmem' hrole'
    exact ⟨user'', hmem'', hid'.trans hid, hrole''⟩

theorem Change.rolesKept (h : Change config T V s s') : RolesKept s s' := by
  cases h with
  | oauth store => exact .of_users rfl
  | @created data id users hinsert hrole hactive =>
    have hrows := (UniqueTable.insert_eq_some hinsert).1
    refine ⟨fun user hmem => ⟨user, ?_, rfl, rfl⟩, fun user hmem hadmin => ⟨user, ?_, rfl, hadmin⟩⟩
    · rw [hrows]
      exact List.mem_append_left _ hmem
    · rw [hrows] at hmem
      rcases List.mem_append.mp hmem with hmem | hmem
      · exact hmem
      · obtain rfl := List.mem_singleton.mp hmem
        cases hrole.symm.trans hadmin
  | @rewritten user' hmem' hV sub profile =>
    refine ⟨fun user hmem => ?_, fun user hmem hadmin => ?_⟩
    · by_cases huser : user.id = user'.id
      · exact ⟨_, List.mem_map.mpr ⟨user, hmem, if_pos huser⟩, rfl, rfl⟩
      · exact ⟨user, List.mem_map.mpr ⟨user, hmem, if_neg huser⟩, rfl, rfl⟩
    · obtain ⟨before, hbefore, rfl⟩ := List.mem_map.mp hmem
      refine ⟨before, hbefore, ?_⟩
      split at hadmin <;> split <;> exact ⟨rfl, hadmin⟩
  | purged userId hT => exact .of_users rfl
  | stored hinsert htoken hT hexpires => exact .of_users rfl

theorem Changes.rolesKept (h : Changes config T V s s') : RolesKept s s' := by
  induction h with
  | refl => exact .of_users rfl
  | tail _ h ih => exact ih.trans h.rolesKept

theorem RolesKept.carries (h : RolesKept s s') {token : Token}
    (htoken : ∃ user ∈ s.users.rows, token.Carries user) :
    ∃ user ∈ s'.users.rows, token.Carries user := by
  obtain ⟨user, hmem, secret, claims, htoken, hid, hrole⟩ := htoken
  obtain ⟨user', hmem', hid', hrole'⟩ := h.kept user hmem
  exact ⟨user', hmem', secret, claims, htoken, hid.trans hid'.symm, hrole.trans hrole'.symm⟩

theorem Vouched.carries {response : AuthResponse} (h : Vouched config T response s) :
    ∀ token ∈ response.tokens, ∃ user ∈ s.users.rows, token.Carries user := by
  intro token htoken
  obtain ⟨user, hmem, -, hsigned⟩ := h token htoken
  have hclaims : ∃ secret claims, token = .signed secret claims ∧
      claims.toJWTPayload = user.payload := by
    rcases hsigned with ⟨a, -, hsign⟩ | ⟨a, jti, -, hsign⟩
    all_goals exact ⟨_, Jwt.sign_ok hsign⟩
  obtain ⟨secret, claims, rfl, hpayload⟩ := hclaims
  exact ⟨user, hmem, secret, claims, rfl, congrArg JWTPayload.userId hpayload,
    congrArg JWTPayload.role hpayload⟩

variable (config) in
theorem GatewayRequest.serve_accounts (request : GatewayRequest) (authEnv : Script AuthMove)
    (env : Script GatewayMove) (s : Accounts) :
    RolesKept s (request.serve config authEnv env s).accounts ∧
      ∀ token ∈ (request.serve config authEnv env s).response.tokens,
        ∃ user ∈ (request.serve config authEnv env s).accounts.users.rows, token.Carries user := by
  cases request with
  | auth request =>
    obtain ⟨hchanges, hvouched⟩ : Changes config (fun _ => True) _ s
          (request.serve config authEnv s).2 ∧
        Vouched config (fun _ => True) (request.serve config authEnv s).1
          (request.serve config authEnv s).2 := request.serve_spec fun _ => trivial
    exact ⟨hchanges.rolesKept, hvouched.carries⟩
  | products request | categories request | orders request =>
    simp only [serve, answer]
    split <;> exact ⟨.of_users rfl, fun token htoken => absurd htoken List.not_mem_nil⟩

end Roles

/-- The accounts, and every token that a response has handed out. -/
structure Gateway where
  accounts : Accounts
  issued : List Token

structure GatewayEvent where
  request : GatewayRequest
  authEnv : Script AuthMove
  env : Script GatewayMove

def GatewayEvent.served (config : Config) (c : GatewayEvent) (g : Gateway) : Served :=
  c.request.serve config c.authEnv c.env g.accounts

def Gateway.step (config : Config) (g : Gateway) (c : GatewayEvent) : Gateway :=
  ⟨(c.served config g).accounts, g.issued ++ (c.served config g).response.tokens⟩

/-- A bearer token with the gateway's signature is one that it handed out. -/
def Unforged (config : Config) (g : Gateway) (c : GatewayEvent) : Prop :=
  ∀ claims, c.request.bearer = some (.signed config.jwtAccessSecret claims) →
    .signed config.jwtAccessSecret claims ∈ g.issued

/-- No role changes, every token carries the id and role of a user, and a mutating message is
caused by a token that an initial admin got. -/
structure Unescalated (config : Config) (s₀ : Accounts) (g : Gateway) (c : GatewayEvent) : Prop where
  roles : RolesKept g.accounts (c.served config g).accounts
  issued : ∀ token ∈ (c.served config g).response.tokens,
    ∃ user ∈ (c.served config g).accounts.users.rows, token.Carries user
  sent : ∀ m ∈ (c.served config g).sent, m.1.mutates = true →
    ∃ token, c.request.bearer = some token ∧ token ∈ g.issued ∧
      ∃ admin ∈ s₀.users.rows, admin.role = .admin ∧ token.Carries admin

section Escalation

variable {config : Config} {s₀ : Accounts} {g : Gateway} {c : GatewayEvent}

structure Gateway.Settled (s₀ : Accounts) (g : Gateway) : Prop where
  issued : ∀ token ∈ g.issued, ∃ user ∈ g.accounts.users.rows, token.Carries user
  admins : ∀ user ∈ g.accounts.users.rows, user.role = .admin →
    ∃ admin ∈ s₀.users.rows, admin.id = user.id ∧ admin.role = .admin

theorem Gateway.Settled.step (h : g.Settled s₀) : (g.step config c).Settled s₀ := by
  obtain ⟨hroles, hissued⟩ := c.request.serve_accounts config c.authEnv c.env g.accounts
  refine ⟨fun token htoken => ?_, fun user hmem hrole => ?_⟩
  · rcases List.mem_append.mp htoken with htoken | htoken
    · exact hroles.carries (h.issued token htoken)
    · exact hissued token htoken
  · obtain ⟨user', hmem', hid, hrole'⟩ := hroles.admins user hmem hrole
    obtain ⟨admin, hadmin, hid', hrole''⟩ := h.admins user' hmem' hrole'
    exact ⟨admin, hadmin, hid'.trans hid, hrole''⟩

theorem bearer_of_authorised {request : GatewayRequest}
    (h : Authorised config request.authorization) : ∃ claims,
      request.bearer = some (.signed config.jwtAccessSecret claims) ∧ claims.role = .admin := by
  obtain ⟨claims, hheader, hrole⟩ := h
  exact ⟨claims, by rw [GatewayRequest.bearer, hheader], hrole⟩

theorem unescalated_step (h : g.Settled s₀) (hc : Unforged config g c) :
    Unescalated config s₀ g c := by
  obtain ⟨hroles, hissued⟩ := c.request.serve_accounts config c.authEnv c.env g.accounts
  refine ⟨hroles, hissued, fun m hm hmutates => ?_⟩
  obtain ⟨claims, hbearer, hrole⟩ := bearer_of_authorised (c.request.serve_sent m hm hmutates)
  have htoken := hc claims hbearer
  obtain ⟨user, hmem, secret, claims', hsame, hid, hrole'⟩ := h.issued _ htoken
  obtain ⟨rfl, rfl⟩ := Token.signed.inj hsame
  obtain ⟨admin, hadmin, hid', hrole''⟩ := h.admins user hmem (hrole'.symm.trans hrole)
  exact ⟨_, hbearer, htoken, admin, hadmin, hrole'', _, _, rfl, hid.trans hid'.symm,
    hrole.trans hrole''.symm⟩

end Escalation

/-- Where no signature is forged, no request of a run escalates a privilege. -/
theorem no_escalation (config : Config) (s₀ : Accounts) {cs : List GatewayEvent}
    (hunforged : Runs.Along (Gateway.step config) (Unforged config) ⟨s₀, []⟩ cs) :
    Runs.Along (Gateway.step config) (Unescalated config s₀) ⟨s₀, []⟩ cs := by
  refine Runs.along_of_invariant (J := Gateway.Settled s₀) (fun g c h hc => unescalated_step h hc)
    (fun g c h _ => h.step) ⟨?_, ?_⟩ hunforged
  · exact fun token htoken => absurd htoken List.not_mem_nil
  · exact fun user hmem hrole => ⟨user, hmem, rfl, hrole⟩

section Example

private def serving : Config :=
  .ofSecrets "access-secret-of-32-characters--" "refresh-secret-of-32-characters-"

private def staff : Accounts :=
  { Accounts.empty with
    users :=
      { rows := [⟨"a", "admin@b.co", some "h", none, none, .admin, .local, none, true, true⟩]
        nodup := by decide
        alt_nodup := by decide } }

private def adminToken : Token :=
  .signed serving.jwtAccessSecret ⟨⟨"a", "admin@b.co", .admin⟩, none, 1, 901⟩

private def answering : Script GatewayMove := fun _ =>
  ⟨2000, .sent (.ok (.obj [("success", .bool true)])), .ok .null⟩

private def loggingIn : GatewayEvent :=
  ⟨.auth (.login (.ok ⟨"admin@b.co", "password"⟩)), fun _ => .smooth "r" 1000, answering⟩

private def mugData : Json :=
  .obj [("sku", .str "m-1"), ("name", .str "Mug"), ("slug", .str "mug"), ("price", .num (.ofNat 12)),
    ("categoryId", .str "7c9e6679-7425-40de-944b-e07fc1f90ae7")]

private def creating : GatewayEvent :=
  ⟨.products ⟨some (.bearer adminToken), none, .create (.ok mugData)⟩,
    fun _ => .smooth "r" 2000, answering⟩

/-- The admin logs in, and creates a product. -/
theorem no_escalation_creating :
    (creating.served serving (Gateway.step serving ⟨staff, []⟩ loggingIn)).sent.map Prod.fst =
        [.productCreate] ∧
      Runs.Along (Gateway.step serving) (Unescalated serving staff) ⟨staff, []⟩
        [loggingIn, creating] := by
  refine ⟨by decide +kernel, no_escalation serving staff ⟨?_, ?_, trivial⟩⟩
  · intro claims hbearer
    cases hbearer
  · intro claims hbearer
    obtain ⟨-, rfl⟩ := Token.signed.inj (Option.some.inj hbearer)
    decide +kernel

end Example

end Ecommerce
