import Ecommerce.Gateway.Session
import Ecommerce.Lib.EventLoop

/-! The authentication routes on several gateway workers, whose requests interleave wherever they
await something. -/

namespace Ecommerce

open AuthRoutes

/-- These return at once; the others suspend their task. -/
def AuthOp.sync : AuthOp → Bool
  | .dateNow => true
  | .randomBytes => true
  | .getState _ => true
  | .setState _ _ => true
  | .deleteState _ => true
  | _ => false

/-- The tables are shared; each worker process has its own `oauthStateStore`. -/
structure Workers where
  users : UserTable
  refreshTokens : RefreshTokenTable
  oauthStateStore : Nat → String → Option Int

structure Routed where
  worker : Nat
  request : AuthRequest

abbrev WorkerLoop := EventLoop Routed AuthOp AuthOp.Res Error AuthResponse Workers

abbrev WorkerEvent := LoopEvent Routed AuthMove

abbrev AuthDoings := List (Performed AuthOp AuthOp.Res Error)

abbrev AuthLog := List (Nat × Performed AuthOp AuthOp.Res Error)

namespace Workers

def accounts (s : Workers) (w : Nat) : Accounts := ⟨s.users, s.refreshTokens, s.oauthStateStore w⟩

def handle (a : Routed) (c : AuthMove) : Handler AuthOp AuthOp.Res Error Workers := fun op s =>
  let r := Accounts.handle c op (s.accounts a.worker)
  (r.1, ⟨r.2.users, r.2.refreshTokens,
    Function.update s.oauthStateStore a.worker r.2.oauthStateStore⟩)

def put (s : Workers) (w : Nat) (state : String) (expiresAt : Option Int) : Workers :=
  { s with oauthStateStore :=
      Function.update s.oauthStateStore w (Function.update (s.oauthStateStore w) state expiresAt) }

def fresh (users : UserTable) (refreshTokens : RefreshTokenTable) : Workers :=
  ⟨users, refreshTokens, fun _ _ => none⟩

/-- Requests arrive at the workers, and are resumed, in any order. -/
def step (config : Config) : WorkerLoop → WorkerEvent → WorkerLoop :=
  EventLoop.step AuthOp.sync handle fun a => a.request.handler config

def run (config : Config) (users : UserTable) (refreshTokens : RefreshTokenTable)
    (events : List WorkerEvent) : WorkerLoop :=
  events.foldl (step config) (.idle (.fresh users refreshTokens))

/-- A request that has its worker to itself is answered as `serve` answers it. -/
theorem exists_served (config : Config) (users : UserTable) (refreshTokens : RefreshTokenTable)
    (request : AuthRequest) (env : Script AuthMove) :
    ∃ events q, (run config users refreshTokens events).tasks = [(⟨0, request⟩, q)] ∧
      q.settlement = some ((request.handler config).play Accounts.handle env
        ⟨users, refreshTokens, fun _ => none⟩).1 := by
  have hview : (request.handler config).play Accounts.handle env
      ((fresh users refreshTokens).accounts 0) = _ :=
    Prog.play_view (h := handle ⟨0, request⟩) (f := fun s => s.accounts 0) (g := id)
      (fun c op s => by simp [handle, accounts]) env _ _
  have hsettlement := congrArg some (congrArg Prod.fst hview).symm
  obtain ⟨events, q, htasks, hsettled, -⟩ := @EventLoop.exists_alone _ _ _ _ _ _ _ AuthOp.sync handle
    (fun a => a.request.handler config) ⟨0, request⟩ env (fresh users refreshTokens)
  exact ⟨events, q, htasks, hsettled.trans hsettlement⟩

end Workers

def AuthResponse.accessTokens : AuthResponse → List Token
  | .json ⟨_, _, some (.session _ accessToken _), _⟩ => [accessToken]
  | .json ⟨_, _, some (.accessToken token), _⟩ => [token]
  | _ => []

structure AuthResponse.Minted (config : Config) (response : AuthResponse) : Prop where
  access : ∀ token ∈ response.accessTokens,
    ∃ payload, AccessFor config (fun _ => True) payload token
  refresh : ∀ token, response.refreshToken? = some token →
    ∃ payload, RefreshFor config (fun _ => True) payload token

theorem AuthResponse.minted_of_no_tokens {config : Config} {response : AuthResponse}
    (haccess : response.accessTokens = []) (hrefresh : response.refreshToken? = none) :
    response.Minted config where
  access token htoken := by
    rw [haccess] at htoken
    cases htoken
  refresh token htoken := by
    rw [hrefresh] at htoken
    cases htoken

structure AuthResponse.MintedFor (config : Config) (payload : JWTPayload) (response : AuthResponse) :
    Prop where
  access : ∀ token ∈ response.accessTokens, AccessFor config (fun _ => True) payload token
  refresh : ∀ token, response.refreshToken? = some token →
    RefreshFor config (fun _ => True) payload token

theorem AuthResponse.MintedFor.minted {config : Config} {payload : JWTPayload}
    {response : AuthResponse} (h : response.MintedFor config payload) : response.Minted config :=
  ⟨fun token htoken => ⟨payload, h.access token htoken⟩,
    fun token htoken => ⟨payload, h.refresh token htoken⟩⟩

/-- The operations that neither store a refresh token nor touch the OAuth states. -/
def AuthOp.Plain : AuthOp → Prop
  | .createRefreshToken _ => False
  | .setState _ _ => False
  | .deleteState _ => False
  | _ => True

/-- `P` has the operations of the routes but those on the OAuth states; a refresh token is stored
only as its generator returned it. -/
structure Allows (config : Config) (P : AuthOp → Prop) : Prop where
  plain : ∀ op, op.Plain → P op
  store : ∀ data payload, RefreshFor config (fun _ => True) payload data.token →
    P (.createRefreshToken data)

section Meets

variable {config : Config} {P : AuthOp → Prop} (hP : Allows config P)
include hP

theorem meets_generateAccessToken (payload : JWTPayload) :
    (generateAccessToken config payload).Meets P (AccessFor config (fun _ => True) payload) := by
  apply Prog.meets_perform_bind (hP.plain .dateNow trivial)
  exact fun now => Prog.meets_settle fun token htoken => ⟨now, trivial, htoken⟩

theorem meets_generateRefreshToken (payload : JWTPayload) :
    (generateRefreshToken config payload).Meets P (RefreshFor config (fun _ => True) payload) := by
  apply Prog.meets_perform_bind (hP.plain .randomBytes trivial)
  intro jti
  apply Prog.meets_perform_bind (hP.plain .dateNow trivial)
  exact fun now => Prog.meets_settle fun token htoken => ⟨now, jti, trivial, htoken⟩

theorem meets_storeRefreshToken {payload : JWTPayload} {token : Token}
    (htoken : RefreshFor config (fun _ => True) payload token) (userId : String) :
    (storeRefreshToken token userId).Meets P fun _ => True := by
  apply Prog.meets_perform_bind (hP.plain .dateNow trivial)
  exact fun now => Prog.meets_perform (hP.store _ payload htoken)

theorem meets_replaceRefreshToken {payload : JWTPayload} {token : Token}
    (htoken : RefreshFor config (fun _ => True) payload token) (userId : String) :
    (replaceRefreshToken token userId).Meets P fun _ => True := by
  apply Prog.meets_perform_bind (hP.plain .dateNow trivial)
  intro now
  apply Prog.meets_perform_bind (hP.plain (.deleteExpired userId now) trivial)
  exact fun _ => meets_storeRefreshToken hP htoken userId

theorem meets_session {payload : JWTPayload} {keep : Token → AuthM Unit}
    (hkeep : ∀ token, RefreshFor config (fun _ => True) payload token →
      (keep token).Meets P fun _ => True) (view : UserView) (status : Nat) (message : String) :
    (do
      let accessToken ← generateAccessToken config payload
      let refreshToken ← generateRefreshToken config payload
      keep refreshToken
      pure (.json (.success status message (.session view accessToken refreshToken)))
      : AuthM AuthResponse).Meets P (AuthResponse.MintedFor config payload) := by
  apply (meets_generateAccessToken hP payload).bind
  intro accessToken haccess
  apply (meets_generateRefreshToken hP payload).bind
  intro refreshToken hrefresh
  apply (hkeep refreshToken hrefresh).bind
  intro _ _
  refine Prog.meets_pure ⟨fun token htoken => ?_, fun token htoken => ?_⟩
  · obtain rfl := List.mem_singleton.mp htoken
    exact haccess
  · obtain rfl := Option.some.inj htoken
    exact hrefresh

theorem meets_verified (user : User) (passwordHash password : String) :
    (do
      let isValidPassword ← .perform (AuthOp.argonVerify passwordHash password)
      if isValidPassword = false then throw (.app .unauthorized "Invalid credentials")
      if user.isActive = false then throw (.app .unauthorized "Account is disabled")
      let accessToken ← generateAccessToken config user.payload
      let refreshToken ← generateRefreshToken config user.payload
      replaceRefreshToken refreshToken user.id
      pure (.json (.success 200 "Login successful" (.session user.view accessToken refreshToken)))
      : AuthM AuthResponse).Meets P (AuthResponse.MintedFor config user.payload) := by
  apply Prog.meets_perform_bind (hP.plain (.argonVerify passwordHash password) trivial)
  intro isValidPassword
  cases isValidPassword with
  | false => exact Prog.meets_throw _
  | true =>
    cases user.isActive with
    | false => exact Prog.meets_throw _
    | true => exact meets_session hP (fun _ htoken => meets_replaceRefreshToken hP htoken user.id) _ _ _

theorem meets_renewed (payload : JWTPayload) :
    (do
      let newAccessToken ← generateAccessToken config payload
      pure (.json (.success 200 "Token refreshed successfully" (.accessToken newAccessToken)))
      : AuthM AuthResponse).Meets P (AuthResponse.MintedFor config payload) := by
  apply (meets_generateAccessToken hP payload).bind
  intro newAccessToken haccess
  refine Prog.meets_pure ⟨fun token htoken => ?_, fun token htoken => ?_⟩
  · obtain rfl := List.mem_singleton.mp htoken
    exact haccess
  · cases htoken

omit hP in
theorem meets_guarded {rethrown : List ErrorClass} {fallback : String} {body : AuthM AuthResponse}
    (hbody : body.Meets P (AuthResponse.Minted config)) :
    (guarded rethrown fallback body).Meets P (AuthResponse.Minted config) := by
  apply hbody.tryCatch
  intro err
  split
  · exact Prog.meets_throw _
  · exact Prog.meets_pure (AuthResponse.minted_of_no_tokens rfl rfl)

theorem meets_register (body : Except Error RegisterBody) :
    (register config body).Meets P (AuthResponse.Minted config) := by
  apply meets_guarded
  apply (Prog.meets_settle (fun _ _ => trivial)).bind (R := fun _ => True)
  intro body _
  apply Prog.meets_perform_bind (hP.plain (.findUserByEmail body.email) trivial)
  intro existingUser
  split
  · exact Prog.meets_throw _
  · apply Prog.meets_perform_bind (hP.plain (.argonHash body.password) trivial)
    intro passwordHash
    apply Prog.meets_perform_bind (hP.plain (.createUser _) trivial)
    intro user
    apply (meets_session hP (fun _ htoken => meets_storeRefreshToken hP htoken user.id) _ _ _).mono
    exact fun _ => AuthResponse.MintedFor.minted

theorem meets_login (body : Except Error LoginBody) :
    (login config body).Meets P (AuthResponse.Minted config) := by
  apply meets_guarded
  apply (Prog.meets_settle (fun _ _ => trivial)).bind (R := fun _ => True)
  intro body _
  apply Prog.meets_perform_bind (hP.plain (.findUserByEmail body.email) trivial)
  intro found
  split
  · next user passwordHash _ =>
    apply (meets_verified hP user passwordHash body.password).mono
    exact fun _ => AuthResponse.MintedFor.minted
  · exact Prog.meets_throw _

theorem meets_refresh (body : Except Error Token) :
    (refresh config body).Meets P (AuthResponse.Minted config) := by
  apply meets_guarded
  apply (Prog.meets_settle (fun _ _ => trivial)).bind (R := fun _ => True)
  intro refreshToken _
  apply Prog.meets_perform_bind (hP.plain .dateNow trivial)
  intro now
  split
  · exact Prog.meets_throw _
  · next payload _ =>
    apply Prog.meets_perform_bind (hP.plain (.findRefreshToken refreshToken) trivial)
    intro storedToken
    split
    · exact Prog.meets_throw _
    · apply Prog.meets_perform_bind (hP.plain .dateNow trivial)
      intro now
      split
      · exact Prog.meets_throw _
      · apply Prog.meets_perform_bind (hP.plain (.findUserById payload.userId) trivial)
        intro found
        split
        · exact Prog.meets_throw _
        · next user _ =>
          exact (meets_renewed hP user.payload).mono fun _ => AuthResponse.MintedFor.minted

theorem meets_fetchProfile (code : String) : (fetchProfile code).Meets P fun _ => True := by
  apply Prog.meets_perform_bind (hP.plain (.exchangeCode code) trivial)
  intro accessToken
  split
  · exact Prog.meets_throw _
  · next accessToken _ =>
    apply Prog.meets_perform_bind (hP.plain (.userInfo accessToken) trivial)
    intro profile
    split
    · exact Prog.meets_pure trivial
    · exact Prog.meets_throw _

def signingIn (config : Config) (code : String) : AuthM AuthResponse := do
  if googleConfigured config = false then
    throw (.badRequest "Google OAuth is not configured")
  let (sub, email, profile) ← fetchProfile code
  signIn config sub email profile

theorem meets_signingIn (code : String) :
    (signingIn config code).Meets P (AuthResponse.Minted config) := by
  unfold signingIn
  split
  · exact Prog.meets_throw _
  · apply (meets_fetchProfile hP code).bind
    rintro ⟨sub, email, profile⟩ -
    apply Prog.meets_perform_bind (hP.plain (.upsertUser email _ _) trivial)
    intro user
    apply (meets_session hP (fun _ htoken => meets_storeRefreshToken hP htoken user.id) _ _ _).mono
    exact fun _ => AuthResponse.MintedFor.minted

theorem meets_handler (hstates : ∀ op, (∀ data, op ≠ .createRefreshToken data) → P op)
    (request : AuthRequest) :
    (request.handler config).Meets P (AuthResponse.Minted config) := by
  cases request with
  | google =>
    rw [AuthRequest.handler, google]
    split
    · apply Prog.meets_perform_bind (hP.plain .randomBytes trivial)
      intro state
      apply Prog.meets_perform_bind (hP.plain .dateNow trivial)
      intro now
      apply Prog.meets_perform_bind (hstates (.setState state _) fun _ h => by cases h)
      intro _
      exact Prog.meets_pure (AuthResponse.minted_of_no_tokens rfl rfl)
    · exact Prog.meets_throw _
  | callback code state =>
    rw [AuthRequest.handler, callback]
    split
    · next code state _ _ =>
      have hcheck : (checkState state).Meets P fun _ => True := by
        apply Prog.meets_perform_bind (hP.plain (.getState state) trivial)
        intro expiresAt
        apply Prog.meets_perform_bind (hstates (.deleteState state) fun _ h => by cases h)
        intro _
        split
        · exact Prog.meets_throw _
        · apply Prog.meets_perform_bind (hP.plain .dateNow trivial)
          intro now
          split
          · exact Prog.meets_throw _
          · exact Prog.meets_pure trivial
      exact hcheck.bind fun _ _ => meets_signingIn hP code
    · exact Prog.meets_throw _
  | register body => exact meets_register hP body
  | login body => exact meets_login hP body
  | refresh body => exact meets_refresh hP body

end Meets

end Ecommerce
