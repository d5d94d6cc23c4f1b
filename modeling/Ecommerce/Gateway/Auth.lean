import Ecommerce.Gateway.Accounts
import Ecommerce.Shared.Http

/-! The authentication routes. -/

namespace Ecommerce

structure RegisterBody where
  email : String
  password : String
  firstName : Option String
  lastName : Option String

structure LoginBody where
  email : String
  password : String

/-- The `user` of a response; only the OAuth callback reports the provider. -/
structure UserView where
  id : String
  email : String
  firstName : Option String
  lastName : Option String
  role : UserRole
  provider : Option AuthProvider := none
  deriving DecidableEq

def User.view (user : User) : UserView :=
  { id := user.id, email := user.email, firstName := user.firstName, lastName := user.lastName
    role := user.role }

/-- The `data` of a response: a session, or a new access token. -/
inductive AuthData
  | session (user : UserView) (accessToken refreshToken : Token)
  | accessToken (token : Token)

inductive AuthResponse
  | json (body : ApiResponse AuthData)
  | redirect (location : String) (params : List (String × String))

def truthy (s : Option String) : Option String := s.filter (· ≠ "")

namespace AuthRoutes

def oauthStateTtlMs : Int := 10 * 60 * 1000

/-- The life of a stored refresh token, in milliseconds. -/
def storedLifetime : Int := 7 * 24 * 60 * 60 * 1000

def generateAccessToken (config : Config) (payload : JWTPayload) : AuthM Token := do
  let now ← .perform AuthOp.dateNow
  Prog.settle (Jwt.sign payload none config.jwtAccessSecret config.jwtAccessExpiry now)

def generateRefreshToken (config : Config) (payload : JWTPayload) : AuthM Token := do
  let jti ← .perform AuthOp.randomBytes
  let now ← .perform AuthOp.dateNow
  Prog.settle (Jwt.sign payload (some jti) config.jwtRefreshSecret config.jwtRefreshExpiry now)

def storeRefreshToken (token : Token) (userId : String) : AuthM Unit := do
  let now ← .perform AuthOp.dateNow
  .perform (AuthOp.createRefreshToken { token, userId, expiresAt := now + storedLifetime })

def replaceRefreshToken (token : Token) (userId : String) : AuthM Unit := do
  let now ← .perform AuthOp.dateNow
  .perform (AuthOp.deleteExpired userId now)
  storeRefreshToken token userId

/-- The `catch` block: some errors are thrown again, the others are a 500. -/
def guarded (rethrown : List ErrorClass) (fallback : String) (body : AuthM AuthResponse) :
    AuthM AuthResponse :=
  Prog.tryCatch body fun err =>
    if rethrown.any err.isInstance then throw err
    else pure (.json (.failure 500 (orFallback err.message fallback)))

def google (config : Config) : AuthM AuthResponse :=
  match truthy config.googleClientId, truthy config.googleCallbackUrl with
  | some clientId, some callbackUrl => do
    let state ← .perform AuthOp.randomBytes
    let now ← .perform AuthOp.dateNow
    .perform (AuthOp.setState state (now + oauthStateTtlMs))
    pure (.redirect "https://accounts.google.com/o/oauth2/v2/auth"
      [("client_id", clientId), ("redirect_uri", callbackUrl), ("response_type", "code"),
        ("scope", "openid email profile"), ("access_type", "offline"), ("prompt", "consent"),
        ("state", state)])
  | _, _ => throw (.badRequest "Google OAuth is not configured")

def checkState (state : String) : AuthM Unit := do
  let expiresAt ← .perform (AuthOp.getState state)
  .perform (AuthOp.deleteState state)
  match expiresAt.filter (· ≠ 0) with
  | none => throw (.badRequest "Invalid or expired OAuth state")
  | some expiresAt => do
    let now ← .perform AuthOp.dateNow
    if expiresAt < now then throw (.badRequest "Invalid or expired OAuth state")

/-- The profile behind a code: its `sub`, its `email` and its names. -/
def fetchProfile (code : String) : AuthM (String × String × GoogleProfile) := do
  let accessToken ← .perform (AuthOp.exchangeCode code)
  match truthy accessToken with
  | none => throw (.app .unauthorized "Failed to obtain Google access token")
  | some accessToken => do
    let profile ← .perform (AuthOp.userInfo accessToken)
    match truthy profile.sub, truthy profile.email with
    | some sub, some email => pure (sub, email, profile)
    | _, _ => throw (.app .unauthorized "Google profile missing sub/email")

def googleUpdate (sub : String) (profile : GoogleProfile) : UserUpdate where
  provider := .google
  providerId := some sub
  emailVerified := true
  firstName := profile.givenName
  lastName := profile.familyName
  isActive := true

def googleUser (sub email : String) (profile : GoogleProfile) : NewUser where
  email
  passwordHash := none
  firstName := profile.givenName
  lastName := profile.familyName
  role := .user
  provider := .google
  providerId := some sub
  emailVerified := true
  isActive := true

def googleConfigured (config : Config) : Bool :=
  (truthy config.googleClientId).isSome && (truthy config.googleClientSecret).isSome &&
    (truthy config.googleCallbackUrl).isSome

def signIn (config : Config) (sub email : String) (profile : GoogleProfile) :
    AuthM AuthResponse := do
  let user ← .perform
    (AuthOp.upsertUser email (googleUpdate sub profile) (googleUser sub email profile))
  let accessToken ← generateAccessToken config user.payload
  let refreshToken ← generateRefreshToken config user.payload
  storeRefreshToken refreshToken user.id
  pure (.json (.success 200 "OAuth login successful"
    (.session { user.view with provider := some user.provider } accessToken refreshToken)))

def callback (config : Config) (code state : Option String) : AuthM AuthResponse :=
  match truthy code, truthy state with
  | some code, some state => do
    checkState state
    if googleConfigured config = false then
      throw (.badRequest "Google OAuth is not configured")
    let (sub, email, profile) ← fetchProfile code
    signIn config sub email profile
  | _, _ => throw (.badRequest "Missing OAuth code/state")

/-- `body` is what the schema makes of the request's body. -/
def register (config : Config) (body : Except Error RegisterBody) : AuthM AuthResponse :=
  guarded [.conflict, .badRequest] "Registration failed" do
    let body ← Prog.settle body
    let existingUser ← .perform (AuthOp.findUserByEmail body.email)
    if existingUser.isSome then throw (.app .conflict "Email already registered")
    let passwordHash ← .perform (AuthOp.argonHash body.password)
    let user ← .perform (AuthOp.createUser
      { email := body.email
        passwordHash := some passwordHash
        firstName := body.firstName
        lastName := body.lastName
        role := .user
        provider := .local })
    let accessToken ← generateAccessToken config user.payload
    let refreshToken ← generateRefreshToken config user.payload
    storeRefreshToken refreshToken user.id
    pure (.json (.success 201 "User registered successfully"
      (.session user.view accessToken refreshToken)))

/-- An empty hash is as good as none. -/
def login (config : Config) (body : Except Error LoginBody) : AuthM AuthResponse :=
  guarded [.unauthorized] "Login failed" do
    let body ← Prog.settle body
    let found ← .perform (AuthOp.findUserByEmail body.email)
    match found, truthy (found.bind User.passwordHash) with
    | some user, some passwordHash => do
      let isValidPassword ← .perform (AuthOp.argonVerify passwordHash body.password)
      if isValidPassword = false then throw (.app .unauthorized "Invalid credentials")
      if user.isActive = false then throw (.app .unauthorized "Account is disabled")
      let accessToken ← generateAccessToken config user.payload
      let refreshToken ← generateRefreshToken config user.payload
      replaceRefreshToken refreshToken user.id
      pure (.json (.success 200 "Login successful"
        (.session user.view accessToken refreshToken)))
    | _, _ => throw (.app .unauthorized "Invalid credentials")

def renew (config : Config) (refreshToken : Token) : AuthM AuthResponse := do
  let now ← .perform AuthOp.dateNow
  match Jwt.verify config.jwtRefreshSecret now refreshToken with
  | .error _ => throw (.app .unauthorized "Invalid or expired refresh token")
  | .ok payload => do
    let storedToken ← .perform (AuthOp.findRefreshToken refreshToken)
    match storedToken with
    | none => throw (.app .unauthorized "Invalid or expired refresh token")
    | some storedToken => do
      let now ← .perform AuthOp.dateNow
      if storedToken.expiresAt < now then
        throw (.app .unauthorized "Invalid or expired refresh token")
      let found ← .perform (AuthOp.findUserById payload.userId)
      match found.filter User.isActive with
      | none => throw (.app .unauthorized "User not found or inactive")
      | some user => do
        let newAccessToken ← generateAccessToken config user.payload
        pure (.json (.success 200 "Token refreshed successfully" (.accessToken newAccessToken)))

def refresh (config : Config) (body : Except Error Token) : AuthM AuthResponse :=
  guarded [.unauthorized, .badRequest] "Token refresh failed" do
    let refreshToken ← Prog.settle body
    renew config refreshToken

end AuthRoutes

inductive AuthRequest
  | google
  | callback (code state : Option String)
  | register (body : Except Error RegisterBody)
  | login (body : Except Error LoginBody)
  | refresh (body : Except Error Token)

namespace AuthRequest

def handler (config : Config) : AuthRequest → AuthM AuthResponse
  | .google => AuthRoutes.google config
  | .callback code state => AuthRoutes.callback config code state
  | .register body => AuthRoutes.register config body
  | .login body => AuthRoutes.login config body
  | .refresh body => AuthRoutes.refresh config body

def send : Except Error AuthResponse → AuthResponse
  | .ok response => response
  | .error error => .json (errorHandler error)

/-- The response to a request, and the tables it leaves. -/
def serve (config : Config) (request : AuthRequest) (env : Script AuthMove) (s : Accounts) :
    AuthResponse × Accounts :=
  (send ((request.handler config).play Accounts.handle env s).1,
    ((request.handler config).play Accounts.handle env s).2)

end AuthRequest

end Ecommerce
