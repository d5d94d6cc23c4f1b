import Ecommerce.Gateway.Jwt
import Ecommerce.Lib.Async
import Ecommerce.Lib.Table

namespace Ecommerce

inductive AuthProvider
  | local
  | google
  deriving DecidableEq, Repr

structure User where
  id : String
  email : String
  passwordHash : Option String
  firstName : Option String
  lastName : Option String
  role : UserRole
  provider : AuthProvider
  providerId : Option String
  isActive : Bool
  emailVerified : Bool
  deriving DecidableEq, Repr

def User.payload (user : User) : JWTPayload := ⟨user.id, user.email, user.role⟩

structure RefreshToken where
  id : String
  token : Token
  userId : String
  expiresAt : Int
  deriving DecidableEq, Repr

abbrev UserTable := UniqueTable User.id User.email

abbrev RefreshTokenTable := UniqueTable RefreshToken.id RefreshToken.token

/-- The `data` of `prisma.user.create`; what it leaves out gets the default of its column. -/
structure NewUser where
  email : String
  passwordHash : Option String
  firstName : Option String
  lastName : Option String
  role : UserRole
  provider : AuthProvider
  providerId : Option String := none
  isActive : Bool := true
  emailVerified : Bool := false

def NewUser.row (data : NewUser) (id : String) : User where
  id
  email := data.email
  passwordHash := data.passwordHash
  firstName := data.firstName
  lastName := data.lastName
  role := data.role
  provider := data.provider
  providerId := data.providerId
  isActive := data.isActive
  emailVerified := data.emailVerified

/-- The `update` of `prisma.user.upsert`; a name that is undefined is left as it is. -/
structure UserUpdate where
  provider : AuthProvider
  providerId : Option String
  emailVerified : Bool
  firstName : Option String
  lastName : Option String
  isActive : Bool

def UserUpdate.apply (data : UserUpdate) (user : User) : User :=
  { user with
    provider := data.provider
    providerId := data.providerId
    emailVerified := data.emailVerified
    firstName := data.firstName <|> user.firstName
    lastName := data.lastName <|> user.lastName
    isActive := data.isActive }

structure NewRefreshToken where
  token : Token
  userId : String
  expiresAt : Int

structure GoogleProfile where
  sub : Option String
  email : Option String
  givenName : Option String
  familyName : Option String

/-- Statements on the two tables, the clock, random bytes, argon2, Google, and the map of pending
OAuth states. -/
inductive AuthOp
  | findUserByEmail (email : String)
  | findUserById (id : String)
  | createUser (data : NewUser)
  | upsertUser (email : String) (update : UserUpdate) (create : NewUser)
  | createRefreshToken (data : NewRefreshToken)
  | findRefreshToken (token : Token)
  | deleteExpired (userId : String) (before : Int)
  | dateNow
  | randomBytes
  | argonHash (password : String)
  | argonVerify (hash password : String)
  | exchangeCode (code : String)
  | userInfo (accessToken : String)
  | getState (state : String)
  | setState (state : String) (expiresAt : Int)
  | deleteState (state : String)

abbrev AuthOp.Res : AuthOp → Type
  | .findUserByEmail _ => Option User
  | .findUserById _ => Option User
  | .createUser _ => User
  | .upsertUser _ _ _ => User
  | .createRefreshToken _ => Unit
  | .findRefreshToken _ => Option RefreshToken
  | .deleteExpired _ _ => Unit
  | .dateNow => Int
  | .randomBytes => String
  | .argonHash _ => String
  | .argonVerify _ _ => Bool
  | .exchangeCode _ => Option String
  | .userInfo _ => GoogleProfile
  | .getState _ => Option Int
  | .setState _ _ => Unit
  | .deleteState _ => Unit

abbrev AuthM := Prog AuthOp AuthOp.Res Error

inductive DbMove
  | accept
  | reject (message : String)
  | lost (message : String)

/-- The environment's move at one operation; `newId` is the next `uuidv4()`. -/
structure AuthMove where
  db : DbMove
  newId : String
  now : Int
  random : String
  hash : Except Error String
  verified : Except Error Bool
  accessToken : Except Error (Option String)
  profile : Except Error GoogleProfile

/-- A move at which everything goes through, with nobody signed in at Google. -/
def AuthMove.smooth (newId : String) (now : Int) : AuthMove where
  db := .accept
  newId
  now
  random := newId
  hash := .ok newId
  verified := .ok true
  accessToken := .ok none
  profile := .ok ⟨none, none, none, none⟩

structure Accounts where
  users : UserTable
  refreshTokens : RefreshTokenTable
  oauthStateStore : String → Option Int

def Accounts.empty : Accounts := ⟨.empty, .empty, fun _ => none⟩

namespace Accounts

def uniqueViolation : Error := .plain "Unique constraint failed"

def foreignKeyViolation : Error := .plain "Foreign key constraint violated"

def statement {α : Type} (db : DbMove) (r : Except Error α × Accounts) (s : Accounts) :
    Except Error α × Accounts :=
  match db with
  | .accept => r
  | .reject m => (.error (.plain m), s)
  | .lost m => (.error (.plain m), r.2)

def createUser (data : NewUser) (id : String) (s : Accounts) : Except Error User × Accounts :=
  match s.users.insert (data.row id) with
  | none => (.error uniqueViolation, s)
  | some users => (.ok (data.row id), { s with users })

def updateUser (id : String) (data : UserUpdate) (s : Accounts) : Accounts :=
  { s with users := s.users.modify id data.apply (fun _ => rfl) fun _ => rfl }

def upsertUser (email : String) (update : UserUpdate) (create : NewUser) (id : String)
    (s : Accounts) : Except Error User × Accounts :=
  match s.users.findBy? email with
  | some user => (.ok (update.apply user), s.updateUser user.id update)
  | none => s.createUser create id

def createRefreshToken (data : NewRefreshToken) (id : String) (s : Accounts) :
    Except Error Unit × Accounts :=
  match s.users.find? data.userId with
  | none => (.error foreignKeyViolation, s)
  | some _ =>
    match s.refreshTokens.insert ⟨id, data.token, data.userId, data.expiresAt⟩ with
    | none => (.error uniqueViolation, s)
    | some refreshTokens => (.ok (), { s with refreshTokens })

def deleteExpired (userId : String) (before : Int) (s : Accounts) : Accounts :=
  { s with refreshTokens :=
      s.refreshTokens.filter fun row => ¬(row.userId = userId ∧ row.expiresAt < before) }

def handle (c : AuthMove) : Handler AuthOp AuthOp.Res Error Accounts
  | .findUserByEmail email, s => statement c.db (.ok (s.users.findBy? email), s) s
  | .findUserById id, s => statement c.db (.ok (s.users.find? id), s) s
  | .createUser data, s => statement c.db (s.createUser data c.newId) s
  | .upsertUser email update create, s =>
    statement c.db (s.upsertUser email update create c.newId) s
  | .createRefreshToken data, s => statement c.db (s.createRefreshToken data c.newId) s
  | .findRefreshToken token, s => statement c.db (.ok (s.refreshTokens.findBy? token), s) s
  | .deleteExpired userId before, s => statement c.db (.ok (), s.deleteExpired userId before) s
  | .dateNow, s => (.ok c.now, s)
  | .randomBytes, s => (.ok c.random, s)
  | .argonHash _, s => (c.hash, s)
  | .argonVerify _ _, s => (c.verified, s)
  | .exchangeCode _, s => (c.accessToken, s)
  | .userInfo _, s => (c.profile, s)
  | .getState state, s => (.ok (s.oauthStateStore state), s)
  | .setState state expiresAt, s =>
    (.ok (), { s with oauthStateStore := Function.update s.oauthStateStore state (some expiresAt) })
  | .deleteState state, s =>
    (.ok (), { s with oauthStateStore := Function.update s.oauthStateStore state none })

end Accounts

end Ecommerce
