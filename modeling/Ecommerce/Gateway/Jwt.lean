import Ecommerce.Shared.Errors
import Mathlib.Algebra.Order.Floor.Defs
import Mathlib.Data.Rat.Floor

namespace Ecommerce

inductive UserRole
  | admin
  | user
  | guest
  deriving DecidableEq, Repr

structure JWTPayload where
  userId : String
  email : String
  role : UserRole
  deriving DecidableEq, Repr

/-- `iat` and `exp` are in seconds. -/
structure Claims extends JWTPayload where
  jti : Option String
  iat : Int
  exp : Int
  deriving DecidableEq, Repr

/-- A string, by what `jwt.verify` can make of it. -/
inductive Token
  | signed (secret : String) (claims : Claims)
  | text (s : String)
  deriving DecidableEq, Repr

/-- The environment as `validateEnv` accepts it.  An expiry is what `ms` reads from its variable, in
milliseconds; `jwt.sign` throws where that is nothing. -/
structure Config where
  jwtAccessSecret : String
  jwtRefreshSecret : String
  jwtAccessExpiry : Option ℚ
  jwtRefreshExpiry : Option ℚ
  googleClientId : Option String
  googleClientSecret : Option String
  googleCallbackUrl : Option String

/-- Two secrets, and the defaults of `envSchema`. -/
def Config.ofSecrets (jwtAccessSecret jwtRefreshSecret : String) : Config where
  jwtAccessSecret
  jwtRefreshSecret
  jwtAccessExpiry := some (15 * 60 * 1000)
  jwtRefreshExpiry := some (7 * 24 * 60 * 60 * 1000)
  googleClientId := none
  googleClientSecret := none
  googleCallbackUrl := none

namespace Jwt

/-- The clock in whole seconds. -/
def seconds (now : Int) : Int := now / 1000

def sign (payload : JWTPayload) (jti : Option String) (secret : String) (expiresIn : Option ℚ)
    (now : Int) : Except Error Token :=
  match expiresIn with
  | none =>
    .error (.plain ("\"expiresIn\" should be a number of seconds or string representing a " ++
      "timespan"))
  | some duration =>
    .ok (.signed secret
      { payload with jti, iat := seconds now, exp := seconds now + ⌊duration / 1000⌋ })

theorem exists_sign {expiresIn : Option ℚ} (h : expiresIn.isSome) (payload : JWTPayload)
    (jti : Option String) (secret : String) (now : Int) :
    ∃ token, sign payload jti secret expiresIn now = .ok token := by
  cases expiresIn with
  | none => cases h
  | some duration => exact ⟨_, rfl⟩

theorem sign_ok {payload : JWTPayload} {jti : Option String} {secret : String}
    {expiresIn : Option ℚ} {now : Int} {token : Token}
    (h : sign payload jti secret expiresIn now = .ok token) :
    ∃ claims, token = .signed secret claims ∧ claims.toJWTPayload = payload := by
  cases expiresIn with
  | none => cases h
  | some duration => exact ⟨_, (Except.ok.inj h).symm, rfl⟩

def verify (secret : String) (now : Int) : Token → Except Error JWTPayload
  | .text _ => .error (.plain "jwt malformed")
  | .signed secret' claims =>
    if secret' ≠ secret then .error (.plain "invalid signature")
    else if claims.exp ≤ seconds now then .error (.plain "jwt expired")
    else .ok claims.toJWTPayload

theorem verify_ok {secret : String} {now : Int} {token : Token} {payload : JWTPayload}
    (h : verify secret now token = .ok payload) :
    ∃ claims, token = .signed secret claims ∧ seconds now < claims.exp ∧
      claims.toJWTPayload = payload := by
  cases token with
  | text s => cases h
  | signed secret' claims =>
    simp only [verify] at h
    split at h
    · cases h
    · next hsecret =>
      split at h
      · cases h
      · next hexp =>
        obtain rfl := not_not.mp hsecret
        exact ⟨claims, rfl, not_le.mp hexp, Except.ok.inj h⟩

end Jwt

end Ecommerce
