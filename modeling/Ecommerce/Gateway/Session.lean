import Ecommerce.Gateway.Refresh

namespace Ecommerce

open AuthRoutes Accounts

/-- The refresh token of a session that a response opens. -/
def AuthResponse.refreshToken? : AuthResponse → Option Token
  | .json ⟨_, _, some (.session _ _ refreshToken), _⟩ => some refreshToken
  | _ => none

theorem AuthResponse.mem_tokens {response : AuthResponse} {token : Token}
    (h : response.refreshToken? = some token) : token ∈ response.tokens := by
  unfold refreshToken? at h
  split at h
  · obtain rfl := Option.some.inj h
    simp [tokens]
  · cases h

namespace AuthRequest

/-- The operation at which a request that signs in reads the clock to sign the refresh token. -/
def signedAt : AuthRequest → Nat
  | .register _ => 5
  | .login _ => 4
  | .callback _ _ => 8
  | .google | .refresh _ => 0

/-- The operation at which it reads the clock to store it. -/
def storedAt : AuthRequest → Nat
  | .register _ => 6
  | .login _ => 7
  | .callback _ _ => 9
  | .google | .refresh _ => 0

end AuthRequest

/-- A refresh token that was signed at `a` and stored at `b`. -/
structure Issued (config : Config) (a b : Int) (token : Token) (s : Accounts) : Prop where
  expiring : config.jwtAccessExpiry.isSome
  issued : ∃ user ∈ s.users.rows, user.isActive = true ∧
    (∃ jti, Jwt.sign user.payload (some jti) config.jwtRefreshSecret config.jwtRefreshExpiry a =
      .ok token) ∧
    ∃ id, ⟨id, token, user.id, b + storedLifetime⟩ ∈ s.refreshTokens.rows

section Issue

variable {config : Config} {env : Script AuthMove} {s s' : Accounts} {user : User} {token : Token}
  {payload : JWTPayload}

theorem createRefreshToken_ok {data : NewRefreshToken} {id : String}
    (h : (s.createRefreshToken data id).1 = .ok ()) :
    (s.createRefreshToken data id).2.users = s.users ∧
      ⟨id, data.token, data.userId, data.expiresAt⟩ ∈
        (s.createRefreshToken data id).2.refreshTokens.rows := by
  unfold createRefreshToken at h ⊢
  split
  · next hnone => simp [hnone] at h
  · next row hsome =>
    simp only [hsome] at h ⊢
    split
    · next hnone => simp [hnone] at h
    · next hinsert =>
      refine ⟨rfl, ?_⟩
      rw [(UniqueTable.insert_eq_some hinsert).1]
      exact List.mem_append_right _ List.mem_cons_self

theorem storeRefreshToken_ok {userId : String}
    (hplay : (storeRefreshToken token userId).play handle env s = (.ok (), s')) :
    s'.users = s.users ∧
      ∃ id, ⟨id, token, userId, (env 0).now + storedLifetime⟩ ∈ s'.refreshTokens.rows := by
  obtain ⟨now, hnow, hplay⟩ := Prog.play_perform_bind_ok handle hplay
  obtain rfl := Except.ok.inj hnow
  rw [Prog.play_perform] at hplay
  obtain ⟨hok, hs'⟩ := Prod.ext_iff.mp hplay
  obtain ⟨hcreated, hstate⟩ := statement_ok hok
  obtain ⟨husers, hrow⟩ := createRefreshToken_ok hcreated
  have hleft : s' = _ := hs'.symm.trans hstate
  rw [hleft]
  exact ⟨husers, _, hrow⟩

theorem replaceRefreshToken_ok {userId : String}
    (hplay : (replaceRefreshToken token userId).play handle env s = (.ok (), s')) :
    s'.users = s.users ∧
      ∃ id, ⟨id, token, userId, (env 2).now + storedLifetime⟩ ∈ s'.refreshTokens.rows := by
  obtain ⟨now, hnow, hplay⟩ := Prog.play_perform_bind_ok handle hplay
  obtain rfl := Except.ok.inj hnow
  obtain ⟨u, hpurged, hplay⟩ := Prog.play_perform_bind_ok handle hplay
  obtain ⟨husers, hrow⟩ := storeRefreshToken_ok hplay
  have hkept := congrArg users (statement_ok hpurged).2
  exact ⟨husers.trans hkept, hrow⟩

theorem generateAccessToken_ok {α : Type} {f : Token → AuthM α} {a : α}
    (hplay : (generateAccessToken config payload >>= f).play handle env s = (.ok a, s')) :
    ∃ token, Jwt.sign payload none config.jwtAccessSecret config.jwtAccessExpiry (env 0).now =
        .ok token ∧ (f token).play handle env.tail s = (.ok a, s') := by
  rw [generateAccessToken, bind_assoc] at hplay
  obtain ⟨now, hnow, hplay⟩ := Prog.play_perform_bind_ok handle hplay
  obtain rfl := Except.ok.inj hnow
  cases hsign : Jwt.sign payload none config.jwtAccessSecret config.jwtAccessExpiry (env 0).now with
  | error e =>
    rw [hsign] at hplay
    cases hplay
  | ok token =>
    rw [hsign] at hplay
    exact ⟨token, rfl, hplay⟩

theorem generateRefreshToken_ok {α : Type} {f : Token → AuthM α} {a : α}
    (hplay : (generateRefreshToken config payload >>= f).play handle env s = (.ok a, s')) :
    ∃ token, Jwt.sign payload (some (env 0).random) config.jwtRefreshSecret config.jwtRefreshExpiry
        (env 1).now = .ok token ∧ (f token).play handle env.tail.tail s = (.ok a, s') := by
  rw [generateRefreshToken, bind_assoc] at hplay
  obtain ⟨jti, hjti, hplay⟩ := Prog.play_perform_bind_ok handle hplay
  obtain rfl := Except.ok.inj hjti
  rw [bind_assoc] at hplay
  obtain ⟨now, hnow, hplay⟩ := Prog.play_perform_bind_ok handle hplay
  obtain rfl := Except.ok.inj hnow
  cases hsign : Jwt.sign payload (some (env 0).random) config.jwtRefreshSecret
      config.jwtRefreshExpiry (env 1).now with
  | error e =>
    rw [Script.tail_apply, hsign] at hplay
    cases hplay
  | ok token =>
    rw [Script.tail_apply, hsign] at hplay
    exact ⟨token, rfl, hplay⟩

theorem session_issued {view : UserView} {status : Nat} {message : String}
    {keep : Token → AuthM Unit} {n : Nat} {response : AuthResponse}
    (hkeep : ∀ {token env s'}, (keep token).play handle env s = (.ok (), s') → s'.users = s.users ∧
      ∃ id, ⟨id, token, user.id, (env n).now + storedLifetime⟩ ∈ s'.refreshTokens.rows)
    (hmem : user ∈ s.users.rows) (hactive : user.isActive = true)
    (hplay : (do
      let accessToken ← generateAccessToken config user.payload
      let refreshToken ← generateRefreshToken config user.payload
      keep refreshToken
      pure (.json (.success status message (.session view accessToken refreshToken)))
      : AuthM AuthResponse).play handle env s = (.ok response, s'))
    (htoken : response.refreshToken? = some token) :
    Issued config (env 2).now (env (n + 3)).now token s' := by
  obtain ⟨accessToken, haccess, hplay⟩ := generateAccessToken_ok hplay
  obtain ⟨refreshToken, hrefresh, hplay⟩ := generateRefreshToken_ok hplay
  rw [Prog.play_map] at hplay
  obtain ⟨hok, hstate⟩ := Prod.ext_iff.mp hplay
  have hexpiring : config.jwtAccessExpiry.isSome := by
    cases hexpiry : config.jwtAccessExpiry with
    | none => simp [Jwt.sign, hexpiry] at haccess
    | some duration => rfl
  cases hkept : ((keep refreshToken).play handle env.tail.tail.tail s).1 with
  | error e => simp [hkept, Except.map] at hok
  | ok u =>
    obtain ⟨husers, hrow⟩ := hkeep (Prod.ext hkept hstate)
    simp only [hkept, Except.map, Except.ok.injEq] at hok
    obtain rfl := hok
    obtain rfl := Option.some.inj htoken
    exact ⟨hexpiring, user, husers ▸ hmem, hactive, ⟨_, hrefresh⟩, hrow⟩

theorem refreshToken?_guarded {rethrown : List ErrorClass} {fallback : String}
    {body : AuthM AuthResponse}
    (h : (AuthRequest.send ((guarded rethrown fallback body).play handle env s).1).refreshToken? =
      some token) :
    ∃ response, response.refreshToken? = some token ∧ body.play handle env s =
      (.ok response, ((guarded rethrown fallback body).play handle env s).2) := by
  rcases play_guarded rethrown fallback body with ⟨response, hok, hplay⟩ | ⟨-, r, hplay, hr⟩
  · rw [hplay] at h ⊢
    exact ⟨response, h, Prod.ext hok rfl⟩
  · rw [hplay] at h
    have hmem := AuthResponse.mem_tokens h
    rw [hr] at hmem
    cases hmem

theorem createUser_active {data : NewUser} {id : String} (hactive : data.isActive = true)
    (h : (s.createUser data id).1 = .ok user) :
    user ∈ (s.createUser data id).2.users.rows ∧ user.isActive = true := by
  obtain ⟨rfl, hmem⟩ := createUser_ok h
  exact ⟨hmem, hactive⟩

theorem upsertUser_active {email id : String} {update : UserUpdate} {data : NewUser}
    (hupdate : update.isActive = true) (hactive : data.isActive = true)
    (h : (s.upsertUser email update data id).1 = .ok user) :
    user ∈ (s.upsertUser email update data id).2.users.rows ∧ user.isActive = true := by
  unfold upsertUser at h ⊢
  cases hfind : s.users.findBy? email with
  | none =>
    rw [hfind] at h
    exact createUser_active hactive h
  | some found =>
    rw [hfind] at h
    obtain rfl := Except.ok.inj h
    have hmem := (UniqueTable.findBy?_eq_some.mp hfind).1
    exact ⟨List.mem_map.mpr ⟨found, hmem, if_pos rfl⟩, hupdate⟩

theorem register_issued {body : Except Error RegisterBody}
    (h : ((AuthRequest.register body).serve config env s).1.refreshToken? = some token) :
    Issued config (env 5).now (env 6).now token
      ((AuthRequest.register body).serve config env s).2 := by
  rw [AuthRequest.serve, AuthRequest.handler, register] at h ⊢
  obtain ⟨response, hresponse, hplay⟩ := refreshToken?_guarded h
  cases body with
  | error e => cases hplay
  | ok body =>
    obtain ⟨existingUser, -, hplay⟩ := Prog.play_perform_bind_ok handle hplay
    cases existingUser with
    | some user => cases hplay
    | none =>
      obtain ⟨passwordHash, -, hplay⟩ := Prog.play_perform_bind_ok handle hplay
      obtain ⟨user, hcreated, hplay⟩ := Prog.play_perform_bind_ok handle hplay
      obtain ⟨hok, hstate⟩ := statement_ok hcreated
      obtain ⟨hmem, hactive⟩ := createUser_active rfl hok
      exact session_issued storeRefreshToken_ok (hstate ▸ hmem) hactive hplay hresponse

theorem login_issued {body : Except Error LoginBody}
    (h : ((AuthRequest.login body).serve config env s).1.refreshToken? = some token) :
    Issued config (env 4).now (env 7).now token
      ((AuthRequest.login body).serve config env s).2 := by
  rw [AuthRequest.serve, AuthRequest.handler, login] at h ⊢
  obtain ⟨response, hresponse, hplay⟩ := refreshToken?_guarded h
  cases body with
  | error e => cases hplay
  | ok body =>
    obtain ⟨found, hfound, hplay⟩ := Prog.play_perform_bind_ok handle hplay
    obtain ⟨hquery, hstate⟩ := statement_ok hfound
    split at hplay
    · next user passwordHash _ =>
      obtain ⟨isValidPassword, -, hplay⟩ := Prog.play_perform_bind_ok handle hplay
      cases isValidPassword with
      | false => cases hplay
      | true =>
        cases hactive : user.isActive with
        | false =>
          rw [hactive] at hplay
          cases hplay
        | true =>
          rw [hactive] at hplay
          have hmem := (UniqueTable.findBy?_eq_some.mp (Except.ok.inj hquery)).1
          exact session_issued replaceRefreshToken_ok (hstate ▸ hmem) hactive hplay hresponse
    · cases hplay

theorem callback_issued {code state : Option String}
    (h : ((AuthRequest.callback code state).serve config env s).1.refreshToken? = some token) :
    Issued config (env 8).now (env 9).now token
      ((AuthRequest.callback code state).serve config env s).2 := by
  rw [AuthRequest.serve, AuthRequest.handler] at h ⊢
  rcases callback_cases (s := s) with
    ⟨sub, email, profile, key, -, hplay⟩ | ⟨-, e, store, hplay⟩
  · rw [hplay] at h ⊢
    cases hresult : (signIn config sub email profile).play handle (fun n => env (n + 5))
        (s.useState key) with
    | mk r s' =>
      rw [hresult] at h
      cases r with
      | error e =>
        cases h
      | ok response =>
        obtain ⟨user, hupserted, hresult⟩ := Prog.play_perform_bind_ok handle hresult
        obtain ⟨hok, hstate⟩ := statement_ok hupserted
        obtain ⟨hmem, hactive⟩ := upsertUser_active rfl rfl hok
        exact session_issued storeRefreshToken_ok (hstate ▸ hmem) hactive hresult h
  · rw [hplay] at h
    cases h

theorem issued (request : AuthRequest)
    (h : (request.serve config env s).1.refreshToken? = some token) :
    Issued config (env request.signedAt).now (env request.storedAt).now token
      (request.serve config env s).2 := by
  cases request with
  | google =>
    rw [AuthRequest.serve, AuthRequest.handler, google] at h
    split at h <;> cases h
  | register body => exact register_issued h
  | login body => exact login_issued h
  | callback code state => exact callback_issued h
  | refresh body =>
    rw [AuthRequest.serve, AuthRequest.handler, refresh] at h
    obtain ⟨response, hresponse, hplay⟩ := refreshToken?_guarded h
    cases body with
    | error e => cases hplay
    | ok t =>
      change (renew config t).play handle env s = _ at hplay
      rcases renew_cases t with ⟨payload, row, user, token', -, hrenew⟩ | ⟨-, e, hrenew⟩
      · obtain rfl := Except.ok.inj (congrArg Prod.fst (hrenew.symm.trans hplay))
        cases hresponse
      · cases hrenew.symm.trans hplay

end Issue

/-- After any further requests, a refresh with `token` goes through just before `deadline`: no request
reads the clock later than the refresh, and the database works. -/
def LivesUntil (config : Config) (token : Token) (s : Accounts) (b : Int) (deadline : ℚ) : Prop :=
  ∀ (cs : List (AuthRequest × Script AuthMove)) (now : Int) (env : Script AuthMove),
    (∀ c ∈ cs, ∀ n, (c.2 n).now ≤ now) → b ≤ now → (∀ n, (env n).now = now ∧ (env n).db = .accept) →
    ((∃ access, ((AuthRequest.refresh (.ok token)).serve config env
        (cs.foldl (AuthRequest.step config) s)).1.tokens = [access]) ↔ now < deadline)

section Lifetime

variable {config : Config} {s s' : Accounts} {V : User → Prop} {now : Int}

theorem Change.kept (h : Change config (· ≤ now) V s s') {row : RefreshToken}
    (hfresh : now ≤ row.expiresAt) (hrow : row ∈ s.refreshTokens.rows) :
    row ∈ s'.refreshTokens.rows := by
  cases h with
  | oauth store => exact hrow
  | created hinsert hrole hactive => exact hrow
  | rewritten hmem hV sub profile => exact hrow
  | @purged userId before hT =>
    refine List.mem_filter.mpr ⟨hrow, ?_⟩
    have hafter : ¬ row.expiresAt < before := by omega
    simp [hafter]
  | stored hinsert htoken hT hexpires =>
    rw [(UniqueTable.insert_eq_some hinsert).1]
    exact List.mem_append_left _ hrow

theorem Changes.kept (h : Changes config (· ≤ now) V s s') {row : RefreshToken}
    (hfresh : now ≤ row.expiresAt) (hrow : row ∈ s.refreshTokens.rows) :
    row ∈ s'.refreshTokens.rows := by
  induction h with
  | refl => exact hrow
  | tail _ h ih => exact h.kept hfresh ih

theorem kept_foldl {cs : List (AuthRequest × Script AuthMove)} {row : RefreshToken}
    (hcs : ∀ c ∈ cs, ∀ n, (c.2 n).now ≤ now) (hfresh : now ≤ row.expiresAt)
    (hrow : row ∈ s.refreshTokens.rows)
    (huser : ∃ user ∈ s.users.rows, user.id = row.userId ∧ user.isActive = true) :
    row ∈ (cs.foldl (AuthRequest.step config) s).refreshTokens.rows ∧
      ∃ user ∈ (cs.foldl (AuthRequest.step config) s).users.rows,
        user.id = row.userId ∧ user.isActive = true := by
  have halong : Runs.Along (AuthRequest.step config) (fun _ c => ∀ n, (c.2 n).now ≤ now) s cs :=
    Runs.along_of_forall hcs
  refine Runs.foldl_of_along (J := fun s => row ∈ s.refreshTokens.rows ∧
    ∃ user ∈ s.users.rows, user.id = row.userId ∧ user.isActive = true) ?_ ⟨hrow, huser⟩ halong
  rintro s c ⟨hrow, huser⟩ hc
  have hchanges : Changes config (· ≤ now) _ s (c.1.serve config c.2 s).2 :=
    (c.1.serve_spec hc).1
  exact ⟨hchanges.kept hfresh hrow, hchanges.active huser⟩

theorem verify_fresh {secret : String} {claims : Claims} (h : Jwt.seconds now < claims.exp) :
    Jwt.verify secret now (.signed secret claims) = .ok claims.toJWTPayload := by
  have hle : ¬ claims.exp ≤ Jwt.seconds now := by omega
  simp [Jwt.verify, hle]

variable {env : Script AuthMove} {row : RefreshToken} {claims : Claims}

theorem live_of_honoured {access : Token}
    (h : ((AuthRequest.refresh (.ok (.signed config.jwtRefreshSecret claims))).serve
      config env s).1.tokens = [access]) : Jwt.seconds (env 0).now < claims.exp := by
  rcases refresh_cases config env s (.signed config.jwtRefreshSecret claims) with
    ⟨payload, row, user, token, hrenews, -⟩ | ⟨-, htokens⟩
  · exact (verify_signed hrenews.verified).1
  · rw [htokens] at h
    cases h

variable (env) in
/-- A stored token of an active user is honoured until the first of its two clocks runs out. -/
theorem refresh_iff (hexpiring : config.jwtAccessExpiry.isSome)
    (htoken : row.token = .signed config.jwtRefreshSecret claims)
    (hrow : row ∈ s.refreshTokens.rows)
    (huser : ∃ user ∈ s.users.rows, user.id = claims.userId ∧ user.isActive = true)
    (henv : ∀ n, (env n).now = now ∧ (env n).db = .accept) :
    (∃ access, ((AuthRequest.refresh (.ok row.token)).serve config env s).1.tokens = [access]) ↔
      Jwt.seconds now < claims.exp ∧ now ≤ row.expiresAt := by
  have hfind : s.refreshTokens.findBy? row.token = some row :=
    UniqueTable.findBy?_eq_some.mpr ⟨hrow, rfl⟩
  rcases refresh_cases config env s row.token with
    ⟨payload, row', user, token, hrenews, htokens⟩ | ⟨hnot, htokens⟩
  · have hverified := hrenews.verified
    rw [htoken, (henv 0).1] at hverified
    have hsame := Option.some.inj (hfind.symm.trans hrenews.stored)
    have hfresh := hrenews.fresh
    rw [(henv 2).1, ← hsame] at hfresh
    exact ⟨fun _ => ⟨(verify_signed hverified).1, hfresh⟩, fun _ => ⟨token, htokens⟩⟩
  · refine ⟨fun ⟨access, haccess⟩ => ?_, fun ⟨hexp, hfresh⟩ => ?_⟩
    · rw [htokens] at haccess
      cases haccess
    · obtain ⟨user, hmem, hid, hactive⟩ := huser
      obtain ⟨token, hsign⟩ := Jwt.exists_sign hexpiring user.payload none config.jwtAccessSecret
        (env 4).now
      refine absurd ?_ (hnot claims.toJWTPayload row user token)
      exact
        { verified := by rw [htoken, (henv 0).1, verify_fresh hexp]
          read := (henv 1).2
          stored := hfind
          fresh := by rw [(henv 2).1]; exact hfresh
          read' := (henv 3).2
          found := Table.find?_eq_some.mpr ⟨hmem, hid⟩
          active := hactive
          signed := hsign }

end Lifetime

section Deadline

variable {now b s W : Int} {D : ℚ}

theorem lt_of_seconds_lt (h : now / 1000 < s / 1000 + ⌊D / 1000⌋) : (now : ℚ) < s + D := by
  have hs : 1000 * (s / 1000) ≤ s := Int.mul_ediv_self_le (by decide)
  have hD := Int.floor_le (D / 1000)
  have hnow : now + 1 ≤ s + 1000 * ⌊D / 1000⌋ := by omega
  have hnow' : (now : ℚ) + 1 ≤ s + 1000 * ⌊D / 1000⌋ := by exact_mod_cast hnow
  linarith

theorem whole_of_seconds (h : ⌈(s : ℚ) + D⌉ ≤ 1000 * (s / 1000) + 1000 * ⌊D / 1000⌋) :
    1000 ∣ s ∧ D = 1000 * ⌊D / 1000⌋ := by
  have hs : 1000 * (s / 1000) ≤ s := Int.mul_ediv_self_le (by decide)
  have hs' : ((1000 * (s / 1000) : Int) : ℚ) ≤ s := by exact_mod_cast hs
  have hD := Int.floor_le (D / 1000)
  have hceil := Int.le_ceil ((s : ℚ) + D)
  have h' : (⌈(s : ℚ) + D⌉ : ℚ) ≤ (1000 * (s / 1000) : Int) + 1000 * ⌊D / 1000⌋ := by
    exact_mod_cast h
  have hwhole : s ≤ 1000 * (s / 1000) := by
    have : (s : ℚ) ≤ (1000 * (s / 1000) : Int) := by linarith
    exact_mod_cast this
  exact ⟨⟨s / 1000, by omega⟩, by linarith⟩

theorem deadline_iff :
    (∀ now : Int, b ≤ now →
      (now / 1000 < s / 1000 + ⌊D / 1000⌋ ∧ now ≤ b + W ↔ (now : ℚ) < s + D)) ↔
    s + D ≤ b ∨ 1000 ∣ s ∧ D = 1000 * ⌊D / 1000⌋ ∧ s + D ≤ b + W + 1 := by
  constructor
  · intro h
    by_cases hover : s + D ≤ b
    · exact .inl hover
    · right
      -- the last instant before the deadline
      have hbefore : b ≤ ⌈(s : ℚ) + D⌉ - 1 := by
        have := Int.lt_ceil.mpr (not_le.mp hover)
        omega
      have halive : ((⌈(s : ℚ) + D⌉ - 1 : Int) : ℚ) < s + D := by
        have := Int.ceil_lt_add_one ((s : ℚ) + D)
        push_cast
        linarith
      obtain ⟨hsigned, hstored⟩ := (h _ hbefore).mpr halive
      obtain ⟨hs, hD⟩ := whole_of_seconds (s := s) (D := D) (by omega)
      refine ⟨hs, hD, (Int.le_ceil _).trans ?_⟩
      exact_mod_cast (show ⌈(s : ℚ) + D⌉ ≤ b + W + 1 by omega)
  · rintro (hover | ⟨hs, hD, hstored⟩) now hnow
    · have hlate : (s : ℚ) + D ≤ now := hover.trans (by exact_mod_cast hnow)
      exact ⟨fun h => lt_of_seconds_lt h.1, fun halive => absurd halive (not_lt.mpr hlate)⟩
    · refine ⟨fun h => lt_of_seconds_lt h.1, fun halive => ?_⟩
      have hwhole : (s : ℚ) + D = ((s + 1000 * ⌊D / 1000⌋ : Int) : ℚ) := by
        push_cast
        linarith
      rw [hwhole, Int.cast_lt] at halive
      have hstored' : s + 1000 * ⌊D / 1000⌋ ≤ b + W + 1 := by
        rw [hwhole] at hstored
        exact_mod_cast hstored
      omega

end Deadline

/-- A refresh token lives until `D` after it was issued exactly when `D` is a whole number of seconds,
issued at a whole second, and the stored lifetime is no shorter; or if it never lives at all. -/
theorem session_lifetime_iff (config : Config) {D : ℚ} (hD : config.jwtRefreshExpiry = some D)
    (request : AuthRequest) (env : Script AuthMove) (s : Accounts) {token : Token}
    (hissued : (request.serve config env s).1.refreshToken? = some token) {issuedAt : Int}
    (hsecond : Jwt.seconds issuedAt = Jwt.seconds (env request.signedAt).now) :
    LivesUntil config token (request.serve config env s).2 (env request.storedAt).now
        (issuedAt + D) ↔
      issuedAt + D ≤ (env request.storedAt).now ∨
        1000 ∣ issuedAt ∧ D = 1000 * ⌊D / 1000⌋ ∧
          issuedAt + D ≤ (env request.storedAt).now + storedLifetime + 1 := by
  rw [← deadline_iff]
  obtain ⟨hexpiring, user, hmem, hactive, ⟨jti, hsign⟩, id, hrow⟩ := issued request hissued
  simp only [Jwt.sign, hD] at hsign
  have htoken := (Except.ok.inj hsign).symm
  rw [← hsecond] at htoken
  have huser : ∃ u ∈ (request.serve config env s).2.users.rows, u.id = user.id ∧ u.isActive = true :=
    ⟨user, hmem, rfl, hactive⟩
  constructor
  · intro h now hnow
    have hrefresh := refresh_iff (fun _ => .smooth "" now) hexpiring htoken hrow huser
      fun _ => ⟨rfl, rfl⟩
    exact hrefresh.symm.trans (h [] now _ (by simp) hnow fun _ => ⟨rfl, rfl⟩)
  · intro h cs now env' hcs hnow henv
    constructor
    · rintro ⟨access, haccess⟩
      rw [htoken] at haccess
      have hlive := live_of_honoured haccess
      rw [(henv 0).1] at hlive
      exact lt_of_seconds_lt hlive
    · intro halive
      obtain ⟨hsigned, hstored⟩ := (h now hnow).mpr halive
      obtain ⟨hrow', huser'⟩ := kept_foldl hcs hstored hrow huser
      have hrefresh := refresh_iff env' hexpiring htoken hrow' huser' henv
      exact hrefresh.mpr ⟨hsigned, hstored⟩

section Example

private def weekly : Config :=
  .ofSecrets "access-secret-of-32-characters--" "refresh-secret-of-32-characters-"

private def monthly : Config :=
  { weekly with jwtRefreshExpiry := some (30 * 24 * 60 * 60 * 1000) }

private def registering : AuthRequest := .register (.ok ⟨"a@b.co", "password", none, none⟩)

private def sessionToken (exp : Int) : Token :=
  .signed weekly.jwtRefreshSecret ⟨⟨"u", "a@b.co", .user⟩, some "u", 1, exp⟩

/-- The default lifetime of a week is kept by a session that opens at a whole second. -/
theorem session_lifetime_week :
    LivesUntil weekly (sessionToken 604801)
      (registering.serve weekly (fun _ => .smooth "u" 1000) .empty).2 1000
      ((1000 : Int) + 7 * 24 * 60 * 60 * 1000) :=
  (session_lifetime_iff weekly rfl registering (fun _ => .smooth "u" 1000) .empty
    (by decide +kernel) rfl).mpr (.inr ⟨by decide, by norm_num, by norm_num [registering,
      AuthRequest.storedAt, AuthMove.smooth, storedLifetime]⟩)

/-- A session of thirty days is over after eight. -/
theorem session_lifetime_month :
    (registering.serve monthly (fun _ => .smooth "u" 1000) .empty).1.refreshToken? =
        some (sessionToken 2592001) ∧
      ¬ LivesUntil monthly (sessionToken 2592001)
        (registering.serve monthly (fun _ => .smooth "u" 1000) .empty).2 1000
        ((1000 : Int) + 30 * 24 * 60 * 60 * 1000) := by
  refine ⟨by decide +kernel, fun h => ?_⟩
  have hrefused : ((AuthRequest.refresh (.ok (sessionToken 2592001))).serve monthly
      (fun _ => .smooth "v" 691201000)
      (registering.serve monthly (fun _ => .smooth "u" 1000) .empty).2).1.tokens = [] := by
    decide +kernel
  obtain ⟨access, haccess⟩ := (h [] 691201000 (fun _ => .smooth "v" 691201000) (by simp)
    (by decide) fun _ => ⟨rfl, rfl⟩).mpr (by norm_num)
  rw [List.foldl_nil, hrefused] at haccess
  cases haccess

end Example

end Ecommerce
