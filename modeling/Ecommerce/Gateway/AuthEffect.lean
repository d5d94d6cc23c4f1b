import Ecommerce.Gateway.Auth
import Ecommerce.Lib.Triple

namespace Ecommerce

/-- The tokens of a response. -/
def AuthResponse.tokens : AuthResponse → List Token
  | .json ⟨_, _, some (.session _ accessToken refreshToken), _⟩ => [accessToken, refreshToken]
  | .json ⟨_, _, some (.accessToken token), _⟩ => [token]
  | _ => []

variable (config : Config) (T : Int → Prop)

def AccessFor (payload : JWTPayload) (token : Token) : Prop :=
  ∃ a, T a ∧ Jwt.sign payload none config.jwtAccessSecret config.jwtAccessExpiry a = .ok token

def RefreshFor (payload : JWTPayload) (token : Token) : Prop :=
  ∃ a jti, T a ∧
    Jwt.sign payload (some jti) config.jwtRefreshSecret config.jwtRefreshExpiry a = .ok token

/-- A statement's effect on the tables; `V` holds of the rows that an upsert may rewrite. -/
inductive Change (V : User → Prop) : Accounts → Accounts → Prop
  | oauth {s : Accounts} (oauthStateStore : String → Option Int) :
      Change V s { s with oauthStateStore }
  | created {s : Accounts} {data : NewUser} {id : String} {users : UserTable}
      (hinsert : s.users.insert (data.row id) = some users) (hrole : data.role = .user)
      (hactive : data.isActive = true) : Change V s { s with users }
  | rewritten {s : Accounts} {user : User} (hmem : user ∈ s.users.rows) (hV : V user) (sub : String)
      (profile : GoogleProfile) :
      Change V s (s.updateUser user.id (AuthRoutes.googleUpdate sub profile))
  | purged {s : Accounts} (userId : String) {before : Int} (hT : T before) :
      Change V s (s.deleteExpired userId before)
  | stored {s : Accounts} {row : RefreshToken} {refreshTokens : RefreshTokenTable} {b : Int}
      (hinsert : s.refreshTokens.insert row = some refreshTokens)
      (htoken : ∃ user ∈ s.users.rows, user.id = row.userId ∧ RefreshFor config T user.payload row.token)
      (hT : T b) (hexpires : row.expiresAt = b + AuthRoutes.storedLifetime) :
      Change V s { s with refreshTokens }

abbrev Changes (V : User → Prop) : Accounts → Accounts → Prop :=
  Relation.ReflTransGen (Change config T V)

def Vouched (response : AuthResponse) (s : Accounts) : Prop :=
  ∀ token ∈ response.tokens, ∃ user ∈ s.users.rows, user.isActive = true ∧
    (AccessFor config T user.payload token ∨ RefreshFor config T user.payload token)

def Sound (V : User → Prop) (s : Accounts) (r : Except Error AuthResponse) (s' : Accounts) : Prop :=
  Changes config T V s s' ∧ ∀ response, r = .ok response → Vouched config T response s'

def Timed (c : AuthMove) : Prop := T c.now

namespace Accounts

theorem statement_cases {α : Type} (db : DbMove) (r : Except Error α × Accounts) (s : Accounts) :
    statement db r s = r ∨ (∃ e, statement db r s = (.error e, s)) ∨
      ∃ e, statement db r s = (.error e, r.2) := by
  cases db with
  | accept => exact .inl rfl
  | reject m => exact .inr (.inl ⟨_, rfl⟩)
  | lost m => exact .inr (.inr ⟨_, rfl⟩)

@[simp] theorem statement_snd {α : Type} (db : DbMove) (r : Except Error α) (s : Accounts) :
    (statement db (r, s) s).2 = s := by cases db <;> rfl

theorem statement_ok {α : Type} {db : DbMove} {r : Except Error α × Accounts} {s : Accounts} {a : α}
    (h : (statement db r s).1 = .ok a) : r.1 = .ok a ∧ (statement db r s).2 = r.2 := by
  cases db with
  | accept => exact ⟨h, rfl⟩
  | reject m => cases h
  | lost m => cases h

end Accounts

section Spec

open AuthRoutes Accounts

variable {config} {T} {V : User → Prop} {s s₀ : Accounts} {user : User} {payload : JWTPayload}
  {token : Token}

@[simp] theorem wp_generateAccessToken {Q : Except Error Token → Accounts → Prop} :
    (generateAccessToken config payload).wp (Timed T) handle Q s ↔ ∀ c, Timed T c →
      Q (Jwt.sign payload none config.jwtAccessSecret config.jwtAccessExpiry c.now) s := by
  simp [generateAccessToken, handle]

@[simp] theorem wp_generateRefreshToken {Q : Except Error Token → Accounts → Prop} :
    (generateRefreshToken config payload).wp (Timed T) handle Q s ↔
      ∀ c, Timed T c → ∀ c', Timed T c' → Q (Jwt.sign payload (some c.random)
        config.jwtRefreshSecret config.jwtRefreshExpiry c'.now) s := by
  simp [generateRefreshToken, handle]

theorem wp_query {α : Type} {db : DbMove} {r : Except Error α} {f : α → Accounts → Prop}
    {g : Error → Accounts → Prop} (hok : ∀ a, r = .ok a → f a s) (herror : ∀ e, g e s) :
    Prog.cont f g (statement db (r, s) s).1 (statement db (r, s) s).2 := by
  rw [statement_snd]
  cases h : (statement db (r, s) s).1 with
  | error e => exact herror e
  | ok a => exact hok a (statement_ok h).1

theorem wp_storeRefreshToken (hmem : user ∈ s.users.rows)
    (htoken : RefreshFor config T user.payload token) (hs : Changes config T V s₀ s) :
    (storeRefreshToken token user.id).wp (Timed T) handle (fun _ s' =>
      Changes config T V s₀ s' ∧ s'.users = s.users) s := by
  simp only [storeRefreshToken, Prog.wp_bind, Prog.wp_perform, handle, Prog.cont_ok]
  intro c hc c' _
  have hstep : Changes config T V s₀ (s.createRefreshToken
      { token, userId := user.id, expiresAt := c.now + storedLifetime } c'.newId).2 ∧
      (s.createRefreshToken
        { token, userId := user.id, expiresAt := c.now + storedLifetime } c'.newId).2.users =
        s.users := by
    simp only [createRefreshToken]
    split
    · exact ⟨hs, rfl⟩
    · split
      · exact ⟨hs, rfl⟩
      · next hinsert => exact ⟨hs.tail (.stored hinsert ⟨user, hmem, rfl, htoken⟩ hc rfl), rfl⟩
  rcases statement_cases c'.db _ s with h | ⟨e, h⟩ | ⟨e, h⟩
  · rw [h]
    exact hstep
  · rw [h]
    exact ⟨hs, rfl⟩
  · rw [h]
    exact hstep

theorem wp_replaceRefreshToken (hmem : user ∈ s.users.rows)
    (htoken : RefreshFor config T user.payload token) (hs : Changes config T V s₀ s) :
    (replaceRefreshToken token user.id).wp (Timed T) handle (fun _ s' =>
      Changes config T V s₀ s' ∧ s'.users = s.users) s := by
  rw [replaceRefreshToken, Prog.wp_bind, Prog.wp_perform]
  intro c hc
  simp only [handle, Prog.cont_ok]
  rw [Prog.wp_bind, Prog.wp_perform]
  intro c' _
  have hpurged := hs.tail (.purged user.id hc)
  simp only [handle]
  rcases statement_cases c'.db (.ok (), s.deleteExpired user.id c.now) s with h | ⟨e, h⟩ | ⟨e, h⟩
  · rw [h]
    exact wp_storeRefreshToken hmem htoken hpurged
  · rw [h]
    exact ⟨hs, rfl⟩
  · rw [h]
    exact ⟨hpurged, rfl⟩

theorem Sound.error {e : Error} (hs : Changes config T V s₀ s) :
    Sound config T V s₀ (.error e) s := ⟨hs, fun _ h => by cases h⟩

theorem Sound.ok {response : AuthResponse} (hs : Changes config T V s₀ s)
    (hvouched : Vouched config T response s) : Sound config T V s₀ (.ok response) s :=
  ⟨hs, fun _ h => Except.ok.inj h ▸ hvouched⟩

theorem wp_session {view : UserView} {status : Nat} {message : String} {keep : Token → AuthM Unit}
    (hmem : user ∈ s.users.rows) (hactive : user.isActive = true)
    (hkeep : ∀ token, RefreshFor config T user.payload token →
      (keep token).wp (Timed T) handle (fun _ s' =>
        Changes config T V s₀ s' ∧ s'.users = s.users) s)
    (hs : Changes config T V s₀ s) :
    (do
      let accessToken ← generateAccessToken config user.payload
      let refreshToken ← generateRefreshToken config user.payload
      keep refreshToken
      pure (.json (.success status message (.session view accessToken refreshToken)))
      : AuthM AuthResponse).wp (Timed T) handle (Sound config T V s₀) s := by
  simp only [Prog.wp_bind, wp_generateAccessToken]
  intro c hc
  cases haccess : Jwt.sign user.payload none config.jwtAccessSecret config.jwtAccessExpiry c.now with
  | error e => exact .error hs
  | ok accessToken =>
    simp only [Prog.cont_ok, Prog.wp_bind, wp_generateRefreshToken]
    intro c₁ hc₁ c₂ hc₂
    cases hrefresh : Jwt.sign user.payload (some c₁.random) config.jwtRefreshSecret
        config.jwtRefreshExpiry c₂.now with
    | error e => exact .error hs
    | ok refreshToken =>
      simp only [Prog.cont_ok, Prog.wp_bind]
      apply (hkeep refreshToken ⟨_, _, hc₂, hrefresh⟩).mono
      rintro (e | _) s' ⟨hs', husers⟩
      · exact .error hs'
      · refine .ok hs' fun token htoken => ?_
        rw [husers]
        rcases List.mem_pair.mp htoken with rfl | rfl
        · exact ⟨user, hmem, hactive, .inl ⟨_, hc, haccess⟩⟩
        · exact ⟨user, hmem, hactive, .inr ⟨_, _, hc₂, hrefresh⟩⟩

theorem wp_guarded {rethrown : List ErrorClass} {fallback : String} {body : AuthM AuthResponse}
    (h : body.wp (Timed T) handle (Sound config T V s₀) s) :
    (guarded rethrown fallback body).wp (Timed T) handle (Sound config T V s₀) s := by
  rw [guarded, Prog.wp_tryCatch]
  apply h.mono
  rintro (e | response) s' hsound
  · by_cases hrethrown : rethrown.any e.isInstance
    · rw [Prog.cont_error, if_pos hrethrown]
      exact hsound
    · rw [Prog.cont_error, if_neg hrethrown]
      refine .ok hsound.1 fun token htoken => ?_
      simp [AuthResponse.tokens, ApiResponse.failure] at htoken
  · exact hsound

theorem wp_google : (google config).wp (Timed T) handle (Sound config T V s) s := by
  rw [google]
  split
  · simp only [Prog.wp_bind, Prog.wp_perform, handle, Prog.cont_ok, Prog.wp_pure]
    intro c _ c' _ _ _
    exact .ok (.single (.oauth _)) fun token htoken => by simp [AuthResponse.tokens] at htoken
  · exact .error .refl

theorem mem_of_insert {users : UserTable} {user : User}
    (h : s.users.insert user = some users) : user ∈ users.rows := by
  rw [(UniqueTable.insert_eq_some h).1]
  exact List.mem_append_right _ List.mem_cons_self

theorem wp_statement_user {db : DbMove} {r : Except Error User × Accounts}
    {f : User → Accounts → Prop} (hs : Changes config T V s₀ s) (hr : Changes config T V s₀ r.2)
    (hok : ∀ user, r.1 = .ok user → Changes config T V s₀ r.2 → f user r.2) :
    Prog.cont f (fun e => Sound config T V s₀ (.error e)) (statement db r s).1
      (statement db r s).2 := by
  rcases statement_cases db r s with h | ⟨e, h⟩ | ⟨e, h⟩
  · rw [h]
    cases hr' : r.1 with
    | error e => exact .error hr
    | ok user => exact hok user hr' hr
  · rw [h]
    exact .error hs
  · rw [h]
    exact .error hr

theorem createUser_change {data : NewUser} {id : String} (hrole : data.role = .user)
    (hactive : data.isActive = true) (hs : Changes config T V s₀ s) :
    Changes config T V s₀ (s.createUser data id).2 := by
  rw [createUser]
  split
  · exact hs
  · next hinsert => exact hs.tail (.created hinsert hrole hactive)

theorem createUser_ok {data : NewUser} {id : String} (h : (s.createUser data id).1 = .ok user) :
    user = data.row id ∧ user ∈ (s.createUser data id).2.users.rows := by
  rw [createUser] at h ⊢
  split at h
  · cases h
  · next hinsert =>
    obtain rfl := Except.ok.inj h
    exact ⟨rfl, mem_of_insert hinsert⟩

theorem wp_register (body : Except Error RegisterBody) :
    (register config body).wp (Timed T) handle (Sound config T V s) s := by
  apply wp_guarded
  rw [Prog.wp_bind, Prog.wp_settle]
  cases body with
  | error e => exact .error .refl
  | ok body =>
    rw [Prog.cont_ok, Prog.wp_bind, Prog.wp_perform]
    refine fun c _ => wp_query (fun existingUser _ => ?_) fun e => .error .refl
    cases existingUser with
    | some user => exact .error .refl
    | none =>
      simp only [Option.isSome_none, Bool.false_eq_true, if_false]
      rw [Prog.wp_bind, Prog.wp_perform]
      intro c _
      simp only [handle]
      cases c.hash with
      | error e => exact .error .refl
      | ok passwordHash =>
        rw [Prog.cont_ok, Prog.wp_bind, Prog.wp_perform]
        intro c _
        simp only [handle]
        refine wp_statement_user .refl (createUser_change rfl rfl .refl)
          fun user huser hchange => ?_
        obtain ⟨rfl, hmem⟩ := createUser_ok huser
        refine wp_session hmem rfl (fun token htoken => ?_) hchange
        exact wp_storeRefreshToken hmem htoken hchange

theorem wp_login (body : Except Error LoginBody) :
    (login config body).wp (Timed T) handle (Sound config T V s) s := by
  apply wp_guarded
  rw [Prog.wp_bind, Prog.wp_settle]
  cases body with
  | error e => exact .error .refl
  | ok body =>
    rw [Prog.cont_ok, Prog.wp_bind, Prog.wp_perform]
    refine fun c _ => wp_query (fun found hfound => ?_) fun e => .error .refl
    split
    · next user passwordHash _ =>
      rw [Prog.wp_bind, Prog.wp_perform]
      intro c _
      simp only [handle]
      cases c.verified with
      | error e => exact .error .refl
      | ok isValidPassword =>
        rw [Prog.cont_ok]
        cases isValidPassword with
        | false => exact .error .refl
        | true =>
          cases hactive : user.isActive with
          | false => exact .error .refl
          | true =>
            have hmem := (UniqueTable.findBy?_eq_some.mp (Except.ok.inj hfound)).1
            exact wp_session hmem hactive (fun token htoken =>
              wp_replaceRefreshToken hmem htoken .refl) .refl
    · exact .error .refl

theorem wp_refresh (body : Except Error Token) :
    (refresh config body).wp (Timed T) handle (Sound config T V s) s := by
  apply wp_guarded
  rw [Prog.wp_bind, Prog.wp_settle]
  cases body with
  | error e => exact .error .refl
  | ok refreshToken =>
    rw [Prog.cont_ok, renew, Prog.wp_bind, Prog.wp_perform]
    intro c _
    simp only [handle, Prog.cont_ok]
    cases Jwt.verify config.jwtRefreshSecret c.now refreshToken with
    | error e => exact .error .refl
    | ok payload =>
      simp only
      rw [Prog.wp_bind, Prog.wp_perform]
      refine fun c _ => wp_query (fun storedToken _ => ?_) fun e => .error .refl
      cases storedToken with
      | none => exact .error .refl
      | some storedToken =>
        simp only
        rw [Prog.wp_bind, Prog.wp_perform]
        intro c _
        simp only [handle, Prog.cont_ok]
        by_cases hexpired : storedToken.expiresAt < c.now
        · rw [if_pos hexpired]
          exact .error .refl
        · rw [if_neg hexpired, Prog.wp_bind, Prog.wp_perform]
          refine fun c _ => wp_query (fun found hfound => ?_) fun e => .error .refl
          cases huser : found.filter User.isActive with
          | none => exact .error .refl
          | some user =>
            obtain ⟨rfl, hactive⟩ := Option.filter_eq_some_iff.mp huser
            have hmem := Table.mem_of_find? (Except.ok.inj hfound)
            simp only [Prog.wp_bind, wp_generateAccessToken]
            intro c hc
            cases haccess : Jwt.sign user.payload none config.jwtAccessSecret
                config.jwtAccessExpiry c.now with
            | error e => exact .error .refl
            | ok accessToken =>
              refine .ok .refl fun token htoken => ?_
              obtain rfl := List.mem_singleton.mp htoken
              exact ⟨user, hmem, hactive, .inl ⟨_, hc, haccess⟩⟩

theorem wp_signIn {sub email : String} {profile : GoogleProfile}
    (hV : ∀ user ∈ s.users.rows, user.email = email → V user) (hs : Changes config T V s₀ s) :
    (signIn config sub email profile).wp (Timed T) handle (Sound config T V s₀) s := by
  rw [signIn, Prog.wp_bind, Prog.wp_perform]
  intro c _
  simp only [handle, upsertUser]
  cases hfind : s.users.findBy? email with
  | none =>
    apply wp_statement_user hs (createUser_change rfl rfl hs)
    intro user huser hchange
    obtain ⟨rfl, hmem⟩ := createUser_ok huser
    exact wp_session hmem rfl (fun token htoken => wp_storeRefreshToken hmem htoken hchange) hchange
  | some user =>
    obtain ⟨hmem, hemail⟩ := UniqueTable.findBy?_eq_some.mp hfind
    refine wp_statement_user hs (hs.tail (.rewritten hmem (hV user hmem hemail) sub profile))
      fun user' huser' hchange => ?_
    obtain rfl := Except.ok.inj huser'
    have hmem' : (googleUpdate sub profile).apply user ∈
        (s.updateUser user.id (googleUpdate sub profile)).users.rows :=
      List.mem_map.mpr ⟨user, hmem, if_pos rfl⟩
    refine wp_session hmem' rfl (fun token htoken => ?_) hchange
    exact wp_storeRefreshToken hmem' htoken hchange

end Spec

section Users

variable {config : Config} {T : Int → Prop} {V : User → Prop} {s s' : Accounts}

theorem Change.active (h : Change config T V s s') {id : String}
    (hs : ∃ user ∈ s.users.rows, user.id = id ∧ user.isActive = true) :
    ∃ user ∈ s'.users.rows, user.id = id ∧ user.isActive = true := by
  obtain ⟨user, hmem, hid, hactive⟩ := hs
  cases h with
  | oauth store => exact ⟨user, hmem, hid, hactive⟩
  | created hinsert hrole hactive' =>
    refine ⟨user, ?_, hid, hactive⟩
    rw [(UniqueTable.insert_eq_some hinsert).1]
    exact List.mem_append_left _ hmem
  | @rewritten user' hmem' hV sub profile =>
    by_cases huser : user.id = user'.id
    · exact ⟨_, List.mem_map.mpr ⟨user, hmem, if_pos huser⟩, hid, rfl⟩
    · exact ⟨user, List.mem_map.mpr ⟨user, hmem, if_neg huser⟩, hid, hactive⟩
  | purged userId hT => exact ⟨user, hmem, hid, hactive⟩
  | stored hinsert htoken hT hexpires => exact ⟨user, hmem, hid, hactive⟩

theorem Changes.active (h : Changes config T V s s') {id : String}
    (hs : ∃ user ∈ s.users.rows, user.id = id ∧ user.isActive = true) :
    ∃ user ∈ s'.users.rows, user.id = id ∧ user.isActive = true := by
  induction h with
  | refl => exact hs
  | tail _ h ih => exact h.active ih

theorem Change.untouched (h : Change config T V s s') {user : User} (hV : ¬ V user)
    (hmem : user ∈ s.users.rows) : user ∈ s'.users.rows := by
  cases h with
  | oauth store => exact hmem
  | created hinsert hrole hactive =>
    rw [(UniqueTable.insert_eq_some hinsert).1]
    exact List.mem_append_left _ hmem
  | @rewritten user' hmem' hV' sub profile =>
    have hne : user.id ≠ user'.id := fun hid =>
      hV (List.inj_on_of_nodup_map s.users.nodup hmem hmem' hid ▸ hV')
    exact List.mem_map.mpr ⟨user, hmem, if_neg hne⟩
  | purged userId hT => exact hmem
  | stored hinsert htoken hT hexpires => exact hmem

theorem Changes.untouched (h : Changes config T V s s') {user : User} (hV : ¬ V user)
    (hmem : user ∈ s.users.rows) : user ∈ s'.users.rows := by
  induction h with
  | refl => exact hmem
  | tail _ h ih => exact h.untouched hV ih

end Users

section Callback

open AuthRoutes Accounts

variable {config : Config} {code state : Option String} {env : Script AuthMove} {s : Accounts}

def Accounts.useState (key : String) (s : Accounts) : Accounts :=
  { s with oauthStateStore := Function.update s.oauthStateStore key none }

def StatePending (key : String) (env : Script AuthMove) (s : Accounts) : Prop :=
  ∃ expiresAt, s.oauthStateStore key = some expiresAt ∧ expiresAt ≠ 0 ∧ (env 2).now ≤ expiresAt

theorem run_checkState (key : String) :
    StatePending key env s ∧ (checkState key).run (Handler.scripted handle) (env, s) =
        (.ok (), env.tail.tail.tail, s.useState key) ∨
      ¬ StatePending key env s ∧ ∃ e env', (checkState key).run (Handler.scripted handle) (env, s) =
        (.error e, env', s.useState key) := by
  simp only [checkState, Prog.run_bind, Prog.run_perform, Handler.scripted_apply, handle]
  cases hstored : (s.oauthStateStore key).filter (· ≠ 0) with
  | none =>
    refine .inr ⟨?_, _, _, rfl⟩
    rintro ⟨expiresAt, hkey, hne, -⟩
    simp [hkey, Option.filter_some, hne] at hstored
  | some expiresAt =>
    obtain ⟨hkey, hne⟩ := Option.filter_eq_some_iff.mp hstored
    by_cases hexpired : expiresAt < (env 2).now
    · refine .inr ⟨?_, .badRequest "Invalid or expired OAuth state", env.tail.tail.tail, ?_⟩
      · rintro ⟨expiresAt', hkey', -, hle⟩
        obtain rfl := Option.some.inj (hkey.symm.trans hkey')
        omega
      · simp only [Prog.run_bind, Prog.run_perform, Handler.scripted_apply, handle,
          Script.tail_apply, Nat.zero_add, Nat.reduceAdd, if_pos hexpired]
        rfl
    · refine .inl ⟨⟨expiresAt, hkey, by simpa using hne, by omega⟩, ?_⟩
      simp only [Prog.run_bind, Prog.run_perform, Handler.scripted_apply, handle,
        Script.tail_apply, Nat.zero_add, Nat.reduceAdd, if_neg hexpired]
      rfl

structure Profiled (env : Script AuthMove) (sub email : String) (profile : GoogleProfile) :
    Prop where
  exchanged : ∃ accessToken, (env 0).accessToken = .ok accessToken ∧ (truthy accessToken).isSome
  fetched : (env 1).profile = .ok profile
  sub : truthy profile.sub = some sub
  email : truthy profile.email = some email

theorem run_fetchProfile (code : String) :
    (∃ sub email profile, Profiled env sub email profile ∧
      (fetchProfile code).run (Handler.scripted handle) (env, s) =
        (.ok (sub, email, profile), env.tail.tail, s)) ∨
    (∀ sub email profile, ¬ Profiled env sub email profile) ∧ ∃ e env',
      (fetchProfile code).run (Handler.scripted handle) (env, s) = (.error e, env', s) := by
  simp only [fetchProfile, Prog.run_bind, Prog.run_perform, Handler.scripted_apply, handle]
  cases haccess : (env 0).accessToken with
  | error e =>
    refine .inr ⟨fun sub email profile h => ?_, _, _, rfl⟩
    obtain ⟨accessToken, hok, -⟩ := h.exchanged
    rw [haccess] at hok
    cases hok
  | ok accessToken =>
    simp only
    cases htoken : truthy accessToken with
    | none =>
      refine .inr ⟨fun sub email profile h => ?_, _, _, rfl⟩
      obtain ⟨accessToken', hok, hsome⟩ := h.exchanged
      obtain rfl := Except.ok.inj (haccess.symm.trans hok)
      simp [htoken] at hsome
    | some token =>
      simp only [Prog.run_bind, Prog.run_perform, Handler.scripted_apply, handle, Script.tail_apply]
      cases hprofile : (env 1).profile with
      | error e =>
        refine .inr ⟨fun sub email profile h => ?_, _, _, rfl⟩
        cases hprofile.symm.trans h.fetched
      | ok profile =>
        simp only
        split
        · next sub email hsub hemail =>
          exact .inl ⟨sub, email, profile,
            ⟨⟨accessToken, haccess, by simp [htoken]⟩, hprofile, hsub, hemail⟩, rfl⟩
        · next hincomplete =>
          refine .inr ⟨fun sub email profile' h => ?_, _, _, rfl⟩
          obtain rfl := Except.ok.inj (hprofile.symm.trans h.fetched)
          exact hincomplete sub email h.sub h.email

/-- The callback gets to its upsert, with the profile of `sub` and `email`. -/
structure Reaches (config : Config) (code state : Option String) (env : Script AuthMove)
    (s : Accounts) (sub email : String) (profile : GoogleProfile) : Prop where
  code : (truthy code).isSome
  pending : ∃ key, truthy state = some key ∧ StatePending key env s
  configured : googleConfigured config = true
  profiled : Profiled env.tail.tail.tail sub email profile

/-- Up to its upsert the callback only uses up the state. -/
theorem callback_cases :
    (∃ sub email profile key, Reaches config code state env s sub email profile ∧
      (callback config code state).play handle env s =
        (signIn config sub email profile).play handle (fun n => env (n + 5)) (s.useState key)) ∨
    (∀ sub email profile, ¬ Reaches config code state env s sub email profile) ∧
      ∃ e oauthStateStore, (callback config code state).play handle env s =
        (.error e, { s with oauthStateStore }) := by
  cases hcode : truthy code with
  | none =>
    refine .inr ⟨fun sub email profile h => by simpa [hcode] using h.code,
      .badRequest "Missing OAuth code/state", s.oauthStateStore, ?_⟩
    rw [callback, hcode]
    rfl
  | some code' =>
    cases hstate : truthy state with
    | none =>
      refine .inr ⟨fun sub email profile h => ?_, .badRequest "Missing OAuth code/state",
        s.oauthStateStore, ?_⟩
      · obtain ⟨key, hkey, -⟩ := h.pending
        rw [hstate] at hkey
        cases hkey
      · rw [callback, hcode, hstate]
        rfl
    | some key =>
      have hkey : ∀ {key'}, truthy state = some key' → key' = key := fun h =>
        Option.some.inj (h.symm.trans hstate)
      simp only [callback, hcode, hstate, Prog.play]
      rcases run_checkState (s := s) key with ⟨hpending, hrun⟩ | ⟨hpending, e, env', hrun⟩
      · rw [Prog.run_bind_ok _ hrun]
        cases hconfigured : googleConfigured config with
        | false =>
          exact .inr ⟨fun sub email profile h => by simpa [hconfigured] using h.configured,
            _, _, rfl⟩
        | true =>
          simp only [Bool.true_eq_false, if_false]
          rcases run_fetchProfile (s := s.useState key) code' with
            ⟨sub, email, profile, hprofiled, hrun'⟩ | ⟨hprofiled, e, env', hrun'⟩
          · rw [Prog.run_bind_ok _ hrun']
            exact .inl ⟨sub, email, profile, key,
              ⟨by simp [hcode], ⟨key, hstate, hpending⟩, hconfigured, hprofiled⟩, rfl⟩
          · rw [Prog.run_bind_error _ hrun']
            exact .inr ⟨fun sub email profile h => hprofiled _ _ _ h.profiled, _, _, rfl⟩
      · rw [Prog.run_bind_error _ hrun]
        refine .inr ⟨fun sub email profile h => ?_, _, _, rfl⟩
        obtain ⟨key', hstate', hpending'⟩ := h.pending
        rw [hkey hstate'] at hpending'
        exact hpending hpending'

end Callback

namespace AuthRequest

open Accounts

variable {config : Config} {T : Int → Prop} {env : Script AuthMove} {s : Accounts}

def Rewrites (config : Config) (env : Script AuthMove) (s : Accounts) :
    AuthRequest → User → Prop
  | .callback code state, user =>
    ∃ sub profile, Reaches config code state env s sub user.email profile
  | _, _ => False

theorem sound_send {V : User → Prop} {r : Except Error AuthResponse} {s' : Accounts}
    (h : Sound config T V s r s') :
    Changes config T V s s' ∧ Vouched config T (send r) s' := by
  refine ⟨h.1, ?_⟩
  cases r with
  | ok response => exact h.2 response rfl
  | error e =>
    exact fun token htoken => by
      simp [send, errorHandler, AuthResponse.tokens] at htoken

/-- What a request does, and whom its response's tokens are for. -/
theorem serve_spec (request : AuthRequest) (hT : ∀ n, T (env n).now) :
    Changes config T (request.Rewrites config env s) s (request.serve config env s).2 ∧
      Vouched config T (request.serve config env s).1 (request.serve config env s).2 := by
  rw [serve]
  apply sound_send
  cases request with
  | google => exact wp_google.play hT
  | register body => exact (wp_register body).play hT
  | login body => exact (wp_login body).play hT
  | refresh body => exact (wp_refresh body).play hT
  | callback code state =>
    simp only [handler]
    rcases callback_cases (s := s) with
      ⟨sub, email, profile, key, hreaches, hplay⟩ | ⟨-, e, store, hplay⟩
    · rw [hplay]
      have hstate : Changes config T (Rewrites config env s (.callback code state)) s
          (s.useState key) := .single (.oauth _)
      exact (wp_signIn (fun user _ hemail => ⟨sub, profile, hemail ▸ hreaches⟩) hstate).play
        fun n => hT (n + 5)
    · rw [hplay]
      exact .error (.single (.oauth _))

end AuthRequest

end Ecommerce
