import Ecommerce.Gateway.Workers
import Ecommerce.Lib.Pool

/-! Concurrent registrations: what each has written when it is answered. -/

namespace Ecommerce

open AuthRoutes

def AuthResponse.status : AuthResponse → Nat
  | .json body => body.status
  | .redirect _ _ => 302

/-- A request to register, what it has written, and whether its e-mail was taken when it was looked
up or inserted. -/
structure Registration where
  program : AuthM AuthResponse
  insertedUser : Bool
  insertedToken : Bool
  conflict : Bool

namespace Registration

def start (config : Config) (body : RegisterBody) : Registration :=
  ⟨register config (.ok body), false, false, false⟩

def status (r : Registration) : Option Nat :=
  r.program.settlement.map fun result => (AuthRequest.send result).status

def findsTaken (c : AuthMove) (s : Accounts) (op : AuthOp) : Bool :=
  match c.db, op with
  | .accept, .findUserByEmail email => (s.users.findBy? email).isSome
  | .accept, .createUser data => (s.users.findBy? data.email).isSome
  | _, _ => false

@[simp] theorem findsTaken_argonHash (c : AuthMove) (s : Accounts) (password : String) :
    findsTaken c s (.argonHash password) = false := by
  unfold findsTaken
  cases c.db <;> rfl

@[simp] theorem findsTaken_createRefreshToken (c : AuthMove) (s : Accounts)
    (data : NewRefreshToken) : findsTaken c s (.createRefreshToken data) = false := by
  unfold findsTaken
  cases c.db <;> rfl

/-- The request gets the answer that it awaits, and goes on to its next statement. -/
def step (env : Script AuthMove) (r : Registration) (s : Accounts) : Registration × Accounts :=
  let after := r.program.resume AuthOp.sync Accounts.handle env s
  ({ program := after.rest
     insertedUser := r.insertedUser || decide (after.state.users.rows ≠ s.users.rows)
     insertedToken := r.insertedToken ||
       decide (after.state.refreshTokens.rows ≠ s.refreshTokens.rows)
     conflict := r.conflict || r.program.awaited.any (findsTaken (env 0) s) }, after.state)

/-- The registrations after the turns of a schedule. -/
def run (config : Config) (bodies : List RegisterBody) (s : Accounts)
    (sched : List (Nat × Script AuthMove)) : Pool Registration Accounts :=
  sched.foldl (Pool.turn step) ⟨bodies.map (start config), s⟩

/-- What is promised of a registration: `s` are the tables, `alone` what they are without it. -/
structure Atomic (r : Registration) (s alone : Accounts) : Prop where
  created : r.status = some 201 ↔ r.insertedUser = true ∧ r.insertedToken = true
  conflict : r.conflict = true → r.status = some 409
  traceless : ∀ n, r.status = some n → n ≠ 201 →
    s.users = alone.users ∧ s.refreshTokens = alone.refreshTokens

/-- Every registration is atomic, against the run without its turns. -/
def AllAtomic (config : Config) (bodies : List RegisterBody) (s : Accounts)
    (sched : List (Nat × Script AuthMove)) : Prop :=
  ∀ (i : Nat) (r : Registration), (run config bodies s sched).threads[i]? = some r →
    r.Atomic (run config bodies s sched).state
      (run config bodies s (sched.filter fun t => t.1 ≠ i)).state

/-- The statement does not leave a registration half done: a user is inserted under an e-mail that
is free, with its answer, and can be given its tokens; a refresh token is inserted with its
answer. -/
def Sure (config : Config) (c : AuthMove) (s : Accounts) : AuthOp → Prop
  | .createUser data =>
    match c.db with
    | .accept => s.users.findBy? data.email = none ∧
        ((s.users.insert (data.row c.newId)).isSome →
          config.jwtAccessExpiry.isSome ∧ config.jwtRefreshExpiry.isSome)
    | .reject _ => True
    | .lost _ => s.users.insert (data.row c.newId) = none
  | .createRefreshToken data =>
    match c.db with
    | .accept => (s.createRefreshToken data c.newId).1 = .ok ()
    | .reject _ => False
    | .lost _ => False
  | _ => True

def SureTurn (config : Config) (pool : Pool Registration Accounts) (t : Nat × Script AuthMove) :
    Prop :=
  ∀ r op, pool.threads[t.1]? = some r → r.program.awaited = some op →
    Sure config (t.2 0) pool.state op

section Stage

variable (config : Config) (body : RegisterBody)

def caught : AuthM AuthResponse → AuthM AuthResponse :=
  guarded [.conflict, .badRequest] "Registration failed"

/-- A registration that has its user. -/
def opening (user : User) : AuthM AuthResponse := do
  let accessToken ← generateAccessToken config user.payload
  let refreshToken ← generateRefreshToken config user.payload
  storeRefreshToken refreshToken user.id
  pure (.json (.success 201 "User registered successfully"
    (.session user.view accessToken refreshToken)))

def newUser (passwordHash : String) : NewUser where
  email := body.email
  passwordHash := some passwordHash
  firstName := body.firstName
  lastName := body.lastName
  role := .user
  provider := .local

def inserting (passwordHash : String) : AuthM AuthResponse := do
  let user ← .perform (AuthOp.createUser (newUser body passwordHash))
  opening config user

def hashing : AuthM AuthResponse := do
  let passwordHash ← .perform (AuthOp.argonHash body.password)
  inserting config body passwordHash

theorem register_eq : register config (.ok body) = caught (do
    let existingUser ← .perform (AuthOp.findUserByEmail body.email)
    if existingUser.isSome then throw (.app .conflict "Email already registered")
    hashing config body) := rfl

def storing (data : NewRefreshToken) (session : AuthData) : AuthM AuthResponse := do
  .perform (AuthOp.createRefreshToken data)
  pure (.json (.success 201 "User registered successfully" session))

end Stage

section Turn

variable {config : Config} {env : Script AuthMove} {s s' : Accounts} {u t c : Bool}

theorem caught_perform {op : AuthOp} (f : op.Res → AuthM AuthResponse) :
    caught (Prog.perform op >>= f) = .await op fun r => caught (Prog.settle r >>= f) := rfl

theorem step_settled {r : Registration} (hr : r.program.settlement.isSome) :
    step env r s = (r, s) := by
  have hawaited : r.program.awaited = none := by
    cases hp : r.program with
    | pure a => rfl
    | throw e => rfl
    | await op k =>
      rw [hp] at hr
      cases hr
  simp [step, Prog.resume_settled _ _ _ hr, hawaited]

theorem segment_opening (config : Config) (env : Script AuthMove) (s : Accounts) (user : User) :
    ∃ rest performed, (caught (opening config user)).segment AuthOp.sync Accounts.handle env s =
      ⟨rest, s, performed⟩ ∧
      ((config.jwtAccessExpiry.isSome ∧ config.jwtRefreshExpiry.isSome ∧
          ∃ data session, rest = caught (storing data session)) ∨
        ¬(config.jwtAccessExpiry.isSome ∧ config.jwtRefreshExpiry.isSome) ∧
          ∃ response, rest = .pure response ∧ response.status = 500) := by
  obtain ⟨accessSecret, refreshSecret, access, refresh, clientId, clientSecret, callbackUrl⟩ := config
  cases access with
  | none => exact ⟨_, _, rfl, .inr ⟨fun h => Bool.false_ne_true h.1, _, rfl, rfl⟩⟩
  | some access =>
    cases refresh with
    | none => exact ⟨_, _, rfl, .inr ⟨fun h => Bool.false_ne_true h.2, _, rfl, rfl⟩⟩
    | some refresh => exact ⟨_, _, rfl, .inl ⟨rfl, rfl, _, _, rfl⟩⟩

/-- A registration that is answered has made its account, or has written nothing; the last two ways
break the promise. -/
inductive Answered : Registration → Prop
  | created {p : AuthM AuthResponse} (h : status ⟨p, true, true, false⟩ = some 201) :
      Answered ⟨p, true, true, false⟩
  | refused {p : AuthM AuthResponse} (h : status ⟨p, false, false, true⟩ = some 409) :
      Answered ⟨p, false, false, true⟩
  | failed {p : AuthM AuthResponse} {n : Nat} (h : status ⟨p, false, false, false⟩ = some n)
      (hn : n ≠ 201) : Answered ⟨p, false, false, false⟩
  | lostRace {p : AuthM AuthResponse} (h : status ⟨p, false, false, true⟩ = some 500) :
      Answered ⟨p, false, false, true⟩
  | leftBehind {p : AuthM AuthResponse} {token : Bool}
      (h : status ⟨p, true, token, false⟩ = some 500) : Answered ⟨p, true, token, false⟩

inductive Stage (config : Config) : Registration → Prop
  | lookup (body : RegisterBody) : Stage config (start config body)
  | hash (body : RegisterBody) : Stage config ⟨caught (hashing config body), false, false, false⟩
  | insert (body : RegisterBody) (passwordHash : String) :
      Stage config ⟨caught (inserting config body passwordHash), false, false, false⟩
  | store (data : NewRefreshToken) (session : AuthData) :
      Stage config ⟨caught (storing data session), true, false, false⟩
  | answered {r : Registration} (h : r.Answered) : Stage config r

def Broken (r : Registration) : Prop :=
  r.status = some 500 ∧ (r.conflict = true ∨ r.insertedUser = true)

structure Progress (config : Config) (c : AuthMove) (s : Accounts) (r : Registration)
    (after : Registration × Accounts) : Prop where
  stage : Stage config after.1
  broken : after.1.Broken ↔
    r.Broken ∨ ¬ ∀ op, r.program.awaited = some op → Sure config c s op
  users : after.2.users.rows = s.users.rows ∨
    ∃ user, user.id = c.newId ∧ after.2.users.rows = s.users.rows ++ [user]
  still : after.1.insertedUser = false → after.1.insertedToken = false → after.2 = s

section Step

variable {op : AuthOp} {f : op.Res → AuthM AuthResponse}

theorem step_ok {a : op.Res} {rest : AuthM AuthResponse} {performed : AuthDoings}
    (hop : Accounts.handle (env 0) op s = (.ok a, s'))
    (hrest : (caught (f a)).segment AuthOp.sync Accounts.handle env.tail s' =
      ⟨rest, s', performed⟩) :
    step env ⟨caught (Prog.perform op >>= f), u, t, c⟩ s =
      (⟨rest, u || decide (s'.users.rows ≠ s.users.rows),
        t || decide (s'.refreshTokens.rows ≠ s.refreshTokens.rows),
        c || findsTaken (env 0) s op⟩, s') := by
  have hk : caught (Prog.settle (.ok a) >>= f) = caught (f a) := rfl
  simp only [step, caught_perform, Prog.resume, Prog.awaited, hop, hk, hrest, Option.any_some]

theorem step_ok_still {a : op.Res} (hop : Accounts.handle (env 0) op s = (.ok a, s))
    (hrest : (caught (f a)).segment AuthOp.sync Accounts.handle env.tail s =
      ⟨caught (f a), s, []⟩) :
    step env ⟨caught (Prog.perform op >>= f), u, t, c⟩ s =
      (⟨caught (f a), u, t, c || findsTaken (env 0) s op⟩, s) := by
  rw [step_ok hop hrest]
  simp

theorem caught_throw (e : Error) : ∃ result : Except Error AuthResponse,
    (caught (throw e)).settlement = some result ∧ (AuthRequest.send result).status ≠ 201 := by
  by_cases h : [ErrorClass.conflict, .badRequest].any e.isInstance
  · have hthrow : caught (throw e) = .throw e := if_pos h
    refine ⟨.error e, by rw [hthrow]; rfl, ?_⟩
    change e.statusCode ≠ 201
    cases e with
    | app cls m => cases cls <;> simp [Error.statusCode]
    | plain m => simp [Error.statusCode]
  · have hreply : caught (throw e) =
        .pure (.json (.failure 500 (orFallback e.message "Registration failed"))) := if_neg h
    refine ⟨_, by rw [hreply]; rfl, ?_⟩
    change 500 ≠ 201
    decide

theorem step_error {e : Error} (hop : Accounts.handle (env 0) op s = (.error e, s')) :
    step env ⟨caught (Prog.perform op >>= f), u, t, c⟩ s =
      (⟨caught (throw e), u || decide (s'.users.rows ≠ s.users.rows),
        t || decide (s'.refreshTokens.rows ≠ s.refreshTokens.rows),
        c || findsTaken (env 0) s op⟩, s') := by
  have hk : caught (Prog.settle (.error e) >>= f) = caught (throw e) := rfl
  obtain ⟨result, hsettled, -⟩ := caught_throw e
  have hrest : (caught (throw e)).segment AuthOp.sync Accounts.handle env.tail s' =
      ⟨caught (throw e), s', []⟩ := Prog.segment_settled _ _ _ (by rw [hsettled]; rfl)
  simp only [step, caught_perform, Prog.resume, Prog.awaited, hop, hk, hrest, Option.any_some]

end Step

theorem not_broken_of_flags (p : AuthM AuthResponse) : ¬ Broken ⟨p, false, t, false⟩ := by
  rintro ⟨-, h | h⟩ <;> cases h

theorem not_broken_of_caught (op : AuthOp) (f : op.Res → AuthM AuthResponse) :
    ¬ Broken ⟨caught (Prog.perform op >>= f), u, t, c⟩ := by
  rintro ⟨hstatus, -⟩
  cases hstatus

theorem stage_failed (e : Error) : Stage config ⟨caught (throw e), false, false, false⟩ := by
  obtain ⟨result, hsettled, hstatus⟩ := caught_throw e
  exact .answered (.failed (by rw [status, hsettled]; rfl) hstatus)

section Progress

variable {c₀ : AuthMove} {op : AuthOp} {f : op.Res → AuthM AuthResponse}
  {after : Registration × Accounts}

theorem progress_sure (hsure : Sure config c₀ s op) (hstage : Stage config after.1)
    (hnot : ¬ after.1.Broken)
    (husers : after.2.users.rows = s.users.rows ∨
      ∃ user, user.id = c₀.newId ∧ after.2.users.rows = s.users.rows ++ [user])
    (hstill : after.1.insertedUser = false → after.1.insertedToken = false → after.2 = s) :
    Progress config c₀ s ⟨caught (Prog.perform op >>= f), u, t, c⟩ after where
  stage := hstage
  broken := by
    refine ⟨fun h => absurd h hnot, fun h => ?_⟩
    rcases h with h | h
    · exact absurd h (not_broken_of_caught op f)
    · refine absurd (fun op' hop' => ?_) h
      obtain rfl := Option.some.inj hop'
      exact hsure
  users := husers
  still := hstill

theorem progress_broken (hsure : ¬ Sure config c₀ s op) (hstage : Stage config after.1)
    (hbroken : after.1.Broken)
    (husers : after.2.users.rows = s.users.rows ∨
      ∃ user, user.id = c₀.newId ∧ after.2.users.rows = s.users.rows ++ [user])
    (hstill : after.1.insertedUser = false → after.1.insertedToken = false → after.2 = s) :
    Progress config c₀ s ⟨caught (Prog.perform op >>= f), u, t, c⟩ after where
  stage := hstage
  broken := ⟨fun _ => .inr fun h => hsure (h op rfl), fun _ => hbroken⟩
  users := husers
  still := hstill

theorem progress_failed {e : Error} (hop : Accounts.handle (env 0) op s = (.error e, s))
    (hfree : findsTaken (env 0) s op = false) (hsure : Sure config (env 0) s op) :
    Progress config (env 0) s ⟨caught (Prog.perform op >>= f), false, false, false⟩
      (step env ⟨caught (Prog.perform op >>= f), false, false, false⟩ s) := by
  rw [step_error hop, hfree]
  simp only [ne_eq, not_true_eq_false, decide_false, Bool.or_self]
  exact progress_sure hsure (stage_failed e) (not_broken_of_flags _) (.inl rfl) fun _ _ => rfl

end Progress

theorem progress_lookup (body : RegisterBody) :
    Progress config (env 0) s (start config body) (step env (start config body) s) := by
  rw [start, register_eq]
  cases hdb : (env 0).db with
  | accept =>
    have hop : Accounts.handle (env 0) (.findUserByEmail body.email) s =
        (.ok (s.users.findBy? body.email), s) := by
      simp [Accounts.handle, Accounts.statement, hdb]
    have htaken : findsTaken (env 0) s (.findUserByEmail body.email) =
        (s.users.findBy? body.email).isSome := by simp [findsTaken, hdb]
    cases hfind : s.users.findBy? body.email with
    | none =>
      rw [hfind] at hop htaken
      rw [step_ok_still hop rfl, htaken]
      exact progress_sure trivial (.hash body) (not_broken_of_flags _) (.inl rfl) fun _ _ => rfl
    | some user =>
      rw [hfind] at hop htaken
      rw [step_ok_still hop rfl, htaken]
      refine progress_sure trivial (.answered (.refused rfl)) ?_ (.inl rfl) fun _ _ => rfl
      rintro ⟨h, -⟩
      cases h
  | reject m =>
    have hop : Accounts.handle (env 0) (.findUserByEmail body.email) s = (.error (.plain m), s) := by
      simp [Accounts.handle, Accounts.statement, hdb]
    exact progress_failed hop (by simp [findsTaken, hdb]) trivial
  | lost m =>
    have hop : Accounts.handle (env 0) (.findUserByEmail body.email) s = (.error (.plain m), s) := by
      simp [Accounts.handle, Accounts.statement, hdb]
    exact progress_failed hop (by simp [findsTaken, hdb]) trivial

theorem progress_hash (body : RegisterBody) :
    Progress config (env 0) s ⟨caught (hashing config body), false, false, false⟩
      (step env ⟨caught (hashing config body), false, false, false⟩ s) := by
  rw [hashing]
  have hfree := findsTaken_argonHash (env 0) s body.password
  cases hhash : (env 0).hash with
  | error e =>
    have hop : Accounts.handle (env 0) (.argonHash body.password) s = (.error e, s) :=
      congrArg (·, s) hhash
    exact progress_failed hop hfree trivial
  | ok passwordHash =>
    have hop : Accounts.handle (env 0) (.argonHash body.password) s = (.ok passwordHash, s) :=
      congrArg (·, s) hhash
    rw [step_ok_still hop rfl, hfree]
    exact progress_sure trivial (.insert body passwordHash) (not_broken_of_flags _) (.inl rfl)
      fun _ _ => rfl

theorem handle_createUser (data : NewUser) (s : Accounts) :
    Accounts.handle (env 0) (.createUser data) s =
      Accounts.statement (env 0).db (s.createUser data (env 0).newId) s := rfl

theorem createUser_of_none {data : NewUser} {id : String} (h : s.users.insert (data.row id) = none) :
    s.createUser data id = (.error Accounts.uniqueViolation, s) := by
  simp [Accounts.createUser, h]

theorem createUser_of_some {data : NewUser} {id : String} {users : UserTable}
    (h : s.users.insert (data.row id) = some users) :
    s.createUser data id = (.ok (data.row id), { s with users }) := by
  simp [Accounts.createUser, h]

theorem findBy?_of_insert {user : User} {users : UserTable} (h : s.users.insert user = some users) :
    s.users.findBy? user.email = none := by
  apply Table.find?_eq_none.mpr
  exact (UniqueTable.insert_eq_some h).2.2

theorem progress_inserted (body : RegisterBody) (passwordHash : String) {users : UserTable}
    (hdb : (env 0).db = .accept)
    (hinsert : s.users.insert ((newUser body passwordHash).row (env 0).newId) = some users) :
    Progress config (env 0) s ⟨caught (inserting config body passwordHash), false, false, false⟩
      (step env ⟨caught (inserting config body passwordHash), false, false, false⟩ s) := by
  obtain ⟨hrows, -⟩ := UniqueTable.insert_eq_some hinsert
  have hfree : s.users.findBy? (newUser body passwordHash).email = none := findBy?_of_insert hinsert
  have hop : Accounts.handle (env 0) (.createUser (newUser body passwordHash)) s =
      (.ok ((newUser body passwordHash).row (env 0).newId), { s with users }) := by
    rw [handle_createUser, createUser_of_some hinsert, hdb]
    rfl
  have htaken : findsTaken (env 0) s (.createUser (newUser body passwordHash)) = false := by
    simp [findsTaken, hdb, hfree]
  have hsure : Sure config (env 0) s (.createUser (newUser body passwordHash)) ↔
      config.jwtAccessExpiry.isSome ∧ config.jwtRefreshExpiry.isSome := by
    simp [Sure, hdb, hfree, hinsert]
  obtain ⟨rest, performed, hrest, hcases⟩ := segment_opening config env.tail
    { s with users } ((newUser body passwordHash).row (env 0).newId)
  have husers : users.rows = s.users.rows ∨
      ∃ user, user.id = (env 0).newId ∧ users.rows = s.users.rows ++ [user] :=
    .inr ⟨_, rfl, hrows⟩
  have hchanged : users.rows ≠ s.users.rows := by simp [hrows]
  rw [inserting, step_ok hop hrest, htaken]
  simp only [hchanged, ne_eq, not_false_eq_true, decide_true, not_true_eq_false, decide_false,
    Bool.or_self, Bool.or_true]
  rcases hcases with ⟨haccess, hrefresh, data, session, rfl⟩ | ⟨hexpiring, response, rfl, h500⟩
  · exact progress_sure (hsure.mpr ⟨haccess, hrefresh⟩) (.store data session)
      (not_broken_of_caught _ _) husers fun h => by cases h
  · exact progress_broken (mt hsure.mp hexpiring) (.answered (.leftBehind (congrArg some h500)))
      ⟨congrArg some h500, .inr rfl⟩ husers fun h => by cases h

theorem progress_refused (body : RegisterBody) (passwordHash : String)
    (hdb : (env 0).db = .accept)
    (hinsert : s.users.insert ((newUser body passwordHash).row (env 0).newId) = none) :
    Progress config (env 0) s ⟨caught (inserting config body passwordHash), false, false, false⟩
      (step env ⟨caught (inserting config body passwordHash), false, false, false⟩ s) := by
  have hop : Accounts.handle (env 0) (.createUser (newUser body passwordHash)) s =
      (.error Accounts.uniqueViolation, s) := by
    rw [handle_createUser, createUser_of_none hinsert, hdb]
    rfl
  have htaken : findsTaken (env 0) s (.createUser (newUser body passwordHash)) =
      (s.users.findBy? (newUser body passwordHash).email).isSome := by simp [findsTaken, hdb]
  have hsure : Sure config (env 0) s (.createUser (newUser body passwordHash)) ↔
      s.users.findBy? (newUser body passwordHash).email = none := by
    simp [Sure, hdb, hinsert]
  rw [inserting]
  cases hfind : s.users.findBy? (newUser body passwordHash).email with
  | none =>
    rw [hfind] at htaken
    exact progress_failed hop htaken (hsure.mpr hfind)
  | some user =>
    rw [hfind] at htaken
    rw [step_error hop, htaken]
    simp only [ne_eq, not_true_eq_false, decide_false, Bool.or_self, Option.isSome_some,
      Bool.or_true]
    refine progress_broken ?_ (.answered (.lostRace rfl)) ⟨rfl, .inl rfl⟩ (.inl rfl) fun _ _ => rfl
    rw [hsure, hfind]
    exact Option.some_ne_none user

theorem progress_insert (body : RegisterBody) (passwordHash : String) :
    Progress config (env 0) s ⟨caught (inserting config body passwordHash), false, false, false⟩
      (step env ⟨caught (inserting config body passwordHash), false, false, false⟩ s) := by
  cases hdb : (env 0).db with
  | accept =>
    cases hinsert : s.users.insert ((newUser body passwordHash).row (env 0).newId) with
    | none => exact progress_refused body passwordHash hdb hinsert
    | some users => exact progress_inserted body passwordHash hdb hinsert
  | reject m =>
    have hop : Accounts.handle (env 0) (.createUser (newUser body passwordHash)) s =
        (.error (.plain m), s) := by
      rw [handle_createUser, hdb]
      rfl
    exact progress_failed hop (by simp [findsTaken, hdb]) (by simp [Sure, hdb])
  | lost m =>
    have htaken : findsTaken (env 0) s (.createUser (newUser body passwordHash)) = false := by
      simp [findsTaken, hdb]
    cases hinsert : s.users.insert ((newUser body passwordHash).row (env 0).newId) with
    | none =>
      have hop : Accounts.handle (env 0) (.createUser (newUser body passwordHash)) s =
          (.error (.plain m), s) := by
        rw [handle_createUser, createUser_of_none hinsert, hdb]
        rfl
      exact progress_failed hop htaken (by simp [Sure, hdb, hinsert])
    | some users =>
      obtain ⟨hrows, -⟩ := UniqueTable.insert_eq_some hinsert
      have hop : Accounts.handle (env 0) (.createUser (newUser body passwordHash)) s =
          (.error (.plain m), { s with users }) := by
        rw [handle_createUser, createUser_of_some hinsert, hdb]
        rfl
      have hchanged : users.rows ≠ s.users.rows := by simp [hrows]
      rw [inserting, step_error hop, htaken]
      simp only [hchanged, ne_eq, not_false_eq_true, decide_true, not_true_eq_false, decide_false,
        Bool.or_self, Bool.or_true]
      refine progress_broken ?_ (.answered (.leftBehind rfl)) ⟨rfl, .inr rfl⟩ (.inr ⟨_, rfl, hrows⟩)
        fun h => by cases h
      simp [Sure, hdb, hinsert]

theorem progress_unstored {data : NewRefreshToken} {session : AuthData} {m : String} {s' : Accounts}
    (hop : Accounts.handle (env 0) (.createRefreshToken data) s = (.error (.plain m), s'))
    (husers : s'.users = s.users)
    (hsure : ¬ Sure config (env 0) s (.createRefreshToken data)) :
    Progress config (env 0) s ⟨caught (storing data session), true, false, false⟩
      (step env ⟨caught (storing data session), true, false, false⟩ s) := by
  have hfree := findsTaken_createRefreshToken (env 0) s data
  rw [storing, step_error hop, hfree]
  exact progress_broken hsure (.answered (.leftBehind rfl)) ⟨rfl, .inr rfl⟩
    (.inl (congrArg (·.rows) husers)) fun h => by cases h

theorem createRefreshToken_cases (data : NewRefreshToken) (id : String) (s : Accounts) :
    (∃ e, s.createRefreshToken data id = (.error (.plain e), s)) ∨
      ∃ s', s.createRefreshToken data id = (.ok (), s') ∧ s'.users = s.users ∧
        s'.refreshTokens.rows ≠ s.refreshTokens.rows := by
  unfold Accounts.createRefreshToken
  split
  · exact .inl ⟨_, rfl⟩
  · split
    · exact .inl ⟨_, rfl⟩
    · next refreshTokens hinsert =>
      refine .inr ⟨_, rfl, rfl, ?_⟩
      simp [(UniqueTable.insert_eq_some hinsert).1]

theorem progress_store (data : NewRefreshToken) (session : AuthData) :
    Progress config (env 0) s ⟨caught (storing data session), true, false, false⟩
      (step env ⟨caught (storing data session), true, false, false⟩ s) := by
  have hhandle : Accounts.handle (env 0) (.createRefreshToken data) s =
      Accounts.statement (env 0).db (s.createRefreshToken data (env 0).newId) s := rfl
  have hfree := findsTaken_createRefreshToken (env 0) s data
  cases hdb : (env 0).db with
  | accept =>
    rcases createRefreshToken_cases data (env 0).newId s with
      ⟨e, hcreate⟩ | ⟨s', hcreate, husers, hrows⟩
    · rw [hdb, hcreate] at hhandle
      exact progress_unstored hhandle rfl (by simp [Sure, hdb, hcreate])
    · rw [hdb, hcreate] at hhandle
      rw [storing, step_ok hhandle rfl, hfree]
      simp only [hrows, ne_eq, not_false_eq_true, decide_true, Bool.true_or, Bool.or_true,
        Bool.or_self]
      refine progress_sure (by simp [Sure, hdb, hcreate]) (.answered (.created rfl)) ?_
        (.inl (congrArg (·.rows) husers)) fun h => by cases h
      rintro ⟨h, -⟩
      cases h
  | reject m =>
    rw [hdb] at hhandle
    exact progress_unstored hhandle rfl (by simp [Sure, hdb])
  | lost m =>
    rw [hdb] at hhandle
    rcases createRefreshToken_cases data (env 0).newId s with
      ⟨e, hcreate⟩ | ⟨s', hcreate, husers, hrows⟩
    · rw [hcreate] at hhandle
      exact progress_unstored hhandle rfl (by simp [Sure, hdb])
    · rw [hcreate] at hhandle
      exact progress_unstored hhandle husers (by simp [Sure, hdb])

theorem Answered.isSome {r : Registration} (h : r.Answered) : r.program.settlement.isSome := by
  have hstatus : ∃ n, r.status = some n := by
    cases h with
    | created h | refused h | lostRace h | leftBehind h => exact ⟨_, h⟩
    | failed h hn => exact ⟨_, h⟩
  obtain ⟨n, hn⟩ := hstatus
  obtain ⟨result, hresult, -⟩ := Option.map_eq_some_iff.mp hn
  rw [hresult]
  rfl

/-- Every turn of a registration. -/
theorem Stage.progress {r : Registration} (h : Stage config r) (env : Script AuthMove)
    (s : Accounts) : Progress config (env 0) s r (step env r s) := by
  cases h with
  | lookup body => exact progress_lookup body
  | hash body => exact progress_hash body
  | insert body passwordHash => exact progress_insert body passwordHash
  | store data session => exact progress_store data session
  | answered h =>
    rw [step_settled h.isSome]
    refine ⟨.answered h, ⟨.inl, fun hr => hr.resolve_right fun hnot => ?_⟩, .inl rfl, fun _ _ => rfl⟩
    apply hnot
    intro op hop
    have hsettled := h.isSome
    obtain ⟨p, u, t, c⟩ := r
    cases p with
    | pure a => cases hop
    | throw e => cases hop
    | await op k => cases hsettled

end Turn

section Run

variable {config : Config} {bodies : List RegisterBody} {s : Accounts} {i : Nat}
  {sched : List (Nat × Script AuthMove)}

def Staged (config : Config) (pool : Pool Registration Accounts) : Prop :=
  ∀ r ∈ pool.threads, Stage config r

theorem staged_turn {pool : Pool Registration Accounts} (h : Staged config pool)
    (t : Nat × Script AuthMove) : Staged config (Pool.turn step pool t) :=
  Pool.turn_forall h fun _ _ hr => (hr.progress t.2 pool.state).stage

theorem staged_start : Staged config ⟨bodies.map (start config), s⟩ := by
  intro r hr
  obtain ⟨body, -, rfl⟩ := List.mem_map.mp hr
  exact .lookup body

theorem staged_run (sched : List (Nat × Script AuthMove)) :
    Staged config (run config bodies s sched) :=
  Runs.foldl_invariant (I := Staged config) (fun _ t h => staged_turn h t) staged_start sched

/-- A turn breaks a registration if and only if it is not sure. -/
theorem broken_turn {pool : Pool Registration Accounts} (h : Staged config pool)
    (t : Nat × Script AuthMove) :
    (∃ r ∈ (Pool.turn step pool t).threads, r.Broken) ↔
      (∃ r ∈ pool.threads, r.Broken) ∨ ¬ SureTurn config pool t := by
  cases hr : pool.threads[t.1]? with
  | none =>
    have hsure : SureTurn config pool t := by
      intro r op hr'
      rw [hr] at hr'
      cases hr'
    simp only [Pool.turn, hr, hsure, not_true_eq_false, or_false]
  | some r =>
    have hsure : SureTurn config pool t ↔
        ∀ op, r.program.awaited = some op → Sure config (t.2 0) pool.state op := by
      constructor
      · exact fun h op hop => h r op hr hop
      · intro h r' op hr' hop
        obtain rfl := Option.some.inj (hr.symm.trans hr')
        exact h op hop
    rw [hsure]
    exact Pool.exists_turn hr ((h r (List.mem_of_getElem? hr)).progress t.2 pool.state).broken

/-- All turns are sure exactly where no registration ends up broken. -/
theorem along_sure_iff : Runs.Along (Pool.turn step) (SureTurn config)
      ⟨bodies.map (start config), s⟩ sched ↔
    ∀ r ∈ (run config bodies s sched).threads, ¬ r.Broken := by
  have hfirst : ¬ ∃ r ∈ bodies.map (start config), r.Broken := by
    rintro ⟨r, hr, hbroken⟩
    obtain ⟨body, -, rfl⟩ := List.mem_map.mp hr
    exact not_broken_of_flags _ hbroken
  constructor
  · intro hsure r hr hbroken
    have hkept := Runs.foldl_of_along
      (J := fun pool => Staged config pool ∧ ¬ ∃ r ∈ pool.threads, r.Broken)
      (fun pool t hpool ht => ⟨staged_turn hpool.1 t, fun h =>
        ((broken_turn hpool.1 t).mp h).elim hpool.2 fun hnot => hnot ht⟩)
      ⟨staged_start, hfirst⟩ hsure
    exact hkept.2 ⟨r, hr, hbroken⟩
  · intro hnone
    refine (Runs.along_of_not (J := Staged config) (B := fun pool => ∃ r ∈ pool.threads, r.Broken)
      (fun _ t h => staged_turn h t) (fun pool t h => (broken_turn h t).mpr) staged_start ?_).2
    rintro ⟨r, hr, hbroken⟩
    exact hnone r hr hbroken

section Trace

def HasWritten (i : Nat) (pool : Pool Registration Accounts) : Prop :=
  ∃ r, pool.threads[i]? = some r ∧ (r.insertedUser = true ∨ r.insertedToken = true)

theorem hasWritten_turn {pool : Pool Registration Accounts} (hpool : Staged config pool)
    (t : Nat × Script AuthMove) (h : HasWritten i pool ∨
      ¬(t.1 = i → (Pool.turn step pool t).state = pool.state)) :
    HasWritten i (Pool.turn step pool t) := by
  by_cases hi : t.1 = i
  · subst hi
    cases hr : pool.threads[t.1]? with
    | none => simp [HasWritten, Pool.turn, hr] at h
    | some r =>
      refine ⟨_, Pool.threads_turn_self hr, ?_⟩
      rcases h with ⟨r', hr', h⟩ | h
      · obtain rfl := Option.some.inj (hr.symm.trans hr')
        rcases h with h | h
        · exact .inl (by simp [step, h])
        · exact .inr (by simp [step, h])
      · have hprogress := (hpool r (List.mem_of_getElem? hr)).progress t.2 pool.state
        by_contra hnot
        simp only [not_or, Bool.not_eq_true] at hnot
        exact h fun _ => (Pool.state_turn hr).trans (hprogress.still hnot.1 hnot.2)
  · rcases h with ⟨r, hr, h⟩ | h
    · exact ⟨r, (Pool.threads_turn_of_ne hi).trans hr, h⟩
    · exact absurd (fun hi' => absurd hi' hi) h

/-- A request that has written nothing might as well not have been there. -/
theorem state_without {r : Registration} (hr : (run config bodies s sched).threads[i]? = some r)
    (huser : r.insertedUser = false) (htoken : r.insertedToken = false) :
    (run config bodies s (sched.filter fun t => t.1 ≠ i)).state =
      (run config bodies s sched).state := by
  refine Pool.state_filter rfl (fun _ _ => rfl) ?_
  refine (Runs.along_of_not (J := Staged config) (B := HasWritten i) (fun _ t h => staged_turn h t)
    (fun _ t h => hasWritten_turn h t) staged_start ?_).2
  rintro ⟨r', hr', h⟩
  obtain rfl := Option.some.inj (hr.symm.trans hr')
  simp [huser, htoken] at h

def ids (s : Accounts) : List String := s.users.rows.map User.id

/-- The id that a turn has ready for the row that it inserts. -/
def nextId (t : Nat × Script AuthMove) : String := (t.2 0).newId

theorem ids_turn {pool : Pool Registration Accounts} (hpool : Staged config pool)
    (t : Nat × Script AuthMove) : ids (Pool.turn step pool t).state = ids pool.state ∨
      ids (Pool.turn step pool t).state = ids pool.state ++ [nextId t] := by
  cases hr : pool.threads[t.1]? with
  | none => exact .inl (congrArg ids (Pool.state_turn_none hr))
  | some r =>
    have hprogress := (hpool r (List.mem_of_getElem? hr)).progress t.2 pool.state
    rw [Pool.state_turn hr]
    rcases hprogress.users with husers | ⟨user, hid, husers⟩
    · exact .inl (congrArg (List.map User.id) husers)
    · refine .inr ((congrArg (List.map User.id) husers).trans ?_)
      rw [List.map_append, List.map_singleton, hid]
      rfl

theorem ids_foldl {pool : Pool Registration Accounts} (hpool : Staged config pool)
    (sched : List (Nat × Script AuthMove)) :
    ∀ id ∈ ids (sched.foldl (Pool.turn step) pool).state,
      id ∈ ids pool.state ∨ id ∈ sched.map nextId := by
  induction sched generalizing pool with
  | nil => exact fun id => .inl
  | cons t sched ih =>
    intro id hid
    rcases ih (staged_turn hpool t) id hid with hid | hid
    · rcases ids_turn hpool t with heq | heq
      · exact .inl (heq ▸ hid)
      · rw [heq] at hid
        rcases List.mem_append.mp hid with hid | hid
        · exact .inl hid
        · obtain rfl := List.mem_singleton.mp hid
          exact .inr List.mem_cons_self
    · exact .inr (List.mem_cons_of_mem _ hid)

theorem mem_ids_foldl {pool : Pool Registration Accounts} (hpool : Staged config pool) {id : String}
    (hid : id ∈ ids pool.state) (sched : List (Nat × Script AuthMove)) :
    id ∈ ids (sched.foldl (Pool.turn step) pool).state := by
  induction sched generalizing pool with
  | nil => exact hid
  | cons t sched ih =>
    apply ih (staged_turn hpool t)
    rcases ids_turn hpool t with heq | heq
    · exact heq ▸ hid
    · exact heq ▸ List.mem_append_left _ hid

theorem exists_id {r : Registration} (hr : (run config bodies s sched).threads[i]? = some r)
    (huser : r.insertedUser = true) :
    ∃ t ∈ sched, t.1 = i ∧ nextId t ∈ ids (run config bodies s sched).state := by
  have hfirst : ¬ ∃ r, (bodies.map (start config))[i]? = some r ∧ r.insertedUser = true := by
    rintro ⟨r, hr, h⟩
    obtain ⟨body, -, rfl⟩ := List.mem_map.mp (List.mem_of_getElem? hr)
    cases h
  obtain ⟨before, t, after, rfl, hbefore, r', hr', huser'⟩ := Runs.exists_step
    (P := fun pool : Pool Registration Accounts =>
      ∃ r, pool.threads[i]? = some r ∧ r.insertedUser = true) hfirst ⟨r, hr, huser⟩
  have hpool : Staged config (before.foldl (Pool.turn step) ⟨bodies.map (start config), s⟩) :=
    staged_run before
  obtain rfl : t.1 = i := by
    by_contra hi
    exact hbefore ⟨r', (Pool.threads_turn_of_ne hi).symm.trans hr', huser'⟩
  refine ⟨t, List.mem_append_right _ List.mem_cons_self, rfl, ?_⟩
  rw [run, List.foldl_append, List.foldl_cons]
  apply mem_ids_foldl (staged_turn hpool t)
  cases hr₀ : (before.foldl (Pool.turn step) ⟨bodies.map (start config), s⟩).threads[t.1]? with
  | none =>
    rw [Pool.turn, hr₀] at hr'
    exact absurd ⟨r', hr', huser'⟩ hbefore
  | some r₀ =>
    obtain rfl := Option.some.inj ((Pool.threads_turn_self hr₀).symm.trans hr')
    have hnot : r₀.insertedUser = false := by
      rw [← Bool.not_eq_true]
      exact fun h => hbefore ⟨r₀, hr₀, h⟩
    rw [Pool.state_turn hr₀]
    have hprogress := (hpool r₀ (List.mem_of_getElem? hr₀)).progress t.2
      (before.foldl (Pool.turn step) ⟨bodies.map (start config), s⟩).state
    rcases hprogress.users with husers | ⟨user, hid, husers⟩
    · have hsame : (step t.2 r₀ (before.foldl (Pool.turn step)
          ⟨bodies.map (start config), s⟩).state).1.insertedUser = false := by
        simp only [step] at husers ⊢
        simp [hnot, husers]
      rw [hsame] at huser'
      cases huser'
    · rw [ids, husers, List.map_append]
      exact List.mem_append_right _ (List.mem_singleton.mpr hid.symm)

theorem users_without_ne {r : Registration} (hfresh : (ids s ++ sched.map nextId).Nodup)
    (hr : (run config bodies s sched).threads[i]? = some r) (huser : r.insertedUser = true) :
    (run config bodies s sched).state.users ≠
      (run config bodies s (sched.filter fun t => t.1 ≠ i)).state.users := by
  intro heq
  obtain ⟨t, ht, rfl, hid⟩ := exists_id hr huser
  have hid' : nextId t ∈ ids (run config bodies s (sched.filter fun t' => t'.1 ≠ t.1)).state := by
    rw [ids, ← heq]
    exact hid
  obtain ⟨-, hnodup, hdisjoint⟩ := List.nodup_append.mp hfresh
  rcases ids_foldl staged_start _ _ hid' with hid' | hid'
  · exact hdisjoint _ hid' _ (List.mem_map_of_mem ht) rfl
  · obtain ⟨t', ht', hsame⟩ := List.mem_map.mp hid'
    obtain ⟨ht', hne⟩ := List.mem_filter.mp ht'
    obtain rfl := List.inj_on_of_nodup_map hnodup ht' ht hsame
    simp at hne

end Trace

theorem atomic_of_not_broken {r : Registration}
    (hr : (run config bodies s sched).threads[i]? = some r) (hnot : ¬ r.Broken) :
    r.Atomic (run config bodies s sched).state
      (run config bodies s (sched.filter fun t => t.1 ≠ i)).state := by
  have hpending : ∀ {p : AuthM AuthResponse} {u : Bool}, status ⟨p, u, false, false⟩ = none →
      r = ⟨p, u, false, false⟩ → r.Atomic (run config bodies s sched).state
        (run config bodies s (sched.filter fun t => t.1 ≠ i)).state := by
    rintro p u hnone rfl
    refine ⟨?_, fun h => absurd h Bool.false_ne_true, fun n hn => ?_⟩
    · rw [hnone]
      simp
    · rw [hnone] at hn
      cases hn
  cases staged_run sched r (List.mem_of_getElem? hr) with
  | lookup body => exact hpending rfl rfl
  | hash body => exact hpending rfl rfl
  | insert body passwordHash => exact hpending rfl rfl
  | store data session => exact hpending rfl rfl
  | answered h =>
    cases h with
    | created h =>
      refine ⟨by simp [h], fun hconflict => absurd hconflict Bool.false_ne_true, fun n hn hne => ?_⟩
      exact absurd (Option.some.inj (h.symm.trans hn)).symm hne
    | refused h =>
      refine ⟨by simp [h], fun _ => h, fun _ _ _ => ?_⟩
      rw [state_without hr rfl rfl]
      exact ⟨rfl, rfl⟩
    | failed h hn =>
      refine ⟨by simp [h, hn], fun hconflict => absurd hconflict Bool.false_ne_true, fun _ _ _ => ?_⟩
      rw [state_without hr rfl rfl]
      exact ⟨rfl, rfl⟩
    | lostRace h => exact absurd ⟨h, .inl rfl⟩ hnot
    | leftBehind h => exact absurd ⟨h, .inr rfl⟩ hnot

theorem not_broken_of_atomic {r : Registration} (hfresh : (ids s ++ sched.map nextId).Nodup)
    (hr : (run config bodies s sched).threads[i]? = some r)
    (h : r.Atomic (run config bodies s sched).state
      (run config bodies s (sched.filter fun t => t.1 ≠ i)).state) : ¬ r.Broken := by
  rintro ⟨hstatus, hconflict | huser⟩
  · have h409 := h.conflict hconflict
    rw [hstatus] at h409
    cases h409
  · have hsame := h.traceless 500 hstatus (by decide)
    exact users_without_ne hfresh hr huser hsame.1

end Run

/-- Every registration is atomic exactly where none finds its e-mail taken at its insert, and none
stops with its account inserted, its refresh token not stored or its answer lost. -/
theorem allAtomic_iff (config : Config) (bodies : List RegisterBody) (s : Accounts)
    (sched : List (Nat × Script AuthMove)) (hfresh : (ids s ++ sched.map nextId).Nodup) :
    AllAtomic config bodies s sched ↔
      Runs.Along (Pool.turn step) (SureTurn config) ⟨bodies.map (start config), s⟩ sched := by
  rw [along_sure_iff]
  constructor
  · intro h r hr
    obtain ⟨i, hi⟩ := List.mem_iff_getElem?.mp hr
    exact not_broken_of_atomic hfresh hi (h i r hi)
  · intro h i r hr
    exact atomic_of_not_broken hr (h r (List.mem_of_getElem? hr))

section Example

private def anyone (password : String) : RegisterBody := ⟨"a@b.co", password, none, none⟩

/-- A turn at which everything goes through. -/
private def smoothly (i : Nat) (id : String) : Nat × Script AuthMove := (i, fun _ => .smooth id 0)

private def keyed : Config :=
  .ofSecrets "access-secret-of-32-characters--" "refresh-secret-of-32-characters-"

/-- Somebody registers, and the e-mail is refused from then on. -/
theorem allAtomic_iff_twice :
    AllAtomic keyed [anyone "password-one", anyone "password-two"] .empty
      [smoothly 0 "1", smoothly 0 "2", smoothly 0 "3", smoothly 0 "4", smoothly 1 "5"] := by
  refine (allAtomic_iff _ _ _ _ (by decide)).mpr ⟨?_, ?_, ?_, ?_, ?_, trivial⟩
  · intro r op hr hop
    cases hr
    cases hop
    trivial
  · intro r op hr hop
    cases hr
    cases hop
    trivial
  · intro r op hr hop
    cases hr
    cases hop
    exact ⟨rfl, fun _ => ⟨rfl, rfl⟩⟩
  · intro r op hr hop
    cases hr
    cases hop
    rfl
  · intro r op hr hop
    cases hr
    cases hop
    trivial

/-- Two requests find their e-mail free; the one that inserts it second is answered with a 500. -/
theorem not_allAtomic_race :
    ¬ AllAtomic keyed [anyone "password-one", anyone "password-two"] .empty
      [smoothly 0 "1", smoothly 1 "2", smoothly 0 "3", smoothly 1 "4", smoothly 0 "5",
        smoothly 1 "6", smoothly 0 "7"] := by
  intro h
  have hconflict := (h 1 _ rfl).conflict (by decide +kernel)
  exact absurd hconflict (by decide +kernel)

end Example

end Registration

end Ecommerce
