import Ecommerce.Gateway.Accounts
import Ecommerce.Lib.Numeric
import Ecommerce.Lib.Supervision
import Ecommerce.Shared.Http

/-! The start of the gateway: its workers race to create the default accounts, and one that loses is
started again. -/

namespace Ecommerce

structure ServiceRegistration where
  id : String
  name : String
  address : String
  port : Numeric
  tags : List String
  healthUrl : String

inductive StartOp
  | account (op : AuthOp)
  | initializeMessaging
  | buildApp
  | listen (port : Numeric) (host : String)
  | consulRegister (consulHttpAddr : String) (service : ServiceRegistration)

abbrev StartOp.Res : StartOp → Type
  | .account op => op.Res
  | .initializeMessaging => Unit
  | .buildApp => Unit
  | .listen _ _ => Unit
  | .consulRegister _ _ => Unit

abbrev StartM := Prog StartOp StartOp.Res Error

/-- The environment variables of the gateway's process. -/
structure ServerEnv where
  apiGatewayPort : Option String
  host : Option String
  consulServicePrefix : Option String
  consulHttpAddr : Option String
  serviceAdvertiseHost : Option String
  advertiseHost : Option String
  serviceAdvertisePort : Option String
  clusterWorkers : Option String

namespace ServerEnv

/-- `process.env.NAME || fallback`. -/
def or (value : Option String) (fallback : String) : String := orFallback (value.getD "") fallback

def port (env : ServerEnv) : Numeric := Ecma.parseInt (or env.apiGatewayPort "3000")

def serviceName (env : ServerEnv) : String :=
  or env.consulServicePrefix "ecommerce" ++ "-api-gateway"

def serviceId (env : ServerEnv) : String := env.serviceName ++ "-" ++ env.port.text

def getAdvertiseAddress (env : ServerEnv) (defaultPort : Numeric) : String × Numeric :=
  (or env.serviceAdvertiseHost (or env.advertiseHost (or env.host "localhost")),
    (Ecma.parseInt (or env.serviceAdvertisePort "")).or defaultPort)

/-- How often the primary forks: `parseInt(CLUSTER_WORKERS || '', 10) || os.cpus().length` times. -/
def workers (env : ServerEnv) (cpus : Nat) : Nat :=
  (Ecma.integerOr (or env.clusterWorkers "") cpus).toNat

end ServerEnv

namespace Server

def defaultUser (email passwordHash : String) (role : UserRole) (firstName : String) : NewUser where
  email
  passwordHash := some passwordHash
  firstName := some firstName
  lastName := some "User"
  role
  provider := .local
  isActive := true
  emailVerified := true

def ensureUser (email password : String) (role : UserRole) (firstName : String) : StartM Unit := do
  let existing ← Prog.perform (StartOp.account (.findUserByEmail email))
  match existing with
  | some _ => pure ()
  | none => do
    let passwordHash ← Prog.perform (StartOp.account (.argonHash password))
    let _ ← Prog.perform
      (StartOp.account (.createUser (defaultUser email passwordHash role firstName)))

def registration (env : ServerEnv) : ServiceRegistration :=
  let (address, port) := env.getAdvertiseAddress env.port
  { id := env.serviceId
    name := env.serviceName
    address
    port
    tags := ["gateway"]
    healthUrl := "http://" ++ address ++ ":" ++ port.text ++ "/health" }

def consulRegisterService (consulHttpAddr : Option String) (input : ServiceRegistration) :
    StartM Unit :=
  match consulHttpAddr.filter (· ≠ "") with
  | none => pure ()
  | some consulHttpAddr => Prog.perform (StartOp.consulRegister consulHttpAddr input)

/-- What follows once the accounts are there. -/
def serve (env : ServerEnv) : StartM Unit := do
  Prog.perform StartOp.initializeMessaging
  Prog.perform StartOp.buildApp
  Prog.perform (StartOp.listen env.port (ServerEnv.or env.host "0.0.0.0"))
  consulRegisterService env.consulHttpAddr (registration env)

/-- A worker that has thrown has left with `process.exit(1)`. -/
def start (env : ServerEnv) : StartM Unit :=
  Prog.tryCatch
    (do
      ensureUser "admin@ecommerce.com" "Admin@1234" .admin "Admin"
      ensureUser "user@ecommerce.com" "User@1234" .user "User"
      serve env)
    fun err => throw err

end Server

/-- A statement's move, and how the other steps of a start settle. -/
structure StartMove where
  account : AuthMove
  service : Except Error Unit

namespace Server

def handle (c : StartMove) : Handler StartOp StartOp.Res Error Accounts
  | .account op, s => Accounts.handle c.account op s
  | .initializeMessaging, s => (c.service, s)
  | .buildApp, s => (c.service, s)
  | .listen _ _, s => (c.service, s)
  | .consulRegister _ _, s => (c.service, s)

/-- The primary has forked its workers. -/
def cluster (env : ServerEnv) (cpus : Nat) (s : Accounts) : Pool (StartM Unit) Accounts :=
  ⟨List.replicate (env.workers cpus) (start env), s⟩

/-- Workers move in any order, exit and are forked again, while others write to the tables. -/
def step (env : ServerEnv) :
    Pool (StartM Unit) Accounts → SupervisionEvent StartMove Accounts →
      Pool (StartM Unit) Accounts :=
  Supervision.step (start env) handle

def run (env : ServerEnv) (cpus : Nat) (s : Accounts)
    (events : List (SupervisionEvent StartMove Accounts)) : Pool (StartM Unit) Accounts :=
  events.foldl (step env) (cluster env cpus s)

/-- There is an account with the address. -/
def Known (s : Accounts) (email : String) : Prop := email ∈ s.users.rows.map User.email

/-- Nobody removes an account. -/
def Keeps (s t : Accounts) : Prop := ∀ email, Known s email → Known t email

/-- The database executes its statements, with ids that are new, and every service is there. -/
structure Works (c : StartMove) (s : Accounts) : Prop where
  accepts : c.account.db = .accept
  fresh : c.account.newId ∉ s.users.rows.map User.id
  hashes : ∃ hash, c.account.hash = .ok hash
  service : c.service = .ok ()

theorem findBy?_eq_none {s : Accounts} {email : String} :
    s.users.findBy? email = none ↔ ¬ Known s email := Table.find?_eq_none

theorem Known.of_some {s : Accounts} {email : String} {user : User}
    (h : s.users.findBy? email = some user) : Known s email := by
  obtain ⟨hmem, rfl⟩ := UniqueTable.findBy?_eq_some.mp h
  exact List.mem_map_of_mem hmem

section Statement

variable {c : StartMove} {s : Accounts}

theorem handle_find (hc : Works c s) (email : String) :
    handle c (.account (.findUserByEmail email)) s = (.ok (s.users.findBy? email), s) := by
  simp only [handle, Accounts.handle, Accounts.statement, hc.accepts]

theorem handle_create (hc : Works c s) (data : NewUser) :
    Known (handle c (.account (.createUser data)) s).2 data.email := by
  simp only [handle, Accounts.handle, Accounts.statement, hc.accepts, Accounts.createUser]
  cases hinsert : s.users.insert (data.row c.account.newId) with
  | some users =>
    obtain ⟨hrows, -⟩ := UniqueTable.insert_eq_some hinsert
    simp [Known, hrows, NewUser.row]
  | none =>
    unfold UniqueTable.insert at hinsert
    split at hinsert
    · cases hinsert
    · next htaken =>
      by_contra hunknown
      exact htaken ⟨hc.fresh, hunknown⟩

end Statement

theorem Keeps.trans {s t u : Accounts} (hst : Keeps s t) (htu : Keeps t u) : Keeps s u :=
  fun email h => htu email (hst email h)

theorem keeps_statement {α : Type} (db : DbMove) {r : Except Error α × Accounts} {s : Accounts}
    (h : Keeps s r.2) : Keeps s (Accounts.statement db r s).2 := by
  cases db with
  | accept => exact h
  | reject m => exact fun _ h => h
  | lost m => exact h

theorem keeps_createUser (data : NewUser) (id : String) (s : Accounts) :
    Keeps s (s.createUser data id).2 := by
  intro email hemail
  unfold Accounts.createUser
  cases hinsert : s.users.insert (data.row id) with
  | none => exact hemail
  | some users =>
    obtain ⟨hrows, -⟩ := UniqueTable.insert_eq_some hinsert
    rw [Known, hrows, List.map_append]
    exact List.mem_append_left _ hemail

theorem keeps_upsertUser (email : String) (update : UserUpdate) (create : NewUser) (id : String)
    (s : Accounts) : Keeps s (s.upsertUser email update create id).2 := by
  unfold Accounts.upsertUser
  cases s.users.findBy? email with
  | none => exact keeps_createUser create id s
  | some user =>
    intro email' h
    obtain ⟨row, hrow, rfl⟩ := List.mem_map.mp h
    have hmem : (if row.id = user.id then update.apply row else row) ∈
        (s.updateUser user.id update).users.rows :=
      List.mem_map_of_mem (f := fun r => if r.id = user.id then update.apply r else r) hrow
    refine List.mem_map.mpr ⟨_, hmem, ?_⟩
    split <;> rfl

theorem keeps_handle (c : StartMove) (op : StartOp) (s : Accounts) :
    Keeps s (handle c op s).2 := by
  have hsame : Keeps s s := fun _ h => h
  cases op with
  | account op =>
    cases op with
    | createUser data => exact keeps_statement _ (keeps_createUser data _ s)
    | upsertUser email update create =>
      exact keeps_statement _ (keeps_upsertUser email update create _ s)
    | createRefreshToken data =>
      refine keeps_statement _ ?_
      unfold Accounts.createRefreshToken
      split
      · exact hsame
      · split <;> exact hsame
    | findUserByEmail email => exact keeps_statement _ hsame
    | findUserById id => exact keeps_statement _ hsame
    | findRefreshToken token => exact keeps_statement _ hsame
    | deleteExpired userId before => exact keeps_statement _ hsame
    | _ => exact hsame
  | _ => exact hsame

theorem rely : Supervision.Rely handle Keeps where
  refl := fun _ _ h => h
  trans := Keeps.trans
  handle := keeps_handle

section Within

open Supervision

variable {env : ServerEnv} {s : Accounts} {n : Nat} {p : StartM Unit}

theorem start_eq (env : ServerEnv) : start env =
    (do
      ensureUser "admin@ecommerce.com" "Admin@1234" .admin "Admin"
      ensureUser "user@ecommerce.com" "User@1234" .user "User"
      serve env) := Prog.tryCatch_throw _

theorem within_service {op : StartOp} {f : op.Res → StartM Unit}
    (hop : ∀ c t, Works c t → ∃ r, handle c op t = (.ok r, t))
    (hf : ∀ r t, Keeps s t → Within (start env) handle Works Keeps n (f r) t) :
    Within (start env) handle Works Keeps (n + 1) (Prog.perform op >>= f) s := by
  apply within_perform_bind
  · intro c t hst hc r t' hr
    obtain ⟨r', hr'⟩ := hop c t hc
    obtain ⟨hok, rfl⟩ := Prod.mk.inj (hr'.symm.trans hr)
    obtain rfl := Except.ok.inj hok
    exact hf r' t hst
  · intro c t hst hc e t' hr
    obtain ⟨r', hr'⟩ := hop c t hc
    cases (Prod.mk.inj (hr'.symm.trans hr)).1

theorem within_serve (s : Accounts) : Within (start env) handle Works Keeps 4 (serve env) s := by
  refine within_service (fun c t hc => ⟨(), by rw [handle, hc.service]⟩) fun _ s₁ _ => ?_
  refine within_service (fun c t hc => ⟨(), by rw [handle, hc.service]⟩) fun _ s₂ _ => ?_
  refine within_service (fun c t hc => ⟨(), by rw [handle, hc.service]⟩) fun _ s₃ _ => ?_
  unfold consulRegisterService
  cases env.consulHttpAddr.filter (· ≠ "") with
  | none => exact within_pure ()
  | some consulHttpAddr =>
    have hregister : Within (start env) handle Works Keeps 1
        (Prog.perform (.consulRegister consulHttpAddr (registration env)) >>= pure) s₃ :=
      within_service (fun c t hc => ⟨(), by rw [handle, hc.service]⟩) fun _ _ _ => within_pure ()
    simpa only [bind_pure] using hregister

section EnsureUser

variable {email password firstName : String} {role : UserRole} {f : Unit → StartM Unit}

theorem within_ensureUser_of_known (hs : Known s email)
    (hf : ∀ t, Keeps s t → Within (start env) handle Works Keeps n (f ()) t) :
    Within (start env) handle Works Keeps (n + 1)
      (ensureUser email password role firstName >>= f) s := by
  simp only [ensureUser, bind_assoc]
  apply within_perform_bind
  · intro c t hst hc existing t' hr
    obtain ⟨hok, rfl⟩ := Prod.mk.inj ((handle_find hc email).symm.trans hr)
    obtain rfl := Except.ok.inj hok
    cases hfind : t.users.findBy? email with
    | none => exact absurd (hst email hs) (findBy?_eq_none.mp hfind)
    | some user => exact hf t hst
  · intro c t hst hc e t' hr
    cases (Prod.mk.inj ((handle_find hc email).symm.trans hr)).1

/-- A worker that finds the account missing creates it, or exits because another one was faster. -/
theorem within_ensureUser (hnext : ∀ t, Keeps s t → Known t email →
      Within (start env) handle Works Keeps (n + 1) (f ()) t ∧
        Within (start env) handle Works Keeps n (start env) t) :
    Within (start env) handle Works Keeps (n + 4)
      (ensureUser email password role firstName >>= f) s := by
  simp only [ensureUser, bind_assoc]
  apply within_perform_bind
  · intro c t hst hc existing t' hr
    obtain ⟨hok, rfl⟩ := Prod.mk.inj ((handle_find hc email).symm.trans hr)
    obtain rfl := Except.ok.inj hok
    cases hfind : t.users.findBy? email with
    | some user => exact (hnext t hst (.of_some hfind)).1.mono (by omega)
    | none =>
      simp only [bind_assoc]
      apply within_perform_bind
      · intro c₁ t₁ ht₁ hc₁ hash t₁' hr₁
        obtain rfl := (Prod.mk.inj hr₁).2
        apply within_perform_bind
        · intro c₂ t₂ ht₂ hc₂ user t₂' hr₂
          have hknown := handle_create hc₂ (defaultUser email hash role firstName)
          have hkeeps := keeps_handle c₂
            (.account (.createUser (defaultUser email hash role firstName))) t₂
          rw [hr₂] at hknown hkeeps
          exact (hnext t₂' (hst.trans (ht₁.trans (ht₂.trans hkeeps))) hknown).1
        · intro c₂ t₂ ht₂ hc₂ e t₂' hr₂
          have hknown := handle_create hc₂ (defaultUser email hash role firstName)
          have hkeeps := keeps_handle c₂
            (.account (.createUser (defaultUser email hash role firstName))) t₂
          rw [hr₂] at hknown hkeeps
          exact (hnext t₂' (hst.trans (ht₁.trans (ht₂.trans hkeeps))) hknown).2
      · intro c₁ t₁ ht₁ hc₁ e t₁' hr₁
        obtain ⟨hash, hhash⟩ := hc₁.hashes
        have hok : c₁.account.hash = .error e := (Prod.mk.inj hr₁).1
        cases hhash.symm.trans hok
  · intro c t hst hc e t' hr
    cases (Prod.mk.inj ((handle_find hc email).symm.trans hr)).1

end EnsureUser

theorem within_start_of_known (hadmin : Known s "admin@ecommerce.com")
    (huser : Known s "user@ecommerce.com") :
    Within (start env) handle Works Keeps 6 (start env) s := by
  conv => arg 6; rw [start_eq]
  refine within_ensureUser_of_known hadmin fun t hst => ?_
  exact within_ensureUser_of_known (hst _ huser) fun t' _ => within_serve t'

theorem within_start_of_admin (hadmin : Known s "admin@ecommerce.com") :
    Within (start env) handle Works Keeps 11 (start env) s := by
  conv => arg 6; rw [start_eq]
  refine within_ensureUser_of_known hadmin fun t hst => within_ensureUser fun t' htt' huser => ?_
  exact ⟨(within_serve t').mono (by omega),
    within_start_of_known (htt' _ (hst _ hadmin)) huser⟩

theorem within_start (s : Accounts) : Within (start env) handle Works Keeps 15 (start env) s := by
  conv => arg 6; rw [start_eq]
  refine within_ensureUser fun t hst hadmin => ⟨?_, within_start_of_admin hadmin⟩
  refine Within.mono (n := 10) (by omega) (within_ensureUser fun t' htt' huser => ?_)
  exact ⟨(within_serve t').mono (by omega), within_start_of_known (htt' _ hadmin) huser⟩

/-- Whatever the other workers do and are told, a worker that is answered itself serves once it has
had fifteen turns: it loses the race for an account at most once. -/
theorem worker_serves (env : ServerEnv) (cpus : Nat) (s : Accounts) {i : Nat}
    (hi : i < env.workers cpus) {events : List (SupervisionEvent StartMove Accounts)}
    (hwrites : Runs.Along (step env) (Writes Keeps) (cluster env cpus s) events)
    (hworks : Runs.Along (step env) (Promised Works i) (cluster env cpus s) events)
    (hexits : .exit i ∉ events) (hturns : 15 ≤ turns i events) :
    (run env cpus s events).threads[i]? = some (.pure ()) := by
  have hthread : (cluster env cpus s).threads[i]? = some (start env) := by
    rw [cluster, List.getElem?_replicate, if_pos hi]
  obtain ⟨⟨⟩, hserves⟩ := (within_start s).resolves rely hthread hwrites hworks hexits hturns
  exact hserves

end Within

section Example

private def plainEnv : ServerEnv := ⟨none, none, none, none, none, none, none, some "2"⟩

private def granted (worker n : Nat) : SupervisionEvent StartMove Accounts :=
  .turn worker ⟨.smooth (String.ofList (List.replicate n 'x')) 0, .ok ()⟩

/-- Both workers miss the first account, and the second one's insertion comes too late; the first one
loses the database. -/
private def racing : List (SupervisionEvent StartMove Accounts) :=
  [granted 0 0, granted 1 1, granted 0 2, granted 1 3, granted 0 4,
    .turn 0 ⟨{ AuthMove.smooth "" 0 with db := .reject "connection closed" }, .ok ()⟩] ++
    (List.range 13).map fun n => granted 1 (n + 5)

private theorem works_granted (n : Nat) (s : Accounts)
    (hfresh : String.ofList (List.replicate n 'x') ∉ s.users.rows.map User.id) :
    Works ⟨.smooth (String.ofList (List.replicate n 'x')) 0, .ok ()⟩ s :=
  ⟨rfl, hfresh, ⟨_, rfl⟩, rfl⟩

theorem worker_serves_racing : (run plainEnv 8 .empty racing).threads[1]? = some (.pure ()) := by
  refine worker_serves plainEnv 8 .empty (i := 1) (by decide) ?_ ?_ (by simp [racing, granted])
    (by decide)
  · exact Supervision.writes_of_alone (by simp [racing, granted])
  · simp only [racing, List.range, List.range.loop, List.map, List.cons_append, List.nil_append]
    iterate 6 refine ⟨fun h => by first | cases h; done | exact works_granted _ _ (by decide), ?_⟩
    iterate 13 refine ⟨fun _ => works_granted _ _ (by decide), ?_⟩
    trivial

end Example

section Default

open Supervision

variable {env : ServerEnv} {s : Accounts}

/-- The accounts that a start creates. -/
inductive DefaultUser : NewUser → Prop
  | admin (hash : String) :
    DefaultUser (defaultUser "admin@ecommerce.com" hash .admin "Admin")
  | user (hash : String) : DefaultUser (defaultUser "user@ecommerce.com" hash .user "User")

def Awaited : StartOp → Prop
  | .account (.findUserByEmail _) => True
  | .account (.argonHash _) => True
  | .account (.createUser data) => DefaultUser data
  | .account _ => False
  | _ => True

theorem awaits_ensureUser {email password firstName : String} {role : UserRole}
    (hdata : ∀ hash, DefaultUser (defaultUser email hash role firstName)) :
    Prog.Awaits Awaited (ensureUser email password role firstName) := by
  refine Prog.Awaits.bind (by simp [Awaited]) fun existing => ?_
  cases existing with
  | some user => trivial
  | none =>
    refine Prog.Awaits.bind (by simp [Awaited]) fun hash => ?_
    exact Prog.Awaits.bind (by simpa [Awaited] using hdata hash) fun _ => trivial

theorem awaits_start (env : ServerEnv) : Prog.Awaits Awaited (start env) := by
  rw [start_eq]
  refine (awaits_ensureUser .admin).bind fun _ => (awaits_ensureUser .user).bind fun _ => ?_
  refine Prog.Awaits.bind (by simp [Awaited]) fun _ => ?_
  refine Prog.Awaits.bind (by simp [Awaited]) fun _ => ?_
  refine Prog.Awaits.bind (by simp [Awaited]) fun _ => ?_
  unfold consulRegisterService
  cases env.consulHttpAddr.filter (· ≠ "") with
  | none => trivial
  | some consulHttpAddr => simp [Awaited]

def Extends (rows : List User) (s : Accounts) : Prop :=
  ∃ new, s.users.rows = rows ++ new ∧ ∀ user ∈ new, ∃ data id, DefaultUser data ∧ user = data.row id

theorem extends_handle {rows : List User} (c : StartMove) (op : StartOp) (s : Accounts)
    (hop : Awaited op) (hs : Extends rows s) : Extends rows (handle c op s).2 := by
  cases op with
  | account op =>
    cases op with
    | createUser data =>
      have hcreated : Extends rows (s.createUser data c.account.newId).2 := by
        unfold Accounts.createUser
        cases hinsert : s.users.insert (data.row c.account.newId) with
        | none => exact hs
        | some users =>
          obtain ⟨new, hrows, hnew⟩ := hs
          refine ⟨new ++ [data.row c.account.newId], ?_, fun user huser => ?_⟩
          · rw [(UniqueTable.insert_eq_some hinsert).1, hrows, List.append_assoc]
          · rcases List.mem_append.mp huser with huser | huser
            · exact hnew user huser
            · exact ⟨data, _, hop, List.mem_singleton.mp huser⟩
      simp only [handle, Accounts.handle, Accounts.statement]
      cases c.account.db with
      | accept => exact hcreated
      | reject m => exact hs
      | lost m => exact hcreated
    | findUserByEmail email =>
      simp only [handle, Accounts.handle, Accounts.statement]
      cases c.account.db <;> exact hs
    | argonHash password => exact hs
    | _ => exact hop.elim
  | _ => exact hs

theorem handle_find_ok {c : StartMove} {email : String} {t t' : Accounts} {existing : Option User}
    (h : handle c (.account (.findUserByEmail email)) t = (.ok existing, t')) :
    existing = t.users.findBy? email ∧ t' = t := by
  simp only [handle, Accounts.handle, Accounts.statement] at h
  cases hdb : c.account.db with
  | accept =>
    rw [hdb] at h
    obtain ⟨hok, rfl⟩ := Prod.mk.inj h
    exact ⟨(Except.ok.inj hok).symm, rfl⟩
  | reject m => rw [hdb] at h; cases (Prod.mk.inj h).1
  | lost m => rw [hdb] at h; cases (Prod.mk.inj h).1

theorem handle_create_ok {c : StartMove} {data : NewUser} {t t' : Accounts} {user : User}
    (h : handle c (.account (.createUser data)) t = (.ok user, t')) : Known t' data.email := by
  simp only [handle, Accounts.handle, Accounts.statement] at h
  cases hdb : c.account.db with
  | accept =>
    rw [hdb] at h
    unfold Accounts.createUser at h
    cases hinsert : t.users.insert (data.row c.account.newId) with
    | none => rw [hinsert] at h; cases (Prod.mk.inj h).1
    | some users =>
      rw [hinsert] at h
      obtain ⟨-, rfl⟩ := Prod.mk.inj h
      simp [Known, (UniqueTable.insert_eq_some hinsert).1, NewUser.row]
  | reject m => rw [hdb] at h; cases (Prod.mk.inj h).1
  | lost m => rw [hdb] at h; cases (Prod.mk.inj h).1

section Safe

variable {Q : Accounts → Prop}

theorem safe_ensureUser {email password firstName : String} {role : UserRole}
    {f : Unit → StartM Unit}
    (hnext : ∀ t, Keeps s t → Known t email → Safe handle Keeps Q (f ()) t) :
    Safe handle Keeps Q (ensureUser email password role firstName >>= f) s := by
  simp only [ensureUser, bind_assoc]
  refine safe_perform_bind fun c t hst existing t' hr => ?_
  obtain ⟨rfl, rfl⟩ := handle_find_ok hr
  cases hfind : t'.users.findBy? email with
  | some user => exact hnext t' hst (.of_some hfind)
  | none =>
    simp only [bind_assoc]
    refine safe_perform_bind fun c₁ t₁ ht₁ hash t₁' hr₁ => ?_
    obtain rfl : t₁ = t₁' := (Prod.mk.inj hr₁).2
    refine safe_perform_bind fun c₂ t₂ ht₂ user t₂' hr₂ => ?_
    have hkeeps := keeps_handle c₂
      (.account (.createUser (defaultUser email hash role firstName))) t₂
    rw [hr₂] at hkeeps
    exact hnext t₂' (hst.trans (ht₁.trans (ht₂.trans hkeeps))) (handle_create_ok hr₂)

theorem safe_start (s : Accounts) : Safe handle Keeps
    (fun t => Known t "admin@ecommerce.com" ∧ Known t "user@ecommerce.com") (start env) s := by
  rw [start_eq]
  refine safe_ensureUser fun t _ hadmin => safe_ensureUser fun t' htt' huser => ?_
  exact safe_of_now rely (fun s t hst hs => ⟨hst _ hs.1, hst _ hs.2⟩) ⟨htt' _ hadmin, huser⟩

end Safe

/-- Whatever fails or exits, in any order: starts add the default accounts and nothing else, each at
most once, and a worker that serves has both. -/
theorem starts_add_defaults (env : ServerEnv) (cpus : Nat) (s : Accounts)
    {events : List (SupervisionEvent StartMove Accounts)} (halone : ∀ t, .write t ∉ events) :
    ∃ new, (run env cpus s events).state.users.rows = s.users.rows ++ new ∧
      (∀ user ∈ new, ∃ data id, DefaultUser data ∧ user = data.row id) ∧
      (new.map User.email).Nodup ∧
      (∀ user ∈ new, user.email ∉ s.users.rows.map User.email) ∧
      ∀ i : Nat, (run env cpus s events).threads[i]? = some (.pure ()) →
        Known (run env cpus s events).state "admin@ecommerce.com" ∧
        Known (run env cpus s events).state "user@ecommerce.com" := by
  have hstarts : ∀ p ∈ (cluster env cpus s).threads, p = start env :=
    fun p hp => List.eq_of_mem_replicate hp
  obtain ⟨new, hrows, hnew⟩ : Extends s.users.rows (run env cpus s events).state :=
    invariant_run (awaits_start env) extends_handle (fun p hp => hstarts p hp ▸ awaits_start env)
      ⟨[], by simp [cluster], by simp⟩ fun t ht => absurd ht (halone t)
  have hemails := (run env cpus s events).state.users.alt_nodup
  rw [hrows, List.map_append, List.nodup_append] at hemails
  refine ⟨new, hrows, hnew, hemails.2.1, fun user huser hold => ?_, fun i hi => ?_⟩
  · exact hemails.2.2 _ hold _ (List.mem_map_of_mem huser) rfl
  · exact Safe.run rely (fun s t hst hs => ⟨hst _ hs.1, hst _ hs.2⟩) safe_start
      (fun p hp => hstarts p hp ▸ safe_start s) (writes_of_alone halone) _ (List.mem_of_getElem? hi)

/-- The first worker creates an account without learning of it, and exits. -/
private def answerLost : List (SupervisionEvent StartMove Accounts) :=
  [granted 0 0, granted 0 1,
    .turn 0 ⟨{ AuthMove.smooth "a" 0 with db := .lost "connection closed" }, .ok ()⟩,
    granted 0 2, .exit 1, granted 0 3]

theorem starts_add_defaults_answerLost :
    ∃ new, (run plainEnv 8 .empty answerLost).state.users.rows = Accounts.empty.users.rows ++ new ∧
      (∀ user ∈ new, ∃ data id, DefaultUser data ∧ user = data.row id) ∧
      (new.map User.email).Nodup ∧
      (∀ user ∈ new, user.email ∉ Accounts.empty.users.rows.map User.email) ∧
      ∀ i : Nat, (run plainEnv 8 .empty answerLost).threads[i]? = some (.pure ()) →
        Known (run plainEnv 8 .empty answerLost).state "admin@ecommerce.com" ∧
        Known (run plainEnv 8 .empty answerLost).state "user@ecommerce.com" :=
  starts_add_defaults plainEnv 8 .empty (by simp [answerLost, granted])

end Default

end Server

end Ecommerce
