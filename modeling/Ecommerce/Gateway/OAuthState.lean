import Ecommerce.Gateway.Workers
import Ecommerce.Lib.Tickets
import Mathlib.Data.List.Induction
import Mathlib.Data.List.Pairwise

namespace Ecommerce

open AuthRoutes

namespace OAuthState

/-- The states that have been stored, in order. -/
def generated (log : AuthLog) : List String :=
  log.filterMap fun
    | (_, ⟨.setState state _, _⟩) => some state
    | _ => none

/-- The times that have been read, in order. -/
def clock (log : AuthLog) : List Int :=
  log.filterMap fun
    | (_, ⟨.dateNow, .ok now⟩) => some now
    | _ => none

def issuing (state : String) (now : Int) : AuthDoings :=
  [⟨.randomBytes, .ok state⟩, ⟨.dateNow, .ok now⟩, ⟨.setState state (now + oauthStateTtlMs), .ok ()⟩]

def passing (state : String) (expiresAt now : Int) : AuthDoings :=
  [⟨.getState state, .ok (some expiresAt)⟩, ⟨.deleteState state, .ok ()⟩, ⟨.dateNow, .ok now⟩]

/-- The request was GET /google, and it issued the state at `now`. -/
def Issues (l : WorkerLoop) (i w : Nat) (state : String) (now : Int) : Prop :=
  l.Begins i ⟨w, .google⟩ (issuing state now)

/-- The request was GET /google/callback, and it used the state up at `now`, in time. -/
def Redeems (l : WorkerLoop) (i w : Nat) (state : String) (now : Int) : Prop :=
  ∃ code expiresAt, expiresAt ≠ 0 ∧ now ≤ expiresAt ∧
    l.Begins i ⟨w, .callback code (some state)⟩ (passing state expiresAt now)

/-- The callback goes on past its state check: it asks Google about its code, or it finds that it is
not configured to. -/
def GoesOn (p : AuthM AuthResponse) (done : AuthDoings) : Prop :=
  (∃ code, p.awaited = some (.exchangeCode code)) ∨
  (∃ code r, ⟨.exchangeCode code, r⟩ ∈ done) ∨
  p.settlement = some (.error (.badRequest "Google OAuth is not configured"))

/-- The request was GET /google/callback with the state, and it got past its state check. -/
def Passes (l : WorkerLoop) (i w : Nat) (state : String) : Prop :=
  ∃ code p, l.tasks[i]? = some (⟨w, .callback code (some state)⟩, p) ∧ GoesOn p (l.history i)

/-- `now` is the first time that the request has read. -/
def Reads (l : WorkerLoop) (i : Nat) (now : Int) : Prop :=
  (clock (l.log.filter (·.1 = i))).head? = some now

theorem clock_history (l : WorkerLoop) (i : Nat) :
    clock (l.log.filter (·.1 = i)) = clock ((l.history i).map fun op => (i, op)) := by
  have hlog : (l.history i).map (fun op => (i, op)) = l.log.filter (·.1 = i) := by
    rw [EventLoop.history, List.map_map]
    refine (List.map_congr_left fun entry hentry => ?_).trans (List.map_id _)
    obtain rfl : entry.1 = i := by simpa using (List.mem_filter.mp hentry).2
    rfl
  rw [hlog]

def tickets (l : WorkerLoop) : Tickets Nat (Nat × String) Int where
  deadline k := l.state.oauthStateStore k.1 k.2
  issued i k t := Issues l i k.1 k.2 t
  redeemed i k now := Redeems l i k.1 k.2 now

section Leaves

def Leaves : AuthOp → Prop
  | .setState _ _ => False
  | .deleteState _ => False
  | _ => True

variable {config : Config}

theorem handle_leaves (a : Routed) (c : AuthMove) {op : AuthOp} (s : Workers) (hop : Leaves op) :
    (Workers.handle a c op s).2.oauthStateStore = s.oauthStateStore := by
  have haccounts : (Accounts.handle c op (s.accounts a.worker)).2.oauthStateStore =
      s.oauthStateStore a.worker := by
    cases op with
    | setState state expiresAt => cases hop
    | deleteState state => cases hop
    | createUser data =>
      simp only [Accounts.handle, Accounts.createUser]
      split <;> cases c.db <;> rfl
    | upsertUser email update create =>
      simp only [Accounts.handle, Accounts.upsertUser, Accounts.createUser]
      split
      · cases c.db <;> rfl
      · split <;> cases c.db <;> rfl
    | createRefreshToken data =>
      simp only [Accounts.handle, Accounts.createRefreshToken]
      split
      · cases c.db <;> rfl
      · split <;> cases c.db <;> rfl
    | findUserByEmail email => cases hdb : c.db <;> simp only [Accounts.handle, hdb] <;> rfl
    | findUserById id => cases hdb : c.db <;> simp only [Accounts.handle, hdb] <;> rfl
    | findRefreshToken token => cases hdb : c.db <;> simp only [Accounts.handle, hdb] <;> rfl
    | deleteExpired userId before => cases hdb : c.db <;> simp only [Accounts.handle, hdb] <;> rfl
    | _ => rfl
  simp only [Workers.handle, haccounts, Function.update_eq_self]

theorem allows_leaves : Allows config Leaves where
  plain op hop := by
    cases op with
    | setState state expiresAt | deleteState state => cases hop
    | _ => trivial
  store _ _ _ := trivial

/-- The stores are those of `s`, whatever is in the log. -/
def Untouched (s s' : Workers) (_ : AuthLog) : Prop := s'.oauthStateStore = s.oauthStateStore

theorem handle_untouched {s : Workers} (a : Routed) (i : Nat) (c : AuthMove) (op : AuthOp)
    (s' : Workers) (log : AuthLog) (hop : Leaves op) (hs' : Untouched s s' log) :
    Untouched s (Workers.handle a c op s').2 (log ++ [(i, ⟨op, (Workers.handle a c op s').1⟩)]) :=
  (handle_leaves a c s' hop).trans hs'

variable {p : AuthM AuthResponse}

theorem segment_leaves (hp : p.Meets Leaves fun _ => True) (a : Routed)
    (env : Script AuthMove) (s : Workers) :
    (p.segment AuthOp.sync (Workers.handle a) env s).rest.Meets Leaves (fun _ => True) ∧
      (p.segment AuthOp.sync (Workers.handle a) env s).state.oauthStateStore =
        s.oauthStateStore := by
  have hs : Untouched s s [] := rfl
  exact hp.segment (handle_untouched a 0) hs

theorem resume_leaves (hp : p.Meets Leaves fun _ => True) (a : Routed)
    (env : Script AuthMove) (s : Workers) :
    (p.resume AuthOp.sync (Workers.handle a) env s).rest.Meets Leaves (fun _ => True) ∧
      (p.resume AuthOp.sync (Workers.handle a) env s).state.oauthStateStore =
        s.oauthStateStore := by
  have hs : Untouched s s [] := rfl
  exact hp.resume (handle_untouched a 0) hs

end Leaves

section Segment

variable (config : Config) (a : Routed) (env : Script AuthMove) (s : Workers)

theorem handle_dateNow (c : AuthMove) : Workers.handle a c .dateNow s = (.ok c.now, s) := by
  simp [Workers.handle, Accounts.handle, Workers.accounts]

theorem handle_randomBytes (c : AuthMove) :
    Workers.handle a c .randomBytes s = (.ok c.random, s) := by
  simp [Workers.handle, Accounts.handle, Workers.accounts]

theorem handle_getState (c : AuthMove) (state : String) :
    Workers.handle a c (.getState state) s = (.ok (s.oauthStateStore a.worker state), s) := by
  simp [Workers.handle, Accounts.handle, Workers.accounts]

theorem segment_google :
    (∃ state now response, (google config).segment AuthOp.sync (Workers.handle a) env s =
      ⟨.pure response, s.put a.worker state (some (now + oauthStateTtlMs)), issuing state now⟩) ∨
    ∃ e, (google config).segment AuthOp.sync (Workers.handle a) env s = ⟨.throw e, s, []⟩ := by
  unfold google
  split
  · refine .inl ⟨(env 0).random, (env 1).now, ?_⟩
    rw [Prog.segment_perform_bind rfl (handle_randomBytes a s _),
      Prog.segment_perform_bind rfl (handle_dateNow a _ _), Prog.segment_perform_bind rfl rfl]
    exact ⟨_, rfl⟩
  · exact .inr ⟨_, rfl⟩

theorem segment_checkState {f : Unit → AuthM AuthResponse}
    (hf : (f ()).Meets Leaves fun _ => True)
    (state : String) :
    let r := (checkState state >>= f).segment AuthOp.sync (Workers.handle a) env s
    r.rest.Meets Leaves (fun _ => True) ∧
    r.state.oauthStateStore = (s.put a.worker state none).oauthStateStore ∧
    ∃ done, r.performed = ⟨.getState state, .ok (s.oauthStateStore a.worker state)⟩ ::
        ⟨.deleteState state, .ok ()⟩ :: done ∧ (r.rest.settlement.isSome ∨ 1 ≤ done.length) := by
  simp only [checkState, bind_assoc]
  rw [Prog.segment_perform_bind rfl (handle_getState a s _ state), Prog.segment_perform_bind rfl rfl]
  cases (s.oauthStateStore a.worker state).filter (· ≠ 0) with
  | none => exact ⟨trivial, rfl, [], rfl, .inl rfl⟩
  | some expiresAt =>
    simp only [bind_assoc]
    rw [Prog.segment_perform_bind rfl (handle_dateNow a _ _)]
    split
    · exact ⟨trivial, rfl, _, rfl, .inl rfl⟩
    · obtain ⟨hrest, hstore⟩ := segment_leaves hf a env.tail.tail.tail (s.put a.worker state none)
      exact ⟨hrest, hstore, _, rfl, .inr (by simp)⟩

theorem segment_callback (code state : Option String) :
    let r := (callback config code state).segment AuthOp.sync (Workers.handle a) env s
    r.rest.Meets Leaves (fun _ => True) ∧
    (r.performed = [] ∧ r.rest.settlement.isSome ∧ r.state.oauthStateStore = s.oauthStateStore ∨
      ∃ key, state = some key ∧
        r.state.oauthStateStore = (s.put a.worker key none).oauthStateStore ∧
        ∃ done, r.performed = ⟨.getState key, .ok (s.oauthStateStore a.worker key)⟩ ::
          ⟨.deleteState key, .ok ()⟩ :: done ∧ (r.rest.settlement.isSome ∨ 1 ≤ done.length)) := by
  unfold callback
  split
  · next code' key _ hkey =>
    have hsigning : (signingIn config code').Meets Leaves fun _ => True :=
      (meets_signingIn allows_leaves code').mono fun _ _ => trivial
    obtain ⟨hrest, hdone⟩ := segment_checkState a env s (f := fun _ => signingIn config code')
      hsigning key
    exact ⟨hrest, .inr ⟨key, (Option.filter_eq_some_iff.mp hkey).1, hdone⟩⟩
  · exact ⟨trivial, .inl ⟨rfl, rfl, rfl⟩⟩

def Refused (p : AuthM AuthResponse) (done : AuthDoings) : Prop :=
  ∃ e, p.settlement = some (.error e) ∧ e ≠ .badRequest "Google OAuth is not configured" ∧
    ∀ code r, ⟨.exchangeCode code, r⟩ ∉ done

def Vetted (state : Option String) (p : AuthM AuthResponse) (done : AuthDoings) : Prop :=
  Refused p done ∨ ∃ key expiresAt now, state = some key ∧ expiresAt ≠ 0 ∧ now ≤ expiresAt ∧
    passing key expiresAt now <+: done

theorem vetted_callback (code state : Option String) :
    Vetted state ((callback config code state).segment AuthOp.sync (Workers.handle a) env s).rest
      ((callback config code state).segment AuthOp.sync (Workers.handle a) env s).performed := by
  unfold callback
  split
  · next code' key _ hkey =>
    obtain ⟨hstate, -⟩ := Option.filter_eq_some_iff.mp hkey
    simp only [checkState, bind_assoc]
    rw [Prog.segment_perform_bind rfl (handle_getState a s _ key), Prog.segment_perform_bind rfl rfl]
    cases hstored : (s.oauthStateStore a.worker key).filter (· ≠ 0) with
    | none =>
      refine .inl ⟨_, rfl, by decide, ?_⟩
      change ∀ code r, _ ∉ ([_, _] : AuthDoings)
      simp
    | some expiresAt =>
      obtain ⟨hfound, hne⟩ := Option.filter_eq_some_iff.mp hstored
      simp only [bind_assoc]
      rw [Prog.segment_perform_bind rfl (handle_dateNow a _ _)]
      split
      · refine .inl ⟨_, rfl, by decide, ?_⟩
        change ∀ code r, _ ∉ ([_, _, _] : AuthDoings)
        simp
      · next hle =>
        refine .inr ⟨key, expiresAt, _, hstate, by simpa using hne, not_lt.mp hle, ?_⟩
        rw [hfound]
        exact List.prefix_append (passing key expiresAt _) _
  · refine .inl ⟨_, rfl, by decide, ?_⟩
    change ∀ code r, _ ∉ ([] : AuthDoings)
    simp

theorem Vetted.resume {state : Option String} {p : AuthM AuthResponse} {done : AuthDoings}
    (h : Vetted state p done) :
    Vetted state (p.resume AuthOp.sync (Workers.handle a) env s).rest
      (done ++ (p.resume AuthOp.sync (Workers.handle a) env s).performed) := by
  rcases h with ⟨e, hsettled, hne, hnone⟩ | ⟨key, expiresAt, now, hstate, hne, hle, hdone⟩
  · rw [Prog.resume_settled _ _ _ (by simp [hsettled]), List.append_nil]
    exact .inl ⟨e, hsettled, hne, hnone⟩
  · exact .inr ⟨key, expiresAt, now, hstate, hne, hle, hdone.trans (List.prefix_append _ _)⟩

theorem Refused.not_goesOn {p : AuthM AuthResponse} {done : AuthDoings} (h : Refused p done) :
    ¬ GoesOn p done := by
  obtain ⟨e, hsettled, hne, hnone⟩ := h
  rintro (⟨code, hawaited⟩ | ⟨code, r, hmem⟩ | hconfigured)
  · cases p <;> simp [Prog.settlement, Prog.awaited] at hsettled hawaited
  · exact hnone code r hmem
  · rw [hsettled] at hconfigured
    exact hne (by simpa using hconfigured)

end Segment

section Step

variable {config : Config} {l : WorkerLoop}

def usesStates : AuthRequest → Bool
  | .google => true
  | .callback _ _ => true
  | _ => false

def Served (a : Routed) (p : AuthM AuthResponse) (done : AuthDoings) : Prop :=
  p.Meets Leaves (fun _ => True) ∧ (usesStates a.request → p.settlement.isSome ∨ 3 ≤ done.length)

theorem served_other {request : AuthRequest} {w : Nat} (hrequest : usesStates request = false)
    (hbody : (request.handler config).Meets Leaves (AuthResponse.Minted config))
    (env : Script AuthMove) (s : Workers) :
    Served ⟨w, request⟩
      ((request.handler config).segment AuthOp.sync (Workers.handle ⟨w, request⟩) env s).rest
      ((request.handler config).segment AuthOp.sync (Workers.handle ⟨w, request⟩) env s).performed := by
  refine ⟨(segment_leaves (hbody.mono fun _ _ => trivial) _ env s).1, fun h => ?_⟩
  rw [hrequest] at h
  cases h

theorem served_start (a : Routed) (env : Script AuthMove) (s : Workers) :
    Served a ((a.request.handler config).segment AuthOp.sync (Workers.handle a) env s).rest
      ((a.request.handler config).segment AuthOp.sync (Workers.handle a) env s).performed := by
  obtain ⟨w, request⟩ := a
  cases request with
  | google =>
    rcases segment_google config ⟨w, .google⟩ env s with
      ⟨state, now, response, h⟩ | ⟨e, h⟩
    · rw [AuthRequest.handler, h]
      exact ⟨trivial, fun _ => .inl rfl⟩
    · rw [AuthRequest.handler, h]
      exact ⟨trivial, fun _ => .inl rfl⟩
  | callback code state =>
    obtain ⟨hrest, ⟨-, hsettled, -⟩ | ⟨key, -, -, done, hdone, hlong⟩⟩ :=
      segment_callback config ⟨w, .callback code state⟩ env s code state
    · exact ⟨hrest, fun _ => .inl hsettled⟩
    · refine ⟨hrest, fun _ => hlong.imp_right fun hlong => ?_⟩
      rw [AuthRequest.handler, hdone]
      simpa using hlong
  | register body => exact served_other rfl (meets_register allows_leaves body) env s
  | login body => exact served_other rfl (meets_login allows_leaves body) env s
  | refresh body => exact served_other rfl (meets_refresh allows_leaves body) env s

theorem served_resume (a : Routed) (env : Script AuthMove) (s : Workers) (p : AuthM AuthResponse)
    (done : AuthDoings) (h : Served a p done) :
    Served a (p.resume AuthOp.sync (Workers.handle a) env s).rest
      (done ++ (p.resume AuthOp.sync (Workers.handle a) env s).performed) := by
  refine ⟨(resume_leaves h.1 a env s).1, fun ha => ?_⟩
  rcases h.2 ha with hsettled | hlong
  · rw [Prog.resume_settled _ _ _ hsettled]
    exact .inl hsettled
  · exact .inr (by simp; omega)

theorem tickets_resume (hl : l.Each Served) (i : Nat) (env : Script AuthMove) :
    tickets (Workers.step config l (.resume i env)) = tickets l := by
  have hbegins : ∀ {j a done}, done.length = 3 → usesStates a.request →
      ((Workers.step config l (.resume i env)).Begins j a done ↔ l.Begins j a done) := by
    intro j a done hlength ha
    apply EventLoop.begins_resume
    intro p hp
    exact ((hl.task _ _ _ hp).2 ha).imp_right (hlength ▸ ·)
  have hstore : (Workers.step config l (.resume i env)).state.oauthStateStore =
      l.state.oauthStateStore := by
    simp only [Workers.step, EventLoop.step]
    cases hp : l.tasks[i]? with
    | none => rfl
    | some task => exact (resume_leaves (hl.task i _ _ hp).1 task.1 env l.state).2
  ext
  · simp only [tickets, hstore]
  · exact hbegins rfl rfl
  · exact exists_congr fun _ => exists_congr fun _ => and_congr_right fun _ =>
      and_congr_right fun _ => hbegins rfl rfl

theorem put_deadline (s : Workers) (w : Nat) (state : String) (e : Option Int) :
    (fun k : Nat × String => (s.put w state e).oauthStateStore k.1 k.2) =
      Function.update (fun k => s.oauthStateStore k.1 k.2) (w, state) e := by
  funext ⟨w', state'⟩
  by_cases hw : w' = w
  · subst hw
    by_cases hstate : state' = state
    · subst hstate
      simp [Workers.put]
    · simp [Workers.put, hstate]
  · simp [Workers.put, hw]

theorem issuing_prefix {state state' : String} {t t' : Int} :
    issuing state t <+: issuing state' t' ↔ state = state' ∧ t = t' := by
  simp only [issuing, List.cons_prefix_cons, Sigma.mk.injEq, heq_eq_eq, Except.ok.injEq, true_and,
    AuthOp.setState.injEq, add_left_inj, and_true, List.prefix_rfl]
  grind

theorem passing_prefix {state key : String} {e now : Int} {x : Option Int} {done : AuthDoings} :
    passing state e now <+: ⟨.getState key, .ok x⟩ :: ⟨.deleteState key, .ok ()⟩ :: done ↔
      state = key ∧ x = some e ∧ [⟨.dateNow, .ok now⟩] <+: done := by
  simp only [passing, List.cons_prefix_cons, Sigma.mk.injEq, AuthOp.getState.injEq, heq_eq_eq,
    Except.ok.injEq, AuthOp.deleteState.injEq, and_true]
  grind

theorem Issues.mem_generated {i w : Nat} {state : String} {t : Int} (h : Issues l i w state t) :
    state ∈ generated l.log :=
  List.mem_filterMap.mpr ⟨_, h.mem_log ⟨.setState state (t + oauthStateTtlMs), .ok ()⟩
    (by simp [issuing]), rfl⟩

theorem Issues.mem_clock {i w : Nat} {state : String} {t : Int} (h : Issues l i w state t) :
    t ∈ clock l.log :=
  List.mem_filterMap.mpr ⟨_, h.mem_log ⟨.dateNow, .ok t⟩ (by simp [issuing]), rfl⟩

theorem tickets_start_google (hl : l.Each Served) (hsound : (tickets l).Sound oauthStateTtlMs)
    (w : Nat) (env : Script AuthMove)
    (hgen : (generated (Workers.step config l (.start ⟨w, .google⟩ env)).log).Nodup) :
    tickets (Workers.step config l (.start ⟨w, .google⟩ env)) = tickets l ∨
      Tickets.Step oauthStateTtlMs (tickets l)
        (tickets (Workers.step config l (.start ⟨w, .google⟩ env))) := by
  have hpasses : (tickets (Workers.step config l (.start ⟨w, .google⟩ env))).redeemed =
      (tickets l).redeemed := by
    funext j k t
    simp [tickets, Redeems, Workers.step, EventLoop.begins_start hl.log_lt]
  rcases segment_google config ⟨w, .google⟩ env l.state with
    ⟨state, now, response, h⟩ | ⟨e, h⟩
  · right
    have hnew : ∀ j t, ¬ (tickets l).redeemed j (w, state) t := by
      intro j t hj
      obtain ⟨i, t', hi, -⟩ := hsound.fresh hj
      have hlog : (Workers.step config l (.start ⟨w, .google⟩ env)).log =
          l.log ++ (issuing state now).map fun op => (l.tasks.length, op) := by
        simp only [Workers.step, EventLoop.step, EventLoop.record, AuthRequest.handler, h]
      rw [hlog, generated, List.filterMap_append] at hgen
      exact List.disjoint_of_nodup_append hgen (Issues.mem_generated hi) (by simp [issuing])
    have hstep : Tickets.Step oauthStateTtlMs (tickets l) _ :=
      .issue l.tasks.length (w, state) now hnew
    convert hstep using 1
    refine Tickets.ext ?_ ?_ hpasses
    · simp only [tickets, Workers.step, EventLoop.step, AuthRequest.handler, h, put_deadline]
    · funext i k t
      simp [tickets, Issues, Workers.step, EventLoop.begins_start hl.log_lt, AuthRequest.handler, h,
        issuing_prefix, Prod.ext_iff, and_assoc]
  · left
    refine Tickets.ext ?_ ?_ hpasses
    · simp only [tickets, Workers.step, EventLoop.step, AuthRequest.handler, h]
    · funext i k t
      simp [tickets, Issues, Workers.step, EventLoop.begins_start hl.log_lt, AuthRequest.handler, h,
        issuing]

theorem redeemed_start_callback (hl : l.Each Served) (w : Nat) (code : Option String) (key : String)
    (env : Script AuthMove) {done : AuthDoings}
    (hdone : ((callback config code key).segment AuthOp.sync
      (Workers.handle ⟨w, .callback code key⟩) env l.state).performed =
        ⟨.getState key, .ok (l.state.oauthStateStore w key)⟩ :: ⟨.deleteState key, .ok ()⟩ :: done)
    (j : Nat) (k : Nat × String) (t : Int) :
    (tickets (Workers.step config l (.start ⟨w, .callback code key⟩ env))).redeemed j k t ↔
      (tickets l).redeemed j k t ∨ j = l.tasks.length ∧ k = (w, key) ∧ ∃ e, e ≠ 0 ∧ t ≤ e ∧
        l.state.oauthStateStore w key = some e ∧ [⟨.dateNow, .ok t⟩] <+: done := by
  obtain ⟨w', state⟩ := k
  simp only [tickets, Redeems, Workers.step, EventLoop.begins_start hl.log_lt, AuthRequest.handler,
    hdone]
  constructor
  · rintro ⟨code', e, hne, hle, hj | ⟨rfl, hlabel, hpass⟩⟩
    · exact .inl ⟨code', e, hne, hle, hj⟩
    · obtain ⟨rfl, hkey, hnow⟩ := passing_prefix.mp hpass
      obtain rfl : w' = w := congrArg Routed.worker hlabel
      exact .inr ⟨rfl, rfl, e, hne, hle, hkey, hnow⟩
  · rintro (⟨code', e, hne, hle, hj⟩ | ⟨rfl, hk, e, hne, hle, hkey, hnow⟩)
    · exact ⟨code', e, hne, hle, .inl hj⟩
    · obtain ⟨rfl, rfl⟩ := Prod.mk.inj hk
      exact ⟨code, e, hne, hle, .inr ⟨rfl, rfl, passing_prefix.mpr ⟨rfl, hkey, hnow⟩⟩⟩

theorem le_of_issued {entries : AuthLog} (hclock : (clock (l.log ++ entries)).Pairwise (· ≤ ·))
    {i w : Nat} {state : String} {t now : Int} (hi : Issues l i w state t)
    (hnow : now ∈ clock entries) : t ≤ now := by
  rw [clock, List.filterMap_append, List.pairwise_append] at hclock
  exact hclock.2.2 t hi.mem_clock now hnow

theorem tickets_start_callback (hl : l.Each Served) (w : Nat) (code state : Option String)
    (env : Script AuthMove)
    (hclock : (clock (Workers.step config l (.start ⟨w, .callback code state⟩ env)).log).Pairwise
      (· ≤ ·)) :
    tickets (Workers.step config l (.start ⟨w, .callback code state⟩ env)) = tickets l ∨
      Tickets.Step oauthStateTtlMs (tickets l)
        (tickets (Workers.step config l (.start ⟨w, .callback code state⟩ env))) := by
  have hissues : (tickets (Workers.step config l (.start ⟨w, .callback code state⟩ env))).issued =
      (tickets l).issued := by
    funext j k t
    simp [tickets, Issues, Workers.step, EventLoop.begins_start hl.log_lt]
  obtain ⟨-, ⟨hdone, -, hstore⟩ | ⟨key, rfl, hstore, done, hdone, -⟩⟩ :=
    segment_callback config ⟨w, .callback code state⟩ env l.state code state
  · left
    refine Tickets.ext ?_ hissues ?_
    · simp only [tickets, Workers.step, EventLoop.step, AuthRequest.handler, hstore]
    · funext j k t
      simp [tickets, Redeems, Workers.step, EventLoop.begins_start hl.log_lt, AuthRequest.handler, hdone,
        passing]
  · right
    have hdeadline : (tickets (Workers.step config l (.start ⟨w, .callback code key⟩ env))).deadline =
        Function.update (tickets l).deadline (w, key) none := by
      simp only [tickets, Workers.step, EventLoop.step, AuthRequest.handler, hstore, put_deadline]
    have hredeemed := redeemed_start_callback hl w code key env hdone
    by_cases hpass : ∃ e now, e ≠ 0 ∧ now ≤ e ∧ l.state.oauthStateStore w key = some e ∧
        [⟨.dateNow, .ok now⟩] <+: done
    · obtain ⟨e, now, hne, hle, hkey, hnow⟩ := hpass
      have hlate : ∀ i t, (tickets l).issued i (w, key) t → t ≤ now := by
        intro i t hi
        have hlog : (Workers.step config l (.start ⟨w, .callback code key⟩ env)).log = l.log ++
            (⟨.getState key, .ok (l.state.oauthStateStore w key)⟩ ::
              ⟨.deleteState key, .ok ()⟩ :: done : AuthDoings).map fun op => (l.tasks.length, op) := by
          simp only [Workers.step, EventLoop.step, EventLoop.record, AuthRequest.handler, hdone]
        rw [hlog] at hclock
        obtain ⟨rest, rfl⟩ := hnow
        exact le_of_issued hclock hi (by simp [clock])
      have hstep : Tickets.Step oauthStateTtlMs (tickets l) _ :=
        .redeem l.tasks.length (k := (w, key)) hkey hle hlate
      convert hstep using 1
      refine Tickets.ext hdeadline hissues ?_
      funext j k t
      refine propext ((hredeemed j k t).trans (or_congr_right (and_congr_right fun _ =>
        and_congr_right fun _ => ?_)))
      constructor
      · rintro ⟨e', -, -, -, hnow'⟩
        have hsame := List.prefix_of_prefix_length_le hnow' hnow le_rfl
        simpa using hsame.eq_of_length rfl
      · rintro rfl
        exact ⟨e, hne, hle, hkey, hnow⟩
    · have hstep : Tickets.Step oauthStateTtlMs (tickets l) _ := .withdraw (w, key)
      convert hstep using 1
      refine Tickets.ext hdeadline hissues ?_
      funext j k t
      refine propext ((hredeemed j k t).trans (or_iff_left ?_))
      rintro ⟨-, -, e, hne, hle, hkey, hnow⟩
      exact hpass ⟨e, t, hne, hle, hkey, hnow⟩

theorem tickets_start_other (hl : l.Each Served) {a : Routed} (ha : usesStates a.request = false)
    (hbody : (a.request.handler config).Meets Leaves fun _ => True) (env : Script AuthMove) :
    tickets (Workers.step config l (.start a env)) = tickets l := by
  have hbegins : ∀ {i b done}, usesStates b.request →
      ((Workers.step config l (.start a env)).Begins i b done ↔ l.Begins i b done) := by
    intro i b done hb
    refine (EventLoop.begins_start hl.log_lt a env).trans (or_iff_left ?_)
    rintro ⟨-, rfl, -⟩
    rw [ha] at hb
    cases hb
  refine Tickets.ext ?_ ?_ ?_
  · simp only [tickets, Workers.step, EventLoop.step, (segment_leaves hbody a env l.state).2]
  · funext i k t
    exact propext (hbegins rfl)
  · funext i k t
    exact propext (exists_congr fun _ => exists_congr fun _ => and_congr_right fun _ =>
      and_congr_right fun _ => hbegins rfl)

/-- Each turn of the workers is a step for the tickets, or none. -/
theorem tickets_step (hl : l.Each Served) (hsound : (tickets l).Sound oauthStateTtlMs)
    (event : WorkerEvent) (hgen : (generated (Workers.step config l event).log).Nodup)
    (hclock : (clock (Workers.step config l event).log).Pairwise (· ≤ ·)) :
    tickets (Workers.step config l event) = tickets l ∨
      Tickets.Step oauthStateTtlMs (tickets l) (tickets (Workers.step config l event)) := by
  cases event with
  | resume i env => exact .inl (tickets_resume hl i env)
  | start a env =>
    obtain ⟨w, request⟩ := a
    cases request with
    | google => exact tickets_start_google hl hsound w env hgen
    | callback code state => exact tickets_start_callback hl w code state env hclock
    | register body =>
      exact .inl (tickets_start_other (a := ⟨w, .register body⟩) hl rfl
        ((meets_register allows_leaves body).mono fun _ _ => trivial) env)
    | login body =>
      exact .inl (tickets_start_other (a := ⟨w, .login body⟩) hl rfl
        ((meets_login allows_leaves body).mono fun _ _ => trivial) env)
    | refresh body =>
      exact .inl (tickets_start_other (a := ⟨w, .refresh body⟩) hl rfl
        ((meets_refresh allows_leaves body).mono fun _ _ => trivial) env)

end Step

section Run

variable {config : Config} {users : UserTable} {refreshTokens : RefreshTokenTable}

theorem served_run (events : List WorkerEvent) :
    (Workers.run config users refreshTokens events).Each Served :=
  (EventLoop.Each.idle _).foldl served_start served_resume events

theorem vetted_run (events : List WorkerEvent) :
    (Workers.run config users refreshTokens events).Each fun a p done =>
      ∀ code state, a.request = .callback code state → Vetted state p done := by
  apply (EventLoop.Each.idle _).foldl
  · intro a env s code state ha
    rw [ha, AuthRequest.handler]
    exact vetted_callback config a env s code state
  · intro a env s p done h code state ha
    exact (h code state ha).resume a env s

/-- To get past the check is to have used up the state, in time. -/
theorem Passes.redeems {events : List WorkerEvent} {j w : Nat} {state : String}
    (h : Passes (Workers.run config users refreshTokens events) j w state) :
    ∃ now, Redeems (Workers.run config users refreshTokens events) j w state now ∧
      Reads (Workers.run config users refreshTokens events) j now := by
  obtain ⟨code, p, hp, hgoes⟩ := h
  rcases (vetted_run events).task j _ p hp code (some state) rfl with
    hrefused | ⟨key, expiresAt, now, hkey, hne, hle, hdone⟩
  · exact absurd hgoes hrefused.not_goesOn
  · obtain rfl := Option.some.inj hkey
    refine ⟨now, ⟨code, expiresAt, hne, hle, p, hp, hdone⟩, ?_⟩
    obtain ⟨rest, hrest⟩ := hdone
    rw [Reads, clock_history, ← hrest]
    rfl

theorem sound_run (events : List WorkerEvent)
    (hgen : (generated (Workers.run config users refreshTokens events).log).Nodup)
    (hclock : (clock (Workers.run config users refreshTokens events).log).Pairwise (· ≤ ·)) :
    (tickets (Workers.run config users refreshTokens events)).Sound oauthStateTtlMs := by
  induction events using List.reverseRecOn with
  | nil =>
    constructor <;> simp [tickets, Workers.run, EventLoop.idle, Workers.fresh, Redeems, EventLoop.Begins]
  | append_singleton events event ih =>
    have hrun : Workers.run config users refreshTokens (events ++ [event]) =
        Workers.step config (Workers.run config users refreshTokens events) event := List.foldl_concat ..
    rw [hrun] at hgen hclock ⊢
    obtain ⟨entries, hlog⟩ :=
      EventLoop.exists_log_step (Workers.run config users refreshTokens events) event
    have hsound : (tickets (Workers.run config users refreshTokens events)).Sound oauthStateTtlMs := by
      apply ih
      · rw [Workers.step, hlog, generated, List.filterMap_append] at hgen
        exact (List.nodup_append.mp hgen).1
      · rw [Workers.step, hlog, clock, List.filterMap_append] at hclock
        exact (List.pairwise_append.mp hclock).1
    rcases tickets_step (served_run events) hsound event hgen hclock with hsame | hstep
    · rw [hsame]
      exact hsound
    · exact hsound.step hstep

theorem eq_of_nodup_filterMap {A B : Type} {f : A → Option B} {xs : List A}
    (h : (xs.filterMap f).Nodup) {x y : A} {b : B} (hx : x ∈ xs) (hy : y ∈ xs)
    (hfx : f x = some b) (hfy : f y = some b) : x = y := by
  by_contra hne
  have : Std.Symm fun a a' => ∀ b, f a = some b → ∀ b', f a' = some b' → b ≠ b' :=
    ⟨fun _ _ h b hb b' hb' => (h b' hb' b hb).symm⟩
  exact (List.pairwise_filterMap.mp h).forall hx hy hne b hfx b hfy rfl

theorem Issues.unique {l : WorkerLoop} (hgen : (generated l.log).Nodup) {i j w w' : Nat}
    {state : String} {t t' : Int} (hi : Issues l i w state t) (hj : Issues l j w' state t') :
    w = w' := by
  have hentry : ∀ {i w : Nat} {t : Int}, Issues l i w state t →
      (i, (⟨.setState state (t + oauthStateTtlMs), .ok ()⟩ : Performed AuthOp AuthOp.Res Error)) ∈
        l.log :=
    fun h => h.mem_log _ (by simp [issuing])
  obtain rfl : i = j :=
    congrArg Prod.fst (eq_of_nodup_filterMap hgen (hentry hi) (hentry hj) rfl rfl)
  obtain ⟨p, hp, -⟩ := hi
  obtain ⟨q, hq, -⟩ := hj
  have hlabel := congrArg Prod.fst (Option.some.inj (hp.symm.trans hq))
  exact congrArg Routed.worker hlabel

/-- A callback only gets past its check with a state that GET /google issued at its worker in the
last ten minutes, and no two callbacks get past it with the same state. -/
theorem state_once (events : List WorkerEvent)
    (hgen : (generated (Workers.run config users refreshTokens events).log).Nodup)
    (hclock : (clock (Workers.run config users refreshTokens events).log).Pairwise (· ≤ ·)) :
    (∀ j w state, Passes (Workers.run config users refreshTokens events) j w state →
      ∃ i t now, Issues (Workers.run config users refreshTokens events) i w state t ∧
        Reads (Workers.run config users refreshTokens events) j now ∧ t ≤ now ∧
        now ≤ t + oauthStateTtlMs) ∧
    ∀ i j w w' state, Passes (Workers.run config users refreshTokens events) i w state →
      Passes (Workers.run config users refreshTokens events) j w' state → i = j := by
  have hsound := sound_run events hgen hclock
  constructor
  · intro j w state hj
    obtain ⟨now, hredeems, hreads⟩ := hj.redeems
    obtain ⟨i, t, hi, hle, hlate⟩ := hsound.fresh (k := (w, state)) hredeems
    exact ⟨i, t, now, hi, hreads, hle, hlate⟩
  · intro i j w w' state hi hj
    obtain ⟨now, hi, -⟩ := hi.redeems
    obtain ⟨now', hj, -⟩ := hj.redeems
    obtain ⟨i', t, hi', -⟩ := hsound.fresh (k := (w, state)) hi
    obtain ⟨j', t', hj', -⟩ := hsound.fresh (k := (w', state)) hj
    obtain rfl := hi'.unique hgen hj'
    exact hsound.once (k := (w, state)) hi hj

end Run

section Example

private def signingUp : Config :=
  { Config.ofSecrets "access-secret-of-32-characters--" "refresh-secret-of-32-characters-" with
    googleClientId := some "id"
    googleClientSecret := some "secret"
    googleCallbackUrl := some "url" }

/-- A state is issued at 1000, and it is used at 2000 and at 3000. -/
private def replayed : List WorkerEvent :=
  [.start ⟨0, .google⟩ fun _ => .smooth "s" 1000,
    .start ⟨0, .callback (some "c") (some "s")⟩ fun _ => .smooth "s" 2000,
    .start ⟨0, .callback (some "c") (some "s")⟩ fun _ => .smooth "s" 3000]

/-- The first callback gets past its check, and no other does. -/
theorem state_once_replayed :
    Passes (Workers.run signingUp .empty .empty replayed) 1 0 "s" ∧
    ∀ j w, Passes (Workers.run signingUp .empty .empty replayed) j w "s" → j = 1 := by
  have hpass : Passes (Workers.run signingUp .empty .empty replayed) 1 0 "s" :=
    ⟨some "c", _, rfl, .inl ⟨"c", rfl⟩⟩
  exact ⟨hpass, fun j w hj =>
    (state_once replayed (by decide) (by decide)).2 j 1 w 0 "s" hj hpass⟩

end Example

end OAuthState

end Ecommerce
