import Ecommerce.Gateway.TokenKinds

namespace Ecommerce

open AuthRoutes

/-- The user that a statement answers with. -/
def AuthOp.answer : (op : AuthOp) → Except Error op.Res → Option User
  | .findUserByEmail _, .ok user => user
  | .findUserById _, .ok user => user
  | .createUser _, .ok user => some user
  | .upsertUser _ _ _, .ok user => some user
  | _, _ => none

def Fetched (done : AuthDoings) (user : User) : Prop := ∃ a ∈ done, a.1.answer a.2 = some user

def ForFetched (config : Config) (done : AuthDoings) (o : Option (Except Error AuthResponse)) :
    Prop :=
  ∀ response, o = some (.ok response) → ∀ token ∈ response.accessTokens,
    ∃ user, Fetched done user ∧ AccessFor config (fun _ => True) user.payload token

section Reports

variable {config : Config}

theorem Fetched.append_left {done : AuthDoings} {user : User} (h : Fetched done user)
    (earlier : AuthDoings) : Fetched (earlier ++ done) user := by
  obtain ⟨a, ha, hanswer⟩ := h
  exact ⟨a, List.mem_append_right _ ha, hanswer⟩

theorem ForFetched.append_left {done : AuthDoings} {o : Option (Except Error AuthResponse)}
    (h : ForFetched config done o) (earlier : AuthDoings) :
    ForFetched config (earlier ++ done) o := by
  intro response ho token htoken
  obtain ⟨user, hfetched, hsigned⟩ := h response ho token htoken
  exact ⟨user, hfetched.append_left earlier, hsigned⟩

theorem forFetched_none (done : AuthDoings) : ForFetched config done none := by
  intro response h
  cases h

theorem forFetched_error (done : AuthDoings) (e : Error) :
    ForFetched config done (some (.error e)) := by
  intro response h
  cases Option.some.inj h

theorem reports_bind_forFetched {α : Type} {p : AuthM α} {f : α → AuthM AuthResponse}
    (hf : ∀ a, (f a).Reports AuthOp.sync (fun _ _ => True) (ForFetched config)) :
    (p >>= f).Reports AuthOp.sync (fun _ _ => True) (ForFetched config) := by
  rw [Prog.reports_bind]
  apply Prog.reports_of_forall
  intro done o
  cases o with
  | none => exact forFetched_none done
  | some r =>
    cases r with
    | error e => exact forFetched_error done e
    | ok a => exact (hf a).mono fun done' o h => h.append_left done

theorem reports_fetch {op : AuthOp} {f : op.Res → AuthM AuthResponse}
    (hf : ∀ r, (f r).Meets (fun _ => True) fun response =>
      ∃ user, op.answer (.ok r) = some user ∧ response.MintedFor config user.payload) :
    (Prog.perform op >>= f).Reports AuthOp.sync (fun _ _ => True) (ForFetched config) := by
  rw [Prog.reports_bind, Prog.reports_perform]
  refine ⟨fun _ => forFetched_none _, fun r _ => ?_⟩
  cases r with
  | error e => exact forFetched_error _ e
  | ok r =>
    apply (hf r).reports.mono
    intro done o h response ho token htoken
    obtain ⟨user, hanswer, hminted⟩ := h response ho
    exact ⟨user, ⟨⟨op, .ok r⟩, List.mem_cons_self, hanswer⟩, hminted.access token htoken⟩

theorem reports_guarded_forFetched {rethrown : List ErrorClass} {fallback : String}
    {body : AuthM AuthResponse}
    (hbody : body.Reports AuthOp.sync (fun _ _ => True) (ForFetched config)) :
    (guarded rethrown fallback body).Reports AuthOp.sync (fun _ _ => True) (ForFetched config) := by
  rw [guarded, Prog.reports_tryCatch]
  apply hbody.mono
  intro done o h
  cases o with
  | none => exact h
  | some r =>
    cases r with
    | ok response => exact h
    | error e =>
      simp only
      split
      · exact forFetched_error _ e
      · intro response ho token htoken
        obtain rfl := Except.ok.inj (Option.some.inj ho)
        cases htoken

theorem allows_true : Allows config fun _ => True where
  plain _ _ := trivial
  store _ _ _ := trivial

theorem meets_stored {op : AuthOp} {r : op.Res} {user : User}
    (hanswer : op.answer (.ok r) = some user) (view : UserView) (status : Nat) (message : String) :
    (do
      let accessToken ← generateAccessToken config user.payload
      let refreshToken ← generateRefreshToken config user.payload
      storeRefreshToken refreshToken user.id
      pure (.json (.success status message (.session view accessToken refreshToken)))
      : AuthM AuthResponse).Meets (fun _ => True) fun response =>
        ∃ user, op.answer (.ok r) = some user ∧ response.MintedFor config user.payload := by
  apply (meets_session allows_true
    (fun _ htoken => meets_storeRefreshToken allows_true htoken user.id) view status message).mono
  exact fun response hminted => ⟨user, hanswer, hminted⟩

theorem reports_register (body : Except Error RegisterBody) :
    (register config body).Reports AuthOp.sync (fun _ _ => True) (ForFetched config) := by
  apply reports_guarded_forFetched
  apply reports_bind_forFetched
  intro body
  apply reports_bind_forFetched
  intro existingUser
  split
  · exact forFetched_error _ _
  · apply reports_bind_forFetched
    intro passwordHash
    apply reports_fetch
    exact fun user => meets_stored rfl _ _ _

theorem reports_login (body : Except Error LoginBody) :
    (login config body).Reports AuthOp.sync (fun _ _ => True) (ForFetched config) := by
  apply reports_guarded_forFetched
  apply reports_bind_forFetched
  intro body
  apply reports_fetch
  intro found
  split
  · next user passwordHash _ =>
    apply (meets_verified allows_true user passwordHash body.password).mono
    exact fun response hminted => ⟨user, rfl, hminted⟩
  · exact Prog.meets_throw _

theorem reports_refresh_forFetched (body : Except Error Token) :
    (refresh config body).Reports AuthOp.sync (fun _ _ => True) (ForFetched config) := by
  apply reports_guarded_forFetched
  apply reports_bind_forFetched
  intro refreshToken
  apply reports_bind_forFetched
  intro now
  split
  · exact forFetched_error _ _
  · apply reports_bind_forFetched
    intro storedToken
    split
    · exact forFetched_error _ _
    · apply reports_bind_forFetched
      intro now
      split
      · exact forFetched_error _ _
      · apply reports_fetch
        intro found
        split
        · exact Prog.meets_throw _
        · next user hfound =>
          apply (meets_renewed allows_true user.payload).mono
          exact fun response hminted => ⟨user, (Option.filter_eq_some_iff.mp hfound).1, hminted⟩

theorem reports_callback (code state : Option String) :
    (callback config code state).Reports AuthOp.sync (fun _ _ => True) (ForFetched config) := by
  unfold callback
  split
  · apply reports_bind_forFetched
    intro _
    split
    · exact forFetched_error _ _
    · apply reports_bind_forFetched
      rintro ⟨sub, email, profile⟩
      apply reports_fetch
      exact fun user => meets_stored rfl _ _ _
  · exact forFetched_error _ _

variable (config) in
/-- Every route signs access tokens for users that it has fetched. -/
theorem reports_forFetched (request : AuthRequest) :
    (request.handler config).Reports AuthOp.sync (fun _ _ => True) (ForFetched config) := by
  cases request with
  | google =>
    rw [AuthRequest.handler, google]
    split
    · apply reports_bind_forFetched
      intro state
      apply reports_bind_forFetched
      intro now
      apply reports_bind_forFetched
      intro _ response ho token htoken
      obtain rfl := Except.ok.inj (Option.some.inj ho)
      cases htoken
    · exact forFetched_error _ _
  | callback code state => exact reports_callback code state
  | register body => exact reports_register body
  | login body => exact reports_login body
  | refresh body => exact reports_refresh_forFetched body

end Reports

/-- The gateway has handed the token out as an access token, and signed it for a user that the
database had answered it with. -/
structure IssuedTo (config : Config) (l : WorkerLoop) (user : User) (token : Token) : Prop where
  handedOut : token ∈ TokenKinds.accessTokens l
  signed : AccessFor config (fun _ => True) user.payload token
  fetched : ∃ i a, (i, a) ∈ l.log ∧ a.1.answer a.2 = some user

section IssuedTo

variable {config : Config} {l : WorkerLoop} {user : User} {token : Token}

theorem handedOut_step (event : WorkerEvent) (h : token ∈ TokenKinds.accessTokens l) :
    token ∈ TokenKinds.accessTokens (Workers.step config l event) := by
  obtain ⟨response, hresponse, htoken⟩ := List.mem_flatMap.mp h
  obtain ⟨t, ht, hsettled⟩ := List.mem_filterMap.mp hresponse
  obtain ⟨r, hr, -⟩ := Option.map_eq_some_iff.mp hsettled
  have hstays : t ∈ (Workers.step config l event).tasks :=
    EventLoop.mem_step_of_settled ht (by rw [hr]; rfl) event
  exact List.mem_flatMap.mpr ⟨response, List.mem_filterMap.mpr ⟨t, hstays, hsettled⟩, htoken⟩

theorem IssuedTo.step (h : IssuedTo config l user token) (event : WorkerEvent) :
    IssuedTo config (Workers.step config l event) user token := by
  refine ⟨handedOut_step event h.handedOut, h.signed, ?_⟩
  obtain ⟨i, a, ha, hanswer⟩ := h.fetched
  obtain ⟨entries, hlog⟩ : ∃ entries, (Workers.step config l event).log = l.log ++ entries :=
    EventLoop.exists_log_step l event
  exact ⟨i, a, hlog ▸ List.mem_append_left entries ha, hanswer⟩

theorem exists_issuedTo (users : UserTable) (events : List WorkerEvent)
    (htoken : token ∈ TokenKinds.accessTokens (Workers.run config users .empty events)) :
    ∃ user, IssuedTo config (Workers.run config users .empty events) user token := by
  obtain ⟨response, hresponse, htoken'⟩ := List.mem_flatMap.mp htoken
  obtain ⟨⟨a, p⟩, ht, hsettled⟩ := List.mem_filterMap.mp hresponse
  obtain ⟨r, hr, rfl⟩ := Option.map_eq_some_iff.mp hsettled
  obtain ⟨i, hi⟩ := List.mem_iff_getElem?.mp ht
  have hreports := EventLoop.reported (h := Workers.handle) (fun _ _ _ _ => trivial)
    (fun a : Routed => reports_forFetched config a.request) _ events hi
  cases r with
  | error e => cases htoken'
  | ok response =>
    obtain ⟨user, ⟨a', ha, hanswer⟩, hsigned⟩ := hreports response hr token htoken'
    exact ⟨user, htoken, hsigned, i, a', EventLoop.mem_history.mp ha, hanswer⟩

end IssuedTo

end Ecommerce
