import Ecommerce.Gateway.Roles
import Ecommerce.Gateway.Workers

namespace Ecommerce

open AuthRoutes

namespace TokenKinds

def responses (l : WorkerLoop) : List AuthResponse :=
  l.tasks.filterMap fun t => t.2.settlement.map AuthRequest.send

def handedOut (l : WorkerLoop) : List Token := (responses l).flatMap AuthResponse.tokens

def accessTokens (l : WorkerLoop) : List Token := (responses l).flatMap AuthResponse.accessTokens

def Genuine (config : Config) (l : WorkerLoop) (token : Token) : Prop :=
  ∀ claims, token = .signed config.jwtAccessSecret claims → token ∈ handedOut l

def Admits (config : Config) (c : GatewayMove) (token : Token) : Prop :=
  ∃ user sent, (authMiddleware config (some (.bearer token)) none).play GatewayMove.handle
    (fun _ => c) [] = (.ok (.next user), sent)

def GeneratedAccess (config : Config) (l : WorkerLoop) (token : Token) : Prop :=
  token ∈ accessTokens l ∧ ∃ payload, AccessFor config (fun _ => True) payload token

def GeneratedRefresh (config : Config) (log : AuthLog) (token : Token) : Prop :=
  (∃ payload, RefreshFor config (fun _ => True) payload token) ∧
    ∃ i data r, (i, ⟨.createRefreshToken data, r⟩) ∈ log ∧ data.token = token

/-- An access token is admitted and a refresh token is accepted, and nothing else. -/
structure KindsApart (config : Config) (l : WorkerLoop) : Prop where
  admitted : ∀ token c, Genuine config l token → Admits config c token →
    GeneratedAccess config l token
  accepted : ∀ (i w : Nat) (token : Token) (p : AuthM AuthResponse) (response : AuthResponse),
    l.tasks[i]? = some (⟨w, .refresh (.ok token)⟩, p) → p.settlement = some (.ok response) →
    response.tokens ≠ [] → GeneratedRefresh config l.log token

section Accepted

variable {config : Config}

theorem GeneratedRefresh.mono {log : AuthLog} {token : Token}
    (h : GeneratedRefresh config log token) (entries : AuthLog) :
    GeneratedRefresh config (log ++ entries) token := by
  obtain ⟨hpayload, i, data, r, hmem, htoken⟩ := h
  exact ⟨hpayload, i, data, r, List.mem_append_left _ hmem, htoken⟩

/-- The operations of the routes: a refresh token is stored only as its generator returned it. -/
def Stores (config : Config) (op : AuthOp) : Prop :=
  ∀ data, op = .createRefreshToken data →
    ∃ payload, RefreshFor config (fun _ => True) payload data.token

theorem allows_stores : Allows config (Stores config) where
  plain _ hop data hdata := by
    subst hdata
    cases hop
  store data payload hpayload data' hdata := by
    obtain rfl : data = data' := by simpa using hdata
    exact ⟨payload, hpayload⟩

theorem meets_stores (request : AuthRequest) :
    (request.handler config).Meets (Stores config) (AuthResponse.Minted config) :=
  meets_handler allows_stores (fun _ hop data hdata => absurd hdata (hop data)) request

structure AllGenerated (config : Config) (s : Workers) (log : AuthLog) : Prop where
  rows : ∀ row ∈ s.refreshTokens.rows, GeneratedRefresh config log row.token
  found : ∀ i token row, (i, ⟨.findRefreshToken token, .ok (some row)⟩) ∈ log →
    GeneratedRefresh config log token

theorem createRefreshToken_rows (data : NewRefreshToken) (id : String) (s : Accounts) :
    ∀ row ∈ (s.createRefreshToken data id).2.refreshTokens.rows,
      row ∈ s.refreshTokens.rows ∨ row.token = data.token := by
  intro row hrow
  unfold Accounts.createRefreshToken at hrow
  split at hrow
  · exact .inl hrow
  · split at hrow
    · exact .inl hrow
    · next hinsert =>
      rw [(UniqueTable.insert_eq_some hinsert).1] at hrow
      rcases List.mem_append.mp hrow with hrow | hrow
      · exact .inl hrow
      · exact .inr (congrArg RefreshToken.token (List.mem_singleton.mp hrow))

theorem createUser_refreshTokens (data : NewUser) (id : String) (s : Accounts) :
    (s.createUser data id).2.refreshTokens = s.refreshTokens := by
  unfold Accounts.createUser
  split <;> rfl

theorem upsertUser_refreshTokens (email : String) (update : UserUpdate) (create : NewUser)
    (id : String) (s : Accounts) :
    (s.upsertUser email update create id).2.refreshTokens = s.refreshTokens := by
  unfold Accounts.upsertUser
  split
  · rfl
  · exact createUser_refreshTokens create id s

theorem mem_rows_of_handle (c : AuthMove) (op : AuthOp) (s : Accounts) :
    ∀ row ∈ (Accounts.handle c op s).2.refreshTokens.rows,
      row ∈ s.refreshTokens.rows ∨ ∃ data, op = .createRefreshToken data ∧ row.token = data.token := by
  have hstatement : ∀ {α : Type} {r : Except Error α × Accounts},
      (∀ row ∈ r.2.refreshTokens.rows, row ∈ s.refreshTokens.rows ∨
        ∃ data, op = .createRefreshToken data ∧ row.token = data.token) →
      ∀ row ∈ (Accounts.statement c.db r s).2.refreshTokens.rows, row ∈ s.refreshTokens.rows ∨
        ∃ data, op = .createRefreshToken data ∧ row.token = data.token := by
    intro α r hr
    cases c.db with
    | accept => exact hr
    | reject m => exact fun row => .inl
    | lost m => exact hr
  cases op with
  | createRefreshToken data =>
    exact hstatement fun row hrow =>
      (createRefreshToken_rows data c.newId s row hrow).imp_right fun htoken => ⟨data, rfl, htoken⟩
  | deleteExpired userId before =>
    exact hstatement fun row hrow => .inl (List.mem_of_mem_filter hrow)
  | createUser data =>
    exact hstatement fun row hrow => .inl (createUser_refreshTokens data c.newId s ▸ hrow)
  | upsertUser email update create =>
    exact hstatement fun row hrow =>
      .inl (upsertUser_refreshTokens email update create c.newId s ▸ hrow)
  | findUserByEmail email | findUserById id | findRefreshToken token =>
    exact hstatement fun row => .inl
  | _ => exact fun row => .inl

theorem found_of_handle {c : AuthMove} {token : Token} {s : Accounts} {row : RefreshToken}
    (h : (Accounts.handle c (.findRefreshToken token) s).1 = .ok (some row)) :
    row ∈ s.refreshTokens.rows ∧ row.token = token :=
  UniqueTable.findBy?_eq_some.mp (Except.ok.inj (Accounts.statement_ok h).1)

theorem allGenerated_handle (a : Routed) (i : Nat) (c : AuthMove) (op : AuthOp) (s : Workers)
    (log : AuthLog) (hop : Stores config op) (hs : AllGenerated config s log) :
    AllGenerated config (Workers.handle a c op s).2
      (log ++ [(i, ⟨op, (Workers.handle a c op s).1⟩)]) := by
  refine ⟨fun row hrow => ?_, fun j token row hfound => ?_⟩
  · rcases mem_rows_of_handle c op _ row hrow with hrow | ⟨data, rfl, htoken⟩
    · exact (hs.rows row hrow).mono _
    · exact ⟨htoken ▸ hop data rfl, i, data, _, List.mem_append_right _ List.mem_cons_self,
        htoken.symm⟩
  · rcases List.mem_append.mp hfound with hfound | hfound
    · exact (hs.found j token row hfound).mono _
    · obtain ⟨-, hop⟩ := Prod.mk.inj (List.mem_singleton.mp hfound)
      obtain ⟨rfl, hanswer⟩ := Sigma.mk.inj hop
      obtain ⟨hrow, rfl⟩ := found_of_handle (eq_of_heq hanswer).symm
      exact (hs.rows row hrow).mono _

theorem kept_run (users : UserTable) (events : List WorkerEvent) :
    (Workers.run config users .empty events).Kept (Stores config)
      (fun _ => AuthResponse.Minted config) (AllGenerated config) := by
  apply EventLoop.Kept.foldl (fun a => meets_stores a.request) allGenerated_handle
  constructor
  · simp [EventLoop.idle]
  · constructor <;> simp [EventLoop.idle, Workers.fresh, UniqueTable.empty, Table.empty]

def HandsOutIfFound (token : Token) (done : AuthDoings) (o : Option (Except Error AuthResponse)) :
    Prop :=
  ∀ response, o = some (.ok response) → response.tokens ≠ [] →
    ∃ row, ⟨.findRefreshToken token, .ok (some row)⟩ ∈ done

theorem reports_renew (token : Token) :
    (renew config token).Reports AuthOp.sync (fun _ _ => True) (HandsOutIfFound token) := by
  have herror : ∀ done e, HandsOutIfFound token done (some (.error e)) := by
    intro done e response h
    cases Option.some.inj h
  have hwaits : ∀ done, HandsOutIfFound token done none := by
    intro done response h
    cases h
  rw [renew, Prog.reports_bind, Prog.reports_perform]
  refine ⟨fun _ => hwaits _, fun r _ => ?_⟩
  cases r with
  | error e => exact herror _ e
  | ok now =>
    simp only
    split
    · exact herror _ _
    · rw [Prog.reports_bind, Prog.reports_perform]
      refine ⟨fun _ => hwaits _, fun r _ => ?_⟩
      cases r with
      | error e => exact herror _ e
      | ok storedToken =>
        cases storedToken with
        | none => exact herror _ _
        | some row =>
          refine Prog.reports_of_forall (fun done o response _ _ => ⟨row, ?_⟩) _
          simp

theorem reports_refresh (token : Token) :
    (refresh config (.ok token)).Reports AuthOp.sync (fun _ _ => True) (HandsOutIfFound token) := by
  rw [refresh, guarded, Prog.reports_tryCatch]
  apply (reports_renew token).mono
  intro done o hdone
  cases o with
  | none => exact hdone
  | some r =>
    cases r with
    | ok response => exact hdone
    | error e =>
      simp only
      split
      · intro response h
        cases Option.some.inj h
      · intro response h htokens
        obtain rfl := Except.ok.inj (Option.some.inj h)
        exact absurd rfl htokens

theorem accepted_run (users : UserTable) (events : List WorkerEvent) {i w : Nat} {token : Token}
    {p : AuthM AuthResponse} {response : AuthResponse}
    (htask : (Workers.run config users .empty events).tasks[i]? =
      some (⟨w, .refresh (.ok token)⟩, p))
    (hsettled : p.settlement = some (.ok response)) (htokens : response.tokens ≠ []) :
    GeneratedRefresh config (Workers.run config users .empty events).log token := by
  have hbody : ∀ a : Routed, (a.request.handler config).Reports AuthOp.sync (fun _ _ => True)
      fun done o => ∀ token, a.request = .refresh (.ok token) → HandsOutIfFound token done o := by
    rintro ⟨w, request⟩
    by_cases hrequest : ∃ token, request = .refresh (.ok token)
    · obtain ⟨token, rfl⟩ := hrequest
      apply (reports_refresh token).mono
      intro done o hdone token' htoken
      obtain rfl : token = token' := by simpa using htoken
      exact hdone
    · exact Prog.reports_of_forall (fun _ _ token h => absurd ⟨token, h⟩ hrequest) _
  have hdone := EventLoop.reported (h := Workers.handle) (fun _ _ _ _ => trivial) hbody _ events htask
  obtain ⟨row, hfound⟩ := hdone token rfl response hsettled htokens
  exact (kept_run users events).kept.found i token row (EventLoop.mem_history.mp hfound)

end Accepted

section Admitted

variable {config : Config}

theorem admits_iff {c : GatewayMove} {token : Token} : Admits config c token ↔
    ∃ payload, Jwt.verify config.jwtAccessSecret c.now token = .ok payload := by
  have hplay : (authMiddleware config (some (.bearer token)) none).play GatewayMove.handle
      (fun _ => c) [] = (.ok ((Jwt.verify config.jwtAccessSecret c.now token).toOption.elim
        (.reply (unauthorized "Invalid or expired token")) fun payload => .next (some payload)),
        []) := by
    rw [authMiddleware, Prog.play_perform_bind]
    simp only [GatewayMove.handle]
    cases Jwt.verify config.jwtAccessSecret c.now token <;> rfl
  unfold Admits
  rw [hplay]
  cases Jwt.verify config.jwtAccessSecret c.now token <;> simp [Except.toOption]

theorem mem_tokens_cases {response : AuthResponse} {token : Token} (h : token ∈ response.tokens) :
    token ∈ response.accessTokens ∨
      response.refreshToken? = some token ∧ response.accessTokens ≠ [] := by
  unfold AuthResponse.tokens at h
  split at h
  · rcases List.mem_cons.mp h with rfl | h
    · exact .inl List.mem_cons_self
    · obtain rfl := List.mem_singleton.mp h
      exact .inr ⟨rfl, List.cons_ne_nil _ _⟩
  · exact .inl h
  · cases h

theorem minted_run (users : UserTable) (events : List WorkerEvent) :
    ∀ response ∈ responses (Workers.run config users .empty events), response.Minted config := by
  intro response hresponse
  obtain ⟨task, htask, hsettled⟩ := List.mem_filterMap.mp hresponse
  obtain ⟨r, hr, rfl⟩ := Option.map_eq_some_iff.mp hsettled
  have hmeets := (kept_run users events).tasks task htask
  cases r with
  | ok response => exact hmeets.settlement hr
  | error e => exact AuthResponse.minted_of_no_tokens rfl rfl

/-- Where the keys differ, or no session can be opened, only access tokens verify. -/
theorem verified_run (hconfig : config.jwtAccessSecret ≠ config.jwtRefreshSecret ∨
      config.jwtAccessExpiry = none ∨ config.jwtRefreshExpiry = none) (users : UserTable)
    (events : List WorkerEvent) {token : Token} {now : Int} {payload : JWTPayload}
    (hgenuine : Genuine config (Workers.run config users .empty events) token)
    (hverify : Jwt.verify config.jwtAccessSecret now token = .ok payload) :
    GeneratedAccess config (Workers.run config users .empty events) token := by
  obtain ⟨claims, rfl, -, -⟩ := Jwt.verify_ok hverify
  obtain ⟨response, hresponse, htoken⟩ := List.mem_flatMap.mp (hgenuine claims rfl)
  have hminted := minted_run users events response hresponse
  rcases mem_tokens_cases htoken with haccess | ⟨hrefresh, hsession⟩
  · exact ⟨List.mem_flatMap.mpr ⟨response, hresponse, haccess⟩, hminted.access _ haccess⟩
  · exfalso
    obtain ⟨payload', hrefreshFor⟩ := hminted.refresh _ hrefresh
    rcases hconfig with hkeys | hexpiry | hexpiry
    · obtain ⟨claims', hsame, -⟩ := hrefreshFor.claims
      exact hkeys (Token.signed.inj hsame).1
    · obtain ⟨accessToken, haccess⟩ := List.exists_mem_of_ne_nil _ hsession
      obtain ⟨_, a, -, hsign⟩ := hminted.access _ haccess
      rw [hexpiry] at hsign
      cases hsign
    · obtain ⟨a, jti, -, hsign⟩ := hrefreshFor
      rw [hexpiry] at hsign
      cases hsign

theorem admitted_run (hconfig : config.jwtAccessSecret ≠ config.jwtRefreshSecret ∨
      config.jwtAccessExpiry = none ∨ config.jwtRefreshExpiry = none) (users : UserTable)
    (events : List WorkerEvent) {token : Token} {c : GatewayMove}
    (hgenuine : Genuine config (Workers.run config users .empty events) token)
    (hadmits : Admits config c token) :
    GeneratedAccess config (Workers.run config users .empty events) token := by
  obtain ⟨payload, hverify⟩ := admits_iff.mp hadmits
  exact verified_run hconfig users events hgenuine hverify

end Admitted

section Shared

theorem AccessFor.jti {config : Config} {T : Int → Prop} {payload : JWTPayload} {secret : String}
    {claims : Claims} (h : AccessFor config T payload (.signed secret claims)) :
    claims.jti = none := by
  obtain ⟨a, -, hsign⟩ := h
  unfold Jwt.sign at hsign
  split at hsign
  · cases hsign
  · obtain ⟨-, rfl⟩ := Token.signed.inj (Except.ok.inj hsign)
    rfl

theorem verify_in_time (secret : String) (claims : Claims) :
    Jwt.verify secret ((claims.exp - 1) * 1000) (.signed secret claims) = .ok claims.toJWTPayload := by
  have hexp : ¬ claims.exp ≤ Jwt.seconds ((claims.exp - 1) * 1000) := by
    simp [Jwt.seconds]
  simp [Jwt.verify, hexp]

/-- A token with a `jti` that is handed out under the access secret is admitted until it expires. -/
theorem not_kindsApart {config : Config} {l : WorkerLoop} (claims : Claims)
    (hjti : claims.jti ≠ none) (hmem : .signed config.jwtAccessSecret claims ∈ handedOut l) :
    ¬ KindsApart config l := by
  intro h
  have hadmits : Admits config ⟨(claims.exp - 1) * 1000, .sent (.ok .null), .ok .null⟩
      (.signed config.jwtAccessSecret claims) :=
    admits_iff.mpr ⟨claims.toJWTPayload, verify_in_time config.jwtAccessSecret claims⟩
  obtain ⟨-, payload, haccess⟩ := h.admitted _ _ (fun _ _ => hmem) hadmits
  exact hjti (AccessFor.jti haccess)

theorem handedOut_settled {l : WorkerLoop} {a : Routed} {q : AuthM AuthResponse}
    {r : Except Error AuthResponse} {tokens : List Token} (htasks : l.tasks = [(a, q)])
    (hsettled : q.settlement = some r) (htokens : r.map AuthResponse.tokens = .ok tokens) :
    handedOut l = tokens := by
  cases r with
  | error e => cases htokens
  | ok response =>
    obtain rfl := Except.ok.inj htokens
    simp [handedOut, responses, htasks, hsettled, AuthRequest.send]

theorem tokens_registered (accessSecret refreshSecret : String) (access refresh : ℚ)
    (clientId clientSecret callbackUrl : Option String) :
    ((register ⟨accessSecret, refreshSecret, some access, some refresh, clientId, clientSecret,
        callbackUrl⟩ (.ok ⟨"a@b.co", "password", none, none⟩)).play Accounts.handle
        (fun _ => .smooth "u" 0) .empty).1.map AuthResponse.tokens =
      .ok [.signed accessSecret ⟨⟨"u", "a@b.co", .user⟩, none, 0, 0 + ⌊access / 1000⌋⟩,
        .signed refreshSecret ⟨⟨"u", "a@b.co", .user⟩, some "u", 0, 0 + ⌊refresh / 1000⌋⟩] := rfl

/-- Under one key, and with sessions being opened, a refresh token is handed out that verifies as an
access token. -/
theorem exists_shared {config : Config} (hkeys : config.jwtAccessSecret = config.jwtRefreshSecret)
    (haccess : config.jwtAccessExpiry ≠ none) (hrefresh : config.jwtRefreshExpiry ≠ none) :
    ∃ events claims, claims.jti ≠ none ∧ .signed config.jwtAccessSecret claims ∈
      handedOut (Workers.run config .empty .empty events) := by
  obtain ⟨secret, refreshSecret, accessExpiry, refreshExpiry, clientId, clientSecret, callbackUrl⟩ :=
    config
  obtain rfl : secret = refreshSecret := hkeys
  obtain ⟨access, rfl⟩ := Option.ne_none_iff_exists'.mp haccess
  obtain ⟨refresh, rfl⟩ := Option.ne_none_iff_exists'.mp hrefresh
  have htokens := tokens_registered secret secret access refresh clientId clientSecret callbackUrl
  obtain ⟨events, q, htasks, hsettled⟩ := Workers.exists_served ⟨secret, secret, some access,
    some refresh, clientId, clientSecret, callbackUrl⟩ .empty .empty
    (.register (.ok ⟨"a@b.co", "password", none, none⟩)) fun _ => .smooth "u" 0
  have hout : handedOut (Workers.run ⟨secret, secret, some access, some refresh, clientId,
      clientSecret, callbackUrl⟩ .empty .empty events) = _ := handedOut_settled htasks hsettled htokens
  refine ⟨events, ⟨⟨"u", "a@b.co", .user⟩, some "u", 0, 0 + ⌊refresh / 1000⌋⟩,
    Option.some_ne_none "u", ?_⟩
  rw [hout]
  exact List.mem_cons_of_mem _ List.mem_cons_self

/-- The kinds are kept apart in every run exactly where their keys differ, or no session can be
opened at all.  Every worker has a clock of its own, which may be behind the one that a token was
issued by. -/
theorem kindsApart_iff (config : Config) :
    (∀ users events, KindsApart config (Workers.run config users .empty events)) ↔
      config.jwtAccessSecret ≠ config.jwtRefreshSecret ∨ config.jwtAccessExpiry = none ∨
        config.jwtRefreshExpiry = none := by
  constructor
  · intro h
    by_contra hconfig
    simp only [not_or, not_not] at hconfig
    obtain ⟨events, claims, hjti, hmem⟩ := exists_shared hconfig.1 hconfig.2.1 hconfig.2.2
    exact not_kindsApart claims hjti hmem (h .empty events)
  · intro hconfig users events
    exact ⟨fun token c => admitted_run hconfig users events,
      fun i w token p response => accepted_run users events⟩

section Example

/-- An environment with one secret twice. -/
private def oneSecret : Config :=
  .ofSecrets "test-secret-key-min-32-characters-long" "test-secret-key-min-32-characters-long"

private def registering : List WorkerEvent :=
  .start ⟨0, .register (.ok ⟨"a@b.co", "password", none, none⟩)⟩ (fun _ => .smooth "u" 0) ::
    List.replicate 4 (.resume 0 fun _ => .smooth "u" 0)

/-- The refresh token of a registration lets requests through for a week. -/
theorem not_kindsApart_oneSecret :
    ¬ KindsApart oneSecret (Workers.run oneSecret .empty .empty registering) :=
  not_kindsApart ⟨⟨"u", "a@b.co", .user⟩, some "u", 0, 604800⟩ (by decide) (by decide +kernel)

end Example

end Shared

end TokenKinds

end Ecommerce
