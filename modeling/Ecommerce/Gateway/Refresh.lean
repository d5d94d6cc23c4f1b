import Ecommerce.Gateway.AuthEffect
import Ecommerce.Lib.Runs

namespace Ecommerce

open AuthRoutes Accounts

structure Renews (config : Config) (env : Script AuthMove) (s : Accounts) (t : Token)
    (payload : JWTPayload) (row : RefreshToken) (user : User) (token : Token) : Prop where
  verified : Jwt.verify config.jwtRefreshSecret (env 0).now t = .ok payload
  read : (env 1).db = .accept
  stored : s.refreshTokens.findBy? t = some row
  fresh : (env 2).now ≤ row.expiresAt
  read' : (env 3).db = .accept
  found : s.users.find? payload.userId = some user
  active : user.isActive = true
  signed : Jwt.sign user.payload none config.jwtAccessSecret config.jwtAccessExpiry (env 4).now =
    .ok token

section Refresh

variable {config : Config} {env : Script AuthMove} {s : Accounts}

theorem statement_query {α : Type} (db : DbMove) (a : α) (s : Accounts) :
    db = .accept ∧ statement db (.ok a, s) s = (.ok a, s) ∨
      db ≠ .accept ∧ ∃ e, statement db (.ok a, s) s = (.error e, s) := by
  cases db with
  | accept => exact .inl ⟨rfl, rfl⟩
  | reject m => exact .inr ⟨by simp, _, rfl⟩
  | lost m => exact .inr ⟨by simp, _, rfl⟩

theorem play_guarded (rethrown : List ErrorClass) (fallback : String) (body : AuthM AuthResponse) :
    (∃ response, (body.play handle env s).1 = .ok response ∧
      (guarded rethrown fallback body).play handle env s =
        (.ok response, (body.play handle env s).2)) ∨
    (∃ e, (body.play handle env s).1 = .error e) ∧
      ∃ r, (guarded rethrown fallback body).play handle env s =
        (r, (body.play handle env s).2) ∧ (AuthRequest.send r).tokens = [] := by
  have hplay := Prog.play_tryCatch_settled handle env body
    (f := fun err => if rethrown.any err.isInstance then throw err
      else pure (.json (.failure 500 (orFallback err.message fallback))))
    (g := fun err => if rethrown.any err.isInstance then .error err
      else .ok (.json (.failure 500 (orFallback err.message fallback))))
    (fun err s => by split <;> rfl) s
  rw [guarded, hplay]
  cases (body.play handle env s).1 with
  | ok response => exact .inl ⟨response, rfl, rfl⟩
  | error err =>
    refine .inr ⟨⟨err, rfl⟩, _, rfl, ?_⟩
    by_cases hrethrown : rethrown.any err.isInstance <;>
      simp [hrethrown, AuthRequest.send, errorHandler, AuthResponse.tokens, ApiResponse.failure]

theorem renew_cases (t : Token) :
    (∃ payload row user token, Renews config env s t payload row user token ∧
      (renew config t).play handle env s =
        (.ok (.json (.success 200 "Token refreshed successfully" (.accessToken token))), s)) ∨
    (∀ payload row user token, ¬ Renews config env s t payload row user token) ∧
      ∃ e, (renew config t).play handle env s = (.error e, s) := by
  simp only [renew, Prog.play, Prog.run_bind, Prog.run_perform, Handler.scripted_apply, handle]
  cases hverify : Jwt.verify config.jwtRefreshSecret (env 0).now t with
  | error e =>
    refine .inr ⟨fun payload row user token h => ?_, _, rfl⟩
    cases hverify.symm.trans h.verified
  | ok payload =>
    simp only [Prog.run_bind, Prog.run_perform, Handler.scripted_apply, handle, Script.tail_apply,
      Nat.zero_add]
    rcases statement_query (env 1).db (s.refreshTokens.findBy? t) s with
      ⟨hread, hquery⟩ | ⟨hread, e, hquery⟩
    · rw [hquery]
      cases hstored : s.refreshTokens.findBy? t with
      | none =>
        refine .inr ⟨fun payload row user token h => ?_, _, rfl⟩
        cases hstored.symm.trans h.stored
      | some row =>
        simp only [Prog.run_bind, Prog.run_perform, Handler.scripted_apply, handle,
          Script.tail_apply, Nat.zero_add, Nat.reduceAdd]
        by_cases hexpired : row.expiresAt < (env 2).now
        · rw [if_pos hexpired]
          refine .inr ⟨fun payload row' user token h => ?_, _, rfl⟩
          obtain rfl := Option.some.inj (hstored.symm.trans h.stored)
          exact absurd h.fresh (by omega)
        · rw [if_neg hexpired]
          simp only [Prog.run_bind, Prog.run_perform, Handler.scripted_apply, handle,
            Script.tail_apply, Nat.zero_add, Nat.reduceAdd]
          rcases statement_query (env 3).db (s.users.find? payload.userId) s with
            ⟨hread', hquery'⟩ | ⟨hread', e, hquery'⟩
          · rw [hquery']
            cases hfound : (s.users.find? payload.userId).filter User.isActive with
            | none =>
              refine .inr ⟨fun payload' row' user token h => ?_, .app .unauthorized
                "User not found or inactive", ?_⟩
              · obtain rfl := Except.ok.inj (hverify.symm.trans h.verified)
                simp [h.found, Option.filter_some, h.active] at hfound
              · simp only [hfound]
                rfl
            | some user =>
              obtain ⟨huser, hactive⟩ := Option.filter_eq_some_iff.mp hfound
              simp only [hfound, generateAccessToken, Prog.run_bind, Prog.run_perform,
                Handler.scripted_apply, handle, Script.tail_apply, Nat.zero_add, Nat.reduceAdd]
              cases hsign : Jwt.sign user.payload none config.jwtAccessSecret
                  config.jwtAccessExpiry (env 4).now with
              | error e =>
                refine .inr ⟨fun payload' row' user' token h => ?_, e, rfl⟩
                obtain rfl := Except.ok.inj (hverify.symm.trans h.verified)
                obtain rfl := Option.some.inj (huser.symm.trans h.found)
                cases hsign.symm.trans h.signed
              | ok token =>
                exact .inl ⟨payload, row, user, token, ⟨hverify, hread, hstored, by omega, hread',
                  huser, hactive, hsign⟩, rfl⟩
          · rw [hquery']
            exact .inr ⟨fun payload row user token h => hread' h.read', _, rfl⟩
    · rw [hquery]
      exact .inr ⟨fun payload row user token h => hread h.read, _, rfl⟩

variable (config env s) in
theorem refresh_cases (t : Token) :
    (∃ payload row user token, Renews config env s t payload row user token ∧
      ((AuthRequest.refresh (.ok t)).serve config env s).1.tokens = [token]) ∨
    (∀ payload row user token, ¬ Renews config env s t payload row user token) ∧
      ((AuthRequest.refresh (.ok t)).serve config env s).1.tokens = [] := by
  rw [AuthRequest.serve, AuthRequest.handler]
  have hrefresh : refresh config (.ok t) =
      guarded [.unauthorized, .badRequest] "Token refresh failed" (renew config t) := rfl
  rw [hrefresh]
  rcases play_guarded [.unauthorized, .badRequest] "Token refresh failed" (renew config t) with
    ⟨response, hok, hplay⟩ | ⟨⟨e, herror⟩, r, hplay, hr⟩
  · rcases renew_cases t with ⟨payload, row, user, token, hrenews, hrenew⟩ | ⟨-, e, hrenew⟩
    · refine .inl ⟨payload, row, user, token, hrenews, ?_⟩
      rw [hrenew] at hok
      obtain rfl := Except.ok.inj hok
      rw [hplay]
      rfl
    · rw [hrenew] at hok
      cases hok
  · rcases renew_cases t with ⟨payload, row, user, token, hrenews, hrenew⟩ | ⟨hnot, e, hrenew⟩
    · rw [hrenew] at herror
      cases herror
    · refine .inr ⟨hnot, ?_⟩
      rw [hplay]
      exact hr

theorem serve_refresh_state (body : Except Error Token) :
    ((AuthRequest.refresh body).serve config env s).2 = s := by
  have hbody : ((Prog.settle body >>= renew config).play handle env s).2 = s := by
    cases body with
    | error e => rfl
    | ok t =>
      rcases renew_cases t with ⟨payload, row, user, token, -, hplay⟩ | ⟨-, e, hplay⟩ <;>
        exact congrArg Prod.snd hplay
  rw [AuthRequest.serve, AuthRequest.handler, refresh]
  rcases play_guarded [.unauthorized, .badRequest] "Token refresh failed"
      (Prog.settle body >>= renew config) with ⟨response, -, hplay⟩ | ⟨-, r, hplay, -⟩ <;>
    exact (congrArg Prod.snd hplay).trans hbody

theorem serve_google_refreshTokens :
    (AuthRequest.google.serve config env s).2.refreshTokens = s.refreshTokens := by
  have hwp : (google config).wp (fun _ => True) handle
      (fun _ s' => s'.refreshTokens = s.refreshTokens) s := by
    rw [google]
    split
    · simp only [Prog.wp_bind, Prog.wp_perform, handle, Prog.cont_ok, Prog.wp_pure, implies_true]
    · rfl
  exact hwp.play fun _ => trivial

end Refresh

abbrev AuthRequest.step (config : Config) (s : Accounts) (c : AuthRequest × Script AuthMove) :
    Accounts := (c.1.serve config c.2 s).2

/-- The stored tokens are signed for the users they are stored for. -/
def Faithful (config : Config) (s : Accounts) : Prop :=
  ∀ row ∈ s.refreshTokens.rows, ∃ claims,
    row.token = .signed config.jwtRefreshSecret claims ∧ claims.userId = row.userId

section Run

variable {config : Config} {T : Int → Prop} {V : User → Prop} {s s' : Accounts}

theorem RefreshFor.claims {payload : JWTPayload} {token : Token}
    (h : RefreshFor config T payload token) :
    ∃ claims, token = .signed config.jwtRefreshSecret claims ∧ claims.toJWTPayload = payload := by
  obtain ⟨a, jti, -, hsign⟩ := h
  exact Jwt.sign_ok hsign

theorem AccessFor.claims {payload : JWTPayload} {token : Token}
    (h : AccessFor config T payload token) :
    ∃ claims, token = .signed config.jwtAccessSecret claims ∧ claims.toJWTPayload = payload := by
  obtain ⟨a, -, hsign⟩ := h
  exact Jwt.sign_ok hsign

theorem Change.faithful (h : Change config T V s s') (hs : Faithful config s) :
    Faithful config s' := by
  cases h with
  | oauth store => exact hs
  | created hinsert hrole hactive => exact hs
  | rewritten hmem hV sub profile => exact hs
  | purged userId hT => exact fun row hrow => hs row (List.mem_of_mem_filter hrow)
  | stored hinsert htoken hT hexpires =>
    intro row' hrow
    rw [(UniqueTable.insert_eq_some hinsert).1] at hrow
    rcases List.mem_append.mp hrow with hrow | hrow
    · exact hs row' hrow
    · obtain rfl := List.mem_singleton.mp hrow
      obtain ⟨user, -, hid, hrefresh⟩ := htoken
      obtain ⟨claims, hsigned, hpayload⟩ := hrefresh.claims
      exact ⟨claims, hsigned, (congrArg JWTPayload.userId hpayload).trans hid⟩

theorem Changes.faithful (h : Changes config T V s s') (hs : Faithful config s) :
    Faithful config s' := by
  induction h with
  | refl => exact hs
  | tail _ h ih => exact h.faithful ih

theorem faithful_step (hs : Faithful config s) (c : AuthRequest × Script AuthMove) :
    Faithful config (AuthRequest.step config s c) :=
  (c.1.serve_spec (T := fun _ => True) fun _ => trivial).1.faithful hs

end Run

def Stores (t : Token) (userId : String) (s s' : Accounts) : Prop :=
  ∃ row ∈ s'.refreshTokens.rows, row ∉ s.refreshTokens.rows ∧ row.token = t ∧ row.userId = userId

/-- The requests that issue refresh tokens. -/
def AuthRequest.SignsIn : AuthRequest → Prop
  | .register _ | .login _ | .callback _ _ => True
  | .google | .refresh _ => False

theorem verify_signed {secret : String} {now : Int} {claims : Claims} {payload : JWTPayload}
    (h : Jwt.verify secret now (.signed secret claims) = .ok payload) :
    Jwt.seconds now < claims.exp ∧ payload = claims.toJWTPayload := by
  obtain ⟨claims', hsame, hexp, hpayload⟩ := Jwt.verify_ok h
  obtain ⟨-, rfl⟩ := Token.signed.inj hsame
  exact ⟨hexp, hpayload.symm⟩

theorem exists_stores {config : Config} {s₀ : Accounts} {row : RefreshToken}
    {cs : List (AuthRequest × Script AuthMove)} (hnew : row ∉ s₀.refreshTokens.rows)
    (hrow : row ∈ (cs.foldl (AuthRequest.step config) s₀).refreshTokens.rows) :
    ∃ before c after, cs = before ++ c :: after ∧ c.1.SignsIn ∧
      Stores row.token row.userId (before.foldl (AuthRequest.step config) s₀)
        (AuthRequest.step config (before.foldl (AuthRequest.step config) s₀) c) := by
  obtain ⟨before, c, after, rfl, hbefore, hafter⟩ :=
    Runs.exists_step (P := fun s : Accounts => row ∈ s.refreshTokens.rows) hnew hrow
  refine ⟨before, c, after, rfl, ?_, row, hafter, hbefore, rfl, rfl⟩
  obtain ⟨request, env⟩ := c
  cases request with
  | google =>
    simp only [AuthRequest.step, serve_google_refreshTokens] at hafter
    exact hbefore hafter
  | refresh body =>
    simp only [AuthRequest.step, serve_refresh_state] at hafter
    exact hbefore hafter
  | register body | login body | callback code state => trivial

/-- A refresh token that is honoured was issued earlier in the run, has expired neither by its
signature nor by its row, and stands for an active user, whom the new access token names. -/
theorem refresh_sound (config : Config) {s₀ : Accounts} (hempty : s₀.refreshTokens.rows = [])
    (cs : List (AuthRequest × Script AuthMove)) :
    Faithful config (cs.foldl (AuthRequest.step config) s₀) ∧
      ∀ t env token, token ∈ ((AuthRequest.refresh (.ok t)).serve config env
          (cs.foldl (AuthRequest.step config) s₀)).1.tokens →
        ∃ user ∈ (cs.foldl (AuthRequest.step config) s₀).users.rows, user.isActive = true ∧
          (∃ before c after, cs = before ++ c :: after ∧ c.1.SignsIn ∧
            Stores t user.id (before.foldl (AuthRequest.step config) s₀)
              (AuthRequest.step config (before.foldl (AuthRequest.step config) s₀) c)) ∧
          (∃ claims, t = .signed config.jwtRefreshSecret claims ∧ claims.userId = user.id ∧
            Jwt.seconds (env 0).now < claims.exp) ∧
          (∃ row ∈ (cs.foldl (AuthRequest.step config) s₀).refreshTokens.rows,
            row.token = t ∧ (env 2).now ≤ row.expiresAt) ∧
          ∃ claims, token = .signed config.jwtAccessSecret claims ∧
            claims.toJWTPayload = ⟨user.id, user.email, user.role⟩ := by
  have hfaithful : Faithful config (cs.foldl (AuthRequest.step config) s₀) := by
    refine Runs.foldl_invariant (I := Faithful config) ?_ ?_ cs
    · exact fun s c hs => faithful_step hs c
    · simp [Faithful, hempty]
  refine ⟨hfaithful, fun t env token hmem => ?_⟩
  rcases refresh_cases config env _ t with
    ⟨payload, row, user, token', hrenews, htokens⟩ | ⟨-, htokens⟩
  · rw [htokens, List.mem_singleton] at hmem
    obtain rfl := hmem
    obtain ⟨hrow, rfl⟩ := UniqueTable.findBy?_eq_some.mp hrenews.stored
    obtain ⟨claims, hsigned, hclaims⟩ := hfaithful row hrow
    obtain ⟨hexp, rfl⟩ := verify_signed (hsigned ▸ hrenews.verified)
    obtain ⟨huser, hid⟩ := Table.find?_eq_some.mp hrenews.found
    have howner : row.userId = user.id := hclaims.symm.trans hid.symm
    refine ⟨user, huser, hrenews.active, howner ▸ exists_stores (by simp [hempty]) hrow,
      ⟨claims, hsigned, hid.symm, hexp⟩, ⟨row, hrow, rfl, hrenews.fresh⟩, ?_⟩
    exact AccessFor.claims (T := fun _ => True) ⟨_, trivial, hrenews.signed⟩
  · rw [htokens] at hmem
    cases hmem

section Example

private def secrets : Config :=
  .ofSecrets "access-secret-of-32-characters--" "refresh-secret-of-32-characters-"

private def registered : List (AuthRequest × Script AuthMove) :=
  [(.register (.ok ⟨"a@b.co", "password", none, none⟩), fun _ => .smooth "u" 1500)]

private def registeredToken : Token :=
  .signed secrets.jwtRefreshSecret ⟨⟨"u", "a@b.co", .user⟩, some "u", 1, 604801⟩

private def renewedToken : Token :=
  .signed secrets.jwtAccessSecret ⟨⟨"u", "a@b.co", .user⟩, none, 3600, 4500⟩

/-- The token of a registration is honoured an hour later. -/
theorem refresh_sound_registered :
    ∃ user ∈ (registered.foldl (AuthRequest.step secrets) .empty).users.rows,
      user.isActive = true ∧
      ∃ row ∈ (registered.foldl (AuthRequest.step secrets) .empty).refreshTokens.rows,
        row.token = registeredToken ∧ 3600000 ≤ row.expiresAt := by
  have hempty : Accounts.empty.refreshTokens.rows = [] := rfl
  obtain ⟨-, hrefresh⟩ := refresh_sound secrets hempty registered
  obtain ⟨user, hmem, hactive, -, -, hrow, -⟩ := hrefresh registeredToken
    (fun _ => .smooth "v" 3600000) renewedToken (by decide +kernel)
  exact ⟨user, hmem, hactive, hrow⟩

end Example

end Ecommerce
