import Ecommerce.Gateway.Refresh

namespace Ecommerce

open AuthRoutes Accounts

def Token.Names (userId : String) : Token → Prop
  | .signed _ claims => claims.userId = userId
  | .text _ => False

/-- The response has no token for the user, whose row is still inactive. -/
def LockedOut (userId : String) (r : AuthResponse × Accounts) : Prop :=
  (∀ token ∈ r.1.tokens, ¬ token.Names userId) ∧
    ∃ user ∈ r.2.users.rows, user.id = userId ∧ user.isActive = false

/-- The request's upsert is executed, on the user's row. -/
def AuthRequest.Reactivates (request : AuthRequest) (config : Config) (env : Script AuthMove)
    (s : Accounts) (user : User) : Prop :=
  request.Rewrites config env s user ∧ ∀ m, (env 5).db ≠ .reject m

section Lockout

variable {config : Config} {T : Int → Prop} {env : Script AuthMove} {s : Accounts} {user : User}

theorem Vouched.not_names {response : AuthResponse} (h : Vouched config T response s)
    (hmem : user ∈ s.users.rows) (hinactive : user.isActive = false) :
    ∀ token ∈ response.tokens, ¬ token.Names user.id := by
  intro token htoken hnames
  obtain ⟨user', hmem', hactive, hsigned⟩ := h token htoken
  have hid : user'.id = user.id := by
    rcases hsigned with hsigned | hsigned
    all_goals
      obtain ⟨claims, rfl, hclaims⟩ := hsigned.claims
      exact (congrArg JWTPayload.userId hclaims).symm.trans hnames
  have hsame := List.inj_on_of_nodup_map s.users.nodup hmem' hmem hid
  rw [hsame, hinactive] at hactive
  cases hactive

theorem Reaches.unique {code state : Option String} {sub sub' email email' : String}
    {profile profile' : GoogleProfile} (h : Reaches config code state env s sub email profile)
    (h' : Reaches config code state env s sub' email' profile') : email = email' := by
  obtain rfl := Except.ok.inj (h.profiled.fetched.symm.trans h'.profiled.fetched)
  exact Option.some.inj (h.profiled.email.symm.trans h'.profiled.email)

theorem play_signIn_reject {sub email m : String} {profile : GoogleProfile}
    (hdb : (env 0).db = .reject m) :
    (signIn config sub email profile).play handle env s = (.error (.plain m), s) := by
  simp [signIn, Prog.play, Prog.run_bind, handle, hdb, statement]

variable (config env s) in
theorem play_signIn_active (sub : String) (profile : GoogleProfile)
    (hdb : ∀ m, (env 0).db ≠ .reject m) (hmem : user ∈ s.users.rows) :
    ∃ user' ∈ ((signIn config sub user.email profile).play handle env s).2.users.rows,
      user'.id = user.id ∧ user'.isActive = true := by
  have hfind : s.users.findBy? user.email = some user :=
    UniqueTable.findBy?_eq_some.mpr ⟨hmem, rfl⟩
  have hmem' : (googleUpdate sub profile).apply user ∈
      (s.updateUser user.id (googleUpdate sub profile)).users.rows :=
    List.mem_map.mpr ⟨user, hmem, if_pos rfl⟩
  rw [signIn, Prog.play_perform_bind]
  simp only [handle, upsertUser, hfind]
  cases hmove : (env 0).db with
  | accept =>
    refine Prog.wp.play (M := Timed fun _ => True) (Q := fun _ (s' : Accounts) =>
      ∃ user' ∈ s'.users.rows, user'.id = user.id ∧ user'.isActive = true) ?_ fun _ => trivial
    refine (wp_session (V := fun _ => False) hmem' rfl (fun token htoken =>
      wp_storeRefreshToken hmem' htoken .refl) .refl).mono ?_
    exact fun r s' hsound => hsound.1.active ⟨_, hmem', rfl, rfl⟩
  | reject m => exact absurd hmove (hdb m)
  | lost m => exact ⟨_, hmem', rfl, rfl⟩

theorem callback_reached {code state : Option String} {sub email : String} {profile : GoogleProfile}
    (h : Reaches config code state env s sub email profile) :
    ∃ sub profile key, (callback config code state).play handle env s =
      (signIn config sub email profile).play handle (fun n => env (n + 5)) (s.useState key) := by
  rcases callback_cases (s := s) with ⟨sub', email', profile', key, h', hplay⟩ | ⟨hnot, -⟩
  · obtain rfl := h.unique h'
    exact ⟨sub', profile', key, hplay⟩
  · exact absurd h (hnot _ _ _)

theorem serve_untouched (request : AuthRequest) (hmem : user ∈ s.users.rows)
    (h : ¬ request.Reactivates config env s user) :
    user ∈ (request.serve config env s).2.users.rows := by
  by_cases hrewrites : request.Rewrites config env s user
  · cases request with
    | callback code state =>
      obtain ⟨sub, profile, hreaches⟩ := hrewrites
      obtain ⟨sub, profile, key, hplay⟩ := callback_reached hreaches
      simp only [AuthRequest.Reactivates, not_and, not_forall, not_not] at h
      obtain ⟨m, hdb⟩ := h ⟨_, _, hreaches⟩
      rw [AuthRequest.serve, AuthRequest.handler, hplay, play_signIn_reject hdb]
      exact hmem
    | google | register body | login body | refresh body => exact absurd hrewrites id
  · exact (request.serve_spec (T := fun _ => True) fun _ => trivial).1.untouched hrewrites hmem

/-- A request keeps a deactivated account locked out exactly when it does not reactivate it. -/
theorem lockedOut_iff (request : AuthRequest) (hmem : user ∈ s.users.rows)
    (hinactive : user.isActive = false) :
    LockedOut user.id (request.serve config env s) ↔ ¬ request.Reactivates config env s user := by
  constructor
  · rintro ⟨-, user', hmem', hid, hinactive'⟩ ⟨hrewrites, hdb⟩
    cases request with
    | callback code state =>
      obtain ⟨sub, profile, hreaches⟩ := hrewrites
      obtain ⟨sub, profile, key, hplay⟩ := callback_reached hreaches
      rw [AuthRequest.serve, AuthRequest.handler, hplay] at hmem'
      obtain ⟨active, hmem'', hid', hactive⟩ := play_signIn_active config (fun n => env (n + 5))
        (s.useState key) sub profile hdb hmem
      have hsame := List.inj_on_of_nodup_map (Table.nodup _) hmem' hmem'' (hid.trans hid'.symm)
      rw [hsame, hactive] at hinactive'
      cases hinactive'
    | google | register body | login body | refresh body => exact hrewrites
  · intro h
    have hkept := serve_untouched request hmem h
    have hvouched : Vouched config (fun _ => True) (request.serve config env s).1 _ :=
      (request.serve_spec fun _ => trivial).2
    exact ⟨hvouched.not_names hkept hinactive, user, hkept, rfl, hinactive⟩

end Lockout

/-- A deactivated account stays locked out exactly as long as no Google callback gets to its upsert
with the account's e-mail. -/
theorem lockout_iff (config : Config) {s₀ : Accounts} {user : User} (hmem : user ∈ s₀.users.rows)
    (hinactive : user.isActive = false) (cs : List (AuthRequest × Script AuthMove)) :
    Runs.Along (AuthRequest.step config)
        (fun s c => LockedOut user.id (c.1.serve config c.2 s)) s₀ cs ↔
      Runs.Along (AuthRequest.step config)
        (fun s c => ¬ c.1.Reactivates config c.2 s user) s₀ cs :=
  Runs.along_congr (J := fun s => user ∈ s.users.rows)
    (fun _ c hmem => lockedOut_iff c.1 hmem hinactive)
    (fun _ c hmem h => serve_untouched c.1 hmem h) hmem cs

section Example

private def withGoogle : Config :=
  { Config.ofSecrets "access-secret-of-32-characters--" "refresh-secret-of-32-characters-" with
    googleClientId := some "client"
    googleClientSecret := some "secret"
    googleCallbackUrl := some "https://shop.example/callback" }

private def deactivated : User :=
  ⟨"u", "a@b.co", some "h", none, none, .user, .local, none, false, false⟩

private def lockedAccounts : Accounts where
  users := { rows := [deactivated], nodup := by decide, alt_nodup := by decide }
  refreshTokens := .empty
  oauthStateStore := fun key => if key = "state" then some 600000 else none

/-- Google vouches for the e-mail of the deactivated account. -/
private def vouching : AuthMove :=
  { AuthMove.smooth "r" 1000 with
    accessToken := .ok (some "google")
    profile := .ok ⟨some "sub", some "a@b.co", none, none⟩ }

theorem lockout_login :
    Runs.Along (AuthRequest.step withGoogle)
      (fun s c => LockedOut "u" (c.1.serve withGoogle c.2 s)) lockedAccounts
      [(.login (.ok ⟨"a@b.co", "password"⟩), fun _ => vouching), (.google, fun _ => vouching)] := by
  have hmem : deactivated ∈ lockedAccounts.users.rows := List.mem_cons_self
  exact (lockout_iff withGoogle hmem rfl _).mpr ⟨fun h => h.1, fun h => h.1, trivial⟩

/-- The callback signs the deactivated account in, and activates it. -/
theorem lockout_callback :
    ¬ Runs.Along (AuthRequest.step withGoogle)
      (fun s c => LockedOut "u" (c.1.serve withGoogle c.2 s)) lockedAccounts
      [(.callback (some "code") (some "state"), fun _ => vouching)] := by
  rintro ⟨⟨hnames, -⟩, -⟩
  refine hnames (.signed withGoogle.jwtAccessSecret ⟨⟨"u", "a@b.co", .user⟩, none, 1, 901⟩) ?_ rfl
  decide +kernel

end Example

end Ecommerce
