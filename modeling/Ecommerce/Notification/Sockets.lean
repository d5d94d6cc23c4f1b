import Ecommerce.Gateway.Issuance
import Ecommerce.Lib.Json
import Ecommerce.Lib.Runs
import Ecommerce.Shared.Http

/-! Who hears the socket events of the notification service, beside the gateway whose tokens it
checks. -/

namespace Ecommerce

/-- A call of `emitToUser` or of `emitToAdmins`. -/
inductive Emission
  | toUser (userId event : String) (data : Json)
  | toAdmins (event : String) (data : Json)

def Emission.room : Emission → String
  | .toUser userId _ _ => "user:" ++ userId
  | .toAdmins _ _ => "admins"

def Emission.IsFor : Emission → User → Prop
  | .toUser userId _ _, user => user.id = userId
  | .toAdmins _ _, user => user.role = .admin

structure Socket where
  token : Token
  user : JWTPayload
  rooms : List String
  received : List Emission

namespace Socket

def join (socket : Socket) (room : String) : Socket :=
  { socket with rooms := socket.rooms ++ [room] }

def disconnect (socket : Socket) : Socket := { socket with rooms := [] }

def hear (emission : Emission) (socket : Socket) : Socket :=
  if emission.room ∈ socket.rooms then { socket with received := socket.received ++ [emission] }
  else socket

end Socket

/-- `io` is null until `initialize` has been called. -/
structure SocketService where
  io : Option (List Socket)

namespace SocketService

/-- `process.env.JWT_ACCESS_SECRET || 'default-secret'`. -/
def secret (environment : Option String) : String :=
  orFallback (environment.getD "") "default-secret"

def verifyAccessToken (environment : Option String) (now : Int) (token : Token) :
    Except Error JWTPayload :=
  Jwt.verify (secret environment) now token

def authenticate (environment : Option String) (now : Int) : Option Token → Except Error Socket
  | none => .error (.plain "Authentication error")
  | some token =>
    if token = .text "" then .error (.plain "Authentication error")
    else
      match verifyAccessToken environment now token with
      | .ok user => .ok { token, user, rooms := [], received := [] }
      | .error _ => .error (.plain "Authentication error")

def connection (socket : Socket) : Socket :=
  let socket := socket.join ("user:" ++ socket.user.userId)
  if socket.user.role = .admin then socket.join "admins" else socket

def connect (environment : Option String) (now : Int) (token : Option Token) (s : SocketService) :
    SocketService :=
  match authenticate environment now token with
  | .ok socket => ⟨s.io.map (· ++ [connection socket])⟩
  | .error _ => s

def disconnect (i : Nat) (s : SocketService) : SocketService :=
  ⟨s.io.map fun sockets => sockets.modify i Socket.disconnect⟩

def emit (emission : Emission) (s : SocketService) : SocketService :=
  ⟨s.io.map fun sockets => sockets.map (Socket.hear emission)⟩

def initialized : SocketService := ⟨some []⟩

def sockets (s : SocketService) : List Socket := s.io.getD []

end SocketService

structure Site where
  gateway : WorkerLoop
  socketService : SocketService

inductive SiteEvent
  | gateway (event : WorkerEvent)
  | connect (token : Option Token) (now : Int)
  | disconnect (i : Nat)
  | emit (emission : Emission)

namespace Site

section Run

variable (config : Config) (environment : Option String)

def step (s : Site) : SiteEvent → Site
  | .gateway event => { s with gateway := Workers.step config s.gateway event }
  | .connect token now =>
    { s with socketService := s.socketService.connect environment now token }
  | .disconnect i => { s with socketService := s.socketService.disconnect i }
  | .emit emission => { s with socketService := s.socketService.emit emission }

/-- Nobody has a token yet. -/
def start (users : UserTable) : Site := ⟨Workers.run config users .empty [], .initialized⟩

def run (users : UserTable) (events : List SiteEvent) : Site :=
  events.foldl (step config environment) (start config users)

end Run

/-- A token signed with a secret of the gateway that is not public is one that it has handed out. -/
def Unforged (Public : String → Prop) (config : Config) (s : Site) : SiteEvent → Prop
  | .connect (some (.signed secret claims)) _ =>
    ¬ Public secret → secret = config.jwtAccessSecret ∨ secret = config.jwtRefreshSecret →
      .signed secret claims ∈ TokenKinds.handedOut s.gateway
  | _ => True

/-- Every call that a socket has received is for the user to whom the gateway issued its token. -/
def OnlyIssued (config : Config) (s : Site) : Prop :=
  ∀ socket ∈ s.socketService.sockets, ∀ emission ∈ socket.received,
    ∃ user, IssuedTo config s.gateway user socket.token ∧ emission.IsFor user

end Site

section Guarded

variable {config : Config} {environment : Option String} {l : WorkerLoop}

structure Socket.IsOf (config : Config) (l : WorkerLoop) (user : User) (socket : Socket) : Prop where
  issued : IssuedTo config l user socket.token
  rooms : ∀ emission : Emission, emission.room ∈ socket.rooms → emission.IsFor user
  received : ∀ emission ∈ socket.received, emission.IsFor user

namespace Socket.IsOf

variable {user : User} {socket : Socket}

theorem step (h : socket.IsOf config l user) (event : WorkerEvent) :
    socket.IsOf config (Workers.step config l event) user :=
  ⟨h.issued.step event, h.rooms, h.received⟩

theorem disconnect (h : socket.IsOf config l user) : socket.disconnect.IsOf config l user where
  issued := h.issued
  rooms _ hroom := by cases hroom
  received := h.received

theorem hear (h : socket.IsOf config l user) (emission : Emission) :
    (socket.hear emission).IsOf config l user := by
  unfold Socket.hear
  split
  · next hroom =>
    refine ⟨h.issued, h.rooms, fun emission' hmem => ?_⟩
    rcases List.mem_append.mp hmem with hmem | hmem
    · exact h.received emission' hmem
    · obtain rfl := List.mem_singleton.mp hmem
      exact h.rooms _ hroom
  · exact h

end Socket.IsOf

theorem userRoom_ne_admins (userId : String) : "user:" ++ userId ≠ "admins" := by
  intro h
  have hchars := congrArg String.toList h
  simp at hchars

@[simp] theorem connection_token (socket : Socket) :
    (SocketService.connection socket).token = socket.token := by
  simp only [SocketService.connection]
  split <;> rfl

@[simp] theorem connection_received (socket : Socket) :
    (SocketService.connection socket).received = socket.received := by
  simp only [SocketService.connection]
  split <;> rfl

theorem mem_rooms_connection {socket : Socket} (hrooms : socket.rooms = []) {room : String} :
    room ∈ (SocketService.connection socket).rooms ↔
      room = "user:" ++ socket.user.userId ∨ room = "admins" ∧ socket.user.role = .admin := by
  simp only [SocketService.connection]
  split
  · next hrole =>
    have hadmin : socket.user.role = .admin := hrole
    simp [Socket.join, hrooms, hadmin]
  · next hrole =>
    have hadmin : ¬ socket.user.role = .admin := hrole
    simp [Socket.join, hrooms, hadmin]

theorem isFor_of_room {user : User} {emission : Emission}
    (h : emission.room = "user:" ++ user.id ∨ emission.room = "admins" ∧ user.role = .admin) :
    emission.IsFor user := by
  cases emission with
  | toUser userId event data =>
    rcases h with h | ⟨h, -⟩
    · exact ((String.append_right_inj _).mp h).symm
    · exact absurd h (userRoom_ne_admins userId)
  | toAdmins event data =>
    rcases h with h | ⟨-, hrole⟩
    · exact absurd h.symm (userRoom_ne_admins user.id)
    · exact hrole

theorem isOf_connection {token : Token} {user : User} (h : IssuedTo config l user token) :
    (SocketService.connection ⟨token, user.payload, [], []⟩).IsOf config l user where
  issued := by rwa [connection_token]
  rooms _ hroom := isFor_of_room ((mem_rooms_connection rfl).mp hroom)
  received emission hmem := by
    rw [connection_received] at hmem
    cases hmem

theorem authenticate_ok {now : Int} {token : Option Token} {socket : Socket}
    (h : SocketService.authenticate environment now token = .ok socket) :
    ∃ token' user, token = some token' ∧
      Jwt.verify (SocketService.secret environment) now token' = .ok user ∧
      socket = ⟨token', user, [], []⟩ := by
  unfold SocketService.authenticate at h
  split at h
  · cases h
  · next token' =>
    split at h
    · cases h
    · split at h
      · next user hverify => exact ⟨token', user, rfl, hverify, (Except.ok.inj h).symm⟩
      · cases h

theorem mem_sockets_connect {now : Int} {token : Option Token} {s : SocketService} {socket : Socket}
    (h : socket ∈ (s.connect environment now token).sockets) : socket ∈ s.sockets ∨
      ∃ token' user, token = some token' ∧
        Jwt.verify (SocketService.secret environment) now token' = .ok user ∧
        socket = SocketService.connection ⟨token', user, [], []⟩ := by
  unfold SocketService.connect at h
  split at h
  · next socket' hauthenticate =>
    obtain ⟨token', user, htoken, hverify, rfl⟩ := authenticate_ok hauthenticate
    obtain ⟨_ | sockets⟩ := s
    · cases h
    · rcases List.mem_append.mp h with h | h
      · exact .inl h
      · exact .inr ⟨token', user, htoken, hverify, List.mem_singleton.mp h⟩
  · exact .inl h

theorem sockets_disconnect (i : Nat) (s : SocketService) :
    (s.disconnect i).sockets = s.sockets.modify i Socket.disconnect := by
  obtain ⟨_ | sockets⟩ := s
  · exact (List.modify_nil _ _).symm
  · rfl

theorem sockets_emit (emission : Emission) (s : SocketService) :
    (s.emit emission).sockets = s.sockets.map (Socket.hear emission) := by
  obtain ⟨_ | sockets⟩ := s <;> rfl

structure Site.Guarded (config : Config) (users : UserTable) (s : Site) : Prop where
  gateway : ∃ events, s.gateway = Workers.run config users .empty events
  sockets : ∀ socket ∈ s.socketService.sockets, ∃ user, socket.IsOf config s.gateway user

variable {Public : String → Prop} {users : UserTable}

theorem guarded_start : (Site.start config users).Guarded config users where
  gateway := ⟨[], rfl⟩
  sockets socket h := by simp [Site.start, SocketService.sockets, SocketService.initialized] at h

/-- Under the gateway's own key, kept secret and apart from the other, only access tokens of the
gateway open a socket. -/
theorem guarded_step (hsecret : SocketService.secret environment = config.jwtAccessSecret)
    (hpublic : ¬ Public config.jwtAccessSecret)
    (hconfig : config.jwtAccessSecret ≠ config.jwtRefreshSecret ∨
      config.jwtAccessExpiry = none ∨ config.jwtRefreshExpiry = none)
    (s : Site) (event : SiteEvent) (hs : s.Guarded config users)
    (hunforged : s.Unforged Public config event) :
    (s.step config environment event).Guarded config users := by
  obtain ⟨events, hgateway⟩ := hs.gateway
  cases event with
  | gateway event =>
    refine ⟨⟨events ++ [event], ?_⟩, fun socket hsocket => ?_⟩
    · simp only [Site.step, hgateway, Workers.run, List.foldl_append, List.foldl_cons, List.foldl_nil]
    · obtain ⟨user, huser⟩ := hs.sockets socket hsocket
      exact ⟨user, huser.step event⟩
  | connect token now =>
    refine ⟨hs.gateway, fun socket hsocket => ?_⟩
    rcases mem_sockets_connect hsocket with hsocket | ⟨token, payload, rfl, hverify, rfl⟩
    · exact hs.sockets socket hsocket
    · rw [hsecret] at hverify
      have hgenuine : TokenKinds.Genuine config (Workers.run config users .empty events) token := by
        rintro claims rfl
        exact hgateway ▸ hunforged hpublic (.inl rfl)
      obtain ⟨haccess, -⟩ := TokenKinds.verified_run hconfig users events hgenuine hverify
      obtain ⟨user, hissued⟩ := exists_issuedTo users events haccess
      obtain ⟨claims, rfl, -, hpayload⟩ := Jwt.verify_ok hverify
      obtain ⟨claims', hclaims, hfor⟩ := hissued.signed.claims
      obtain ⟨-, rfl⟩ := Token.signed.inj hclaims
      obtain rfl : user.payload = payload := hfor.symm.trans hpayload
      exact ⟨user, isOf_connection (hgateway ▸ hissued)⟩
  | disconnect i =>
    refine ⟨hs.gateway, fun socket hsocket => ?_⟩
    rw [Site.step, sockets_disconnect] at hsocket
    obtain ⟨j, hj⟩ := List.mem_iff_getElem?.mp hsocket
    rw [List.getElem?_modify] at hj
    obtain ⟨socket', hmem, rfl⟩ := Option.map_eq_some_iff.mp hj
    obtain ⟨user, huser⟩ := hs.sockets socket' (List.mem_of_getElem? hmem)
    split
    · exact ⟨user, huser.disconnect⟩
    · exact ⟨user, huser⟩
  | emit emission =>
    refine ⟨hs.gateway, fun socket hsocket => ?_⟩
    rw [Site.step, sockets_emit] at hsocket
    obtain ⟨socket', hmem, rfl⟩ := List.mem_map.mp hsocket
    obtain ⟨user, huser⟩ := hs.sockets socket' hmem
    exact ⟨user, huser.hear emission⟩

theorem onlyIssued_run (hsecret : SocketService.secret environment = config.jwtAccessSecret)
    (hpublic : ¬ Public config.jwtAccessSecret)
    (hconfig : config.jwtAccessSecret ≠ config.jwtRefreshSecret ∨
      config.jwtAccessExpiry = none ∨ config.jwtRefreshExpiry = none)
    {events : List SiteEvent} (hunforged : Runs.Along (Site.step config environment)
      (Site.Unforged Public config) (Site.start config users) events) :
    (Site.run config environment users events).OnlyIssued config := by
  have hguarded := Runs.foldl_of_along (guarded_step hsecret hpublic hconfig) guarded_start hunforged
  intro socket hsocket emission hreceived
  obtain ⟨user, huser⟩ := hguarded.sockets socket hsocket
  exact ⟨user, huser.issued, huser.received emission hreceived⟩

end Guarded

section Intruder

variable {config : Config} {environment : Option String} {Public : String → Prop}

/-- Somebody connects with the token, and hears the call. -/
def intrusion (token : Token) (now : Int) (emission : Emission) : List SiteEvent :=
  [.connect (some token) now, .emit emission]

theorem sockets_intrusion (config : Config) (l : WorkerLoop) {token : Token} {now : Int}
    {payload : JWTPayload} {emission : Emission}
    (hverify : Jwt.verify (SocketService.secret environment) now token = .ok payload)
    (hroom : emission.room = "user:" ++ payload.userId ∨
      emission.room = "admins" ∧ payload.role = .admin) :
    ∃ socket, socket.token = token ∧ socket.received = [emission] ∧
      (intrusion token now emission).foldl (Site.step config environment) ⟨l, .initialized⟩ =
        ⟨l, ⟨some [socket]⟩⟩ := by
  obtain ⟨claims, rfl, -⟩ := Jwt.verify_ok hverify
  have hauthenticate : SocketService.authenticate environment now
      (some (.signed (SocketService.secret environment) claims)) =
      .ok ⟨.signed (SocketService.secret environment) claims, payload, [], []⟩ := by
    simp [SocketService.authenticate, SocketService.verifyAccessToken, hverify]
  have hhears : emission.room ∈ (SocketService.connection
      ⟨.signed (SocketService.secret environment) claims, payload, [], []⟩).rooms :=
    (mem_rooms_connection rfl).mpr hroom
  refine ⟨(SocketService.connection ⟨.signed (SocketService.secret environment) claims, payload,
    [], []⟩).hear emission, ?_, ?_, ?_⟩
  · simp [Socket.hear, hhears]
  · simp [Socket.hear, hhears]
  · simp [intrusion, Site.step, SocketService.connect, hauthenticate, SocketService.initialized,
      SocketService.emit]

theorem not_onlyIssued_intrusion {l : WorkerLoop} {token : Token} {now : Int} {payload : JWTPayload}
    {emission : Emission}
    (hverify : Jwt.verify (SocketService.secret environment) now token = .ok payload)
    (hroom : emission.room = "user:" ++ payload.userId ∨
      emission.room = "admins" ∧ payload.role = .admin)
    (hnot : ∀ user, ¬ IssuedTo config l user token) :
    ¬ ((intrusion token now emission).foldl (Site.step config environment)
      ⟨l, .initialized⟩).OnlyIssued config := by
  obtain ⟨socket, rfl, hreceived, hsite⟩ := sockets_intrusion config l hverify hroom
  rw [hsite]
  intro h
  obtain ⟨user, hissued, -⟩ := h socket List.mem_cons_self emission (hreceived ▸ List.mem_cons_self)
  exact hnot user hissued

/-- A token of an administrator that anybody can sign who knows the key. -/
def forgery (secret : String) : Token :=
  .signed secret ⟨⟨"u", "a@b.co", .admin⟩, none, 0, 1⟩

theorem verify_forgery (secret : String) :
    Jwt.verify secret 0 (forgery secret) = .ok ⟨"u", "a@b.co", .admin⟩ := by
  simp [Jwt.verify, forgery, Jwt.seconds]

/-- Under a public key, an alert is heard by a socket that nobody has issued a token for. -/
theorem exists_forged (Public : String → Prop) (config : Config)
    (hpublic : Public (SocketService.secret environment)) (alert : Json) :
    let events := intrusion (forgery (SocketService.secret environment)) 0
      (.toAdmins "low-stock-alert" alert)
    Runs.Along (Site.step config environment) (Site.Unforged Public config)
        (Site.start config .empty) events ∧
      ¬ (Site.run config environment .empty events).OnlyIssued config := by
  constructor
  · exact ⟨fun hsecret => absurd hpublic hsecret, trivial, trivial⟩
  · apply not_onlyIssued_intrusion (verify_forgery _) (.inr ⟨rfl, rfl⟩)
    intro user hissued
    cases hissued.handedOut

theorem foldl_gateway (events : List WorkerEvent) (l : WorkerLoop) (socketService : SocketService) :
    (events.map SiteEvent.gateway).foldl (Site.step config environment) ⟨l, socketService⟩ =
      ⟨events.foldl (Workers.step config) l, socketService⟩ := by
  induction events generalizing l with
  | nil => rfl
  | cons event events ih => exact ih _

/-- Under the one key of both kinds of tokens, a refresh token opens a socket. -/
theorem exists_refreshed (Public : String → Prop)
    (hsecret : SocketService.secret environment = config.jwtAccessSecret)
    (hkeys : config.jwtAccessSecret = config.jwtRefreshSecret)
    (haccess : config.jwtAccessExpiry ≠ none) (hrefresh : config.jwtRefreshExpiry ≠ none) :
    ∃ events, Runs.Along (Site.step config environment) (Site.Unforged Public config)
        (Site.start config .empty) events ∧
      ¬ (Site.run config environment .empty events).OnlyIssued config := by
  obtain ⟨events, claims, hjti, hmem⟩ := TokenKinds.exists_shared hkeys haccess hrefresh
  have hgateway : (events.map SiteEvent.gateway).foldl (Site.step config environment)
      (Site.start config .empty) = ⟨Workers.run config .empty .empty events, .initialized⟩ :=
    foldl_gateway events _ _
  refine ⟨events.map SiteEvent.gateway ++ intrusion (.signed config.jwtAccessSecret claims)
    ((claims.exp - 1) * 1000) (.toUser claims.userId "event" .null), ?_, ?_⟩
  · apply Runs.along_append.mpr
    constructor
    · have hcalls : ∀ c ∈ events.map SiteEvent.gateway, ∃ event, c = .gateway event := by
        intro c hc
        obtain ⟨event, -, rfl⟩ := List.mem_map.mp hc
        exact ⟨event, rfl⟩
      apply (Runs.along_of_forall hcalls).mono
      rintro s c ⟨event, rfl⟩
      trivial
    · rw [hgateway]
      exact ⟨fun _ _ => hmem, trivial, trivial⟩
  · rw [Site.run, List.foldl_append, hgateway]
    apply not_onlyIssued_intrusion (hsecret ▸ TokenKinds.verify_in_time _ claims) (.inl rfl)
    intro user hissued
    exact hjti (TokenKinds.AccessFor.jti hissued.signed)

end Intruder

/-- Administrators and users alone hear their calls, in every run, exactly where the service has the
gateway's key, nobody else has it, and no refresh token is signed with it.  The service's clock may
be behind the gateway's. -/
theorem Site.onlyIssued_always_iff (Public : String → Prop) (hdefault : Public "default-secret")
    (config : Config) (hkey : config.jwtAccessSecret ≠ "") (environment : Option String)
    (henvironment : environment = some config.jwtAccessSecret ∨ environment = none) :
    (∀ users events, Runs.Along (step config environment) (Unforged Public config)
        (start config users) events → (run config environment users events).OnlyIssued config) ↔
      environment = some config.jwtAccessSecret ∧ ¬ Public config.jwtAccessSecret ∧
        (config.jwtAccessSecret ≠ config.jwtRefreshSecret ∨ config.jwtAccessExpiry = none ∨
          config.jwtRefreshExpiry = none) := by
  have hsecret : environment = some config.jwtAccessSecret →
      SocketService.secret environment = config.jwtAccessSecret := by
    rintro rfl
    simp [SocketService.secret, orFallback, hkey]
  constructor
  · intro h
    have hkept : ¬ Public (SocketService.secret environment) := by
      intro hpublic
      obtain ⟨hunforged, hnot⟩ := exists_forged Public config hpublic .null
      exact hnot (h .empty _ hunforged)
    have hset : environment = some config.jwtAccessSecret := by
      rcases henvironment with henvironment | rfl
      · exact henvironment
      · exact absurd hdefault hkept
    rw [hsecret hset] at hkept
    refine ⟨hset, hkept, ?_⟩
    by_contra hconfig
    simp only [not_or, not_not] at hconfig
    obtain ⟨events, hunforged, hnot⟩ := exists_refreshed Public (hsecret hset) hconfig.1
      hconfig.2.1 hconfig.2.2
    exact hnot (h .empty events hunforged)
  · rintro ⟨hset, hpublic, hconfig⟩ users events hunforged
    exact onlyIssued_run (hsecret hset) hpublic hconfig hunforged

section Example

/-- A gateway with two secrets of its own. -/
private def twoSecrets : Config :=
  .ofSecrets "0123456789abcdef0123456789abcdef" "fedcba9876543210fedcba9876543210"

private def signingUp : List SiteEvent :=
  .gateway (.start ⟨0, .register (.ok ⟨"a@b.co", "password", none, none⟩)⟩ fun _ => .smooth "u" 0) ::
    List.replicate 4 (.gateway (.resume 0 fun _ => .smooth "u" 0))

/-- Somebody registers, connects, and hears of an order. -/
theorem Site.onlyIssued_always_iff_shared :
    (run twoSecrets (some "0123456789abcdef0123456789abcdef") .empty (signingUp ++ intrusion
      (.signed "0123456789abcdef0123456789abcdef" ⟨⟨"u", "a@b.co", .user⟩, none, 0, 900⟩) 0
      (.toUser "u" "order-update" .null))).OnlyIssued twoSecrets :=
  (Site.onlyIssued_always_iff (· = "default-secret") rfl twoSecrets (by decide) _
    (.inl rfl)).mpr ⟨rfl, by decide, .inl (by decide)⟩ .empty _
    ⟨trivial, trivial, trivial, trivial, trivial, fun _ _ => by decide +kernel, trivial, trivial⟩

/-- A notification service without a secret accepts what is signed with the fallback. -/
theorem Site.not_onlyIssued_unset :
    ¬ (Runs.Along (step twoSecrets none) (Unforged (· = "default-secret") twoSecrets)
        (start twoSecrets .empty) (intrusion (forgery "default-secret") 0
          (.toAdmins "low-stock-alert" .null)) →
      (run twoSecrets none .empty (intrusion (forgery "default-secret") 0
        (.toAdmins "low-stock-alert" .null))).OnlyIssued twoSecrets) := by
  have hfallback : SocketService.secret none = "default-secret" := rfl
  obtain ⟨hunforged, hnot⟩ := exists_forged (· = "default-secret") twoSecrets hfallback .null
  exact fun h => hnot (h hunforged)

end Example

end Ecommerce
