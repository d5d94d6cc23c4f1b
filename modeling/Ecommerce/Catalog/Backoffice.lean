import Ecommerce.Catalog.Writes
import Ecommerce.Lib.Remote
import Ecommerce.Shared.RabbitMQClient

/-! The catalogue's routes at the gateway and its servers, with the broker between them. -/

namespace Ecommerce

/-- What a response that has been parsed settles its call with. -/
def RabbitMQClient.resolved (response : Json) : Except Error Json := do
  let error ← (response.get "error").mapError .plain
  if (error.getD .null).truthy then
    let message ← ((error.getD .null).display).mapError .plain
    throw (.plain (String.ofList message))
  else
    return response

theorem RabbitMQClient.resolved_ok {response json : Json} (h : resolved response = .ok json) :
    json = response ∧
      ∃ error, response.get "error" = .ok error ∧ (error.getD .null).truthy = false := by
  unfold resolved at h
  cases hget : response.get "error" with
  | error e => simp [hget, bind, Except.bind, Except.mapError] at h
  | ok error =>
    simp only [hget, bind, Except.bind, Except.mapError] at h
    split at h
    · split at h <;> simp [throw, throwThe, MonadExceptOf.throw] at h
    · next herror => exact ⟨(Except.ok.inj h).symm, error, rfl, by simpa using herror⟩

open Prog EventLoop ServerDoing

/-- What is not the repository's own; `render` is how rows are written as JSON. -/
structure Backoffice.Setting where
  config : Config
  validation : CatalogValidation
  isUrl : String → Bool
  columns : Columns
  engine : Engine
  queries : CategoryQueries
  render : CatalogData → Json

/-- The environment's move at one operation of a route: what the time is, and why a call fails that
nothing answers. -/
structure VisitMove where
  now : Int
  failure : Error

def VisitMove.handle (c : VisitMove) : Handler GatewayOp GatewayOp.Res Error Unit
  | .rpcCall _ _ _, s => (.error c.failure, s)
  | .delay _, s => (.ok (), s)
  | .dateNow, s => (.ok c.now, s)
  | .forward _ _ _, s => (.error c.failure, s)

/-- The clock is not waited for. -/
def GatewayOp.sync : GatewayOp → Bool
  | .dateNow => true
  | _ => false

def CatalogReply.json (render : CatalogData → Json) : CatalogReply → Json
  | .data found => .obj [("success", .bool true), ("data", render found)]
  | .done => .obj [("success", .bool true)]
  | .failed error => .obj [("success", .bool false), ("error", .str error)]

namespace Backoffice

variable (setting : Setting)

def visits : Party CatalogVisit GatewayOp GatewayOp.Res Error (ApiResponse (Option Json)) Unit
    VisitMove where
  sync := GatewayOp.sync
  handle _ := VisitMove.handle
  body := CatalogVisit.handler setting.validation setting.isUrl setting.config

def servers : Party CatalogRpc CatalogServerOp CatalogServerOp.Res Error CatalogReply CatalogServer
    CatalogServerMove where
  sync := CatalogServerOp.sync
  handle _ := CatalogServer.handle setting.engine setting.queries
  body := CatalogMessaging.handler setting.engine

/-- The response that an RPC server sends for what its handler has come to. -/
def response : Except Error CatalogReply → Json
  | .ok reply => reply.json setting.render
  | .error error => .obj [("error", .str error.message)]

def calling : Calling GatewayOp GatewayOp.Res Error CatalogRpc (Except Error CatalogReply) where
  message
    | .rpcCall queue payload _ => CatalogRpc.ofMessage setting.columns queue payload
    | _ => none
  read
    | .rpcCall _ _ _, r => RabbitMQClient.resolved (response setting r)
    -- nothing else is a call
    | .delay _, _ => .error (.plain "")
    | .dateNow, _ => .error (.plain "")
    | .forward _ _ _, _ => .error (.plain "")

end Backoffice

abbrev Backoffice := Remote CatalogVisit CatalogRpc GatewayOp GatewayOp.Res Error
  (ApiResponse (Option Json)) Unit CatalogServerOp CatalogServerOp.Res Error CatalogReply
  CatalogServer

namespace Backoffice

/-- Visits and servers that take turns in any order, with messages that are lost, late or delivered
again. -/
def run (setting : Setting) (s : CatalogServer)
    (events : List (RemoteEvent CatalogVisit VisitMove CatalogServerMove)) : Backoffice :=
  Remote.run (calling setting) (visits setting) (servers setting) () s events

def written (log : List (Nat × ServerDoing)) : List (Nat × CatalogWrite) :=
  log.filterMap fun entry => (wrote entry.2).map fun write => (entry.1, write)

def writes (b : Backoffice) : List (Nat × CatalogWrite) := written b.callee.log

def Asks (setting : Setting) (visit : CatalogVisit) (rpc : CatalogRpc) : Prop :=
  ∃ checked, visit.vetted setting.validation = .ok checked ∧
    checked.asked setting.isUrl setting.columns = some rpc

/-- The product table is what the committed statements have made of it: one at most for each
delivery of a message, each asked for by a request with a valid token of an admin and a body that
the schema accepts. -/
structure Accountable (setting : Setting) (before : List Product) (b : Backoffice) : Prop where
  rows : b.callee.state.catalog.db.products.rows =
    CatalogWrite.replay (b.writes.map Prod.snd) before
  once : (b.writes.map Prod.fst).Nodup
  asked : ∀ entry ∈ b.writes, ∃ call visit,
    (b.callee.tasks.map Prod.fst)[entry.1]? = some call ∧
      (b.caller.tasks.map Prod.fst)[call.task]? = some visit ∧
        CatalogVisit.Admitted setting.config visit.authorization (b.caller.history call.task) ∧
          Asks setting visit call.message ∧ call.message.Plain ∧ entry.2.For call.message

def shown (setting : Setting) : CatalogRpc → CatalogReply → Option Json
  | .productDelete _, reply => some (reply.json setting.render)
  | _, .data found => some (setting.render found)
  | _, _ => none

/-- Data shows what a server has made of a delivery of the request's own message; of a request to
write, that has been committed, but for the failure without a text that a `delete` of a product
passes on. -/
def Acknowledged (setting : Setting) (b : Backoffice) (i : Nat) (visit : CatalogVisit)
    (data : Option Json) : Prop :=
  ∃ t call q reply, b.callee.tasks[t]? = some (call, q) ∧ q.settlement = some (.ok reply) ∧
    call.task = i ∧ Asks setting visit call.message ∧ data = shown setting call.message reply ∧
      (call.message.queue.mutates →
        (call.message.queue = .productDelete ∧ reply = .failed "") ∨
          ∃ write, call.message.confirmed reply = some write ∧ (t, write) ∈ b.writes)

section Written

variable {log : List (Nat × ServerDoing)} {i : Nat} {d : ServerDoing} {write : CatalogWrite}

theorem written_none (h : wrote d = none) : written (log ++ [(i, d)]) = written log := by
  simp [written, h]

theorem written_some (h : wrote d = some write) :
    written (log ++ [(i, d)]) = written log ++ [(i, write)] := by
  simp [written, h]

theorem mem_written : (i, write) ∈ written log ↔ write ∈ (turnsOf log i).filterMap wrote := by
  simp [written, turnsOf, List.mem_filterMap, and_comm, and_left_comm, eq_comm]

end Written

structure Logged (before : List Product) (calls : List (Call CatalogRpc)) (s : CatalogServer)
    (log : List (Nat × ServerDoing)) : Prop where
  rows : s.catalog.db.products.rows = CatalogWrite.replay ((written log).map Prod.snd) before
  once : ((written log).map Prod.fst).Nodup
  asked : ∀ entry ∈ written log, ∃ call, calls[entry.1]? = some call ∧ entry.2.For call.message

theorem Logged.start {before : List Product} {calls : List (Call CatalogRpc)} {s : CatalogServer}
    {log : List (Nat × ServerDoing)} (h : Logged before calls s log) (call : Call CatalogRpc) :
    Logged before (calls ++ [call]) s log where
  rows := h.rows
  once := h.once
  asked entry hentry := by
    obtain ⟨call', hcall, hfor⟩ := h.asked entry hentry
    refine ⟨call', ?_, hfor⟩
    rw [List.getElem?_append_left (List.getElem?_eq_some_iff.mp hcall).1, hcall]

theorem May.filterMap_wrote {rpc : CatalogRpc} {done : List ServerDoing} {op : CatalogServerOp}
    {r : Except Error op.Res} {write : CatalogWrite} (hmay : rpc.May done op)
    (hwrite : wrote ⟨op, r⟩ = some write) : done.filterMap wrote = [] := by
  cases op with
  | product op =>
    cases op with
    | create data | update id data | delete id => exact hmay.2
    | _ => cases hwrite
  | category op => cases op <;> exact hmay.2
  | _ => cases hwrite

theorem Logged.handle {setting : Setting} {before : List Product} {calls : List (Call CatalogRpc)}
    {s : CatalogServer} {log : List (Nat × ServerDoing)} {i : Nat} {call : Call CatalogRpc}
    {op : CatalogServerOp} (h : Logged before calls s log) (hcall : calls[i]? = some call)
    (hmay : call.message.May (turnsOf log i) op) (c : CatalogServerMove) :
    Logged before calls (CatalogServer.handle setting.engine setting.queries c op s).2
      (log ++ [(i, ⟨op, (CatalogServer.handle setting.engine setting.queries c op s).1⟩)]) := by
  obtain ⟨hrows, hasked⟩ := entered_handle setting.engine setting.queries c op s
  rw [h.rows] at hrows
  generalize CatalogServer.handle setting.engine setting.queries c op s = r at hrows hasked ⊢
  cases hwrite : wrote ⟨op, r.1⟩ with
  | none =>
    rw [hwrite] at hrows
    refine ⟨?_, ?_, ?_⟩
    all_goals rw [written_none hwrite]
    · exact hrows
    · exact h.once
    · exact h.asked
  | some write =>
    rw [hwrite] at hrows
    -- what a server writes first, it writes once
    have hfirst : i ∉ (written log).map Prod.fst := by
      intro hmem
      obtain ⟨⟨j, other⟩, hother, rfl⟩ := List.mem_map.mp hmem
      rw [mem_written, May.filterMap_wrote hmay hwrite] at hother
      cases hother
    refine ⟨?_, ?_, ?_⟩
    all_goals rw [written_some hwrite]
    · rw [List.map_append, List.map_singleton, CatalogWrite.replay_concat]
      exact hrows
    · rw [List.map_append, List.map_singleton]
      refine List.nodup_append.mpr ⟨h.once, List.nodup_singleton _, fun j hj k hk hjk => ?_⟩
      obtain rfl : k = i := List.mem_singleton.mp hk
      exact hfirst (hjk ▸ hj)
    · intro entry hentry
      rcases List.mem_append.mp hentry with hentry | hentry
      · exact h.asked entry hentry
      · obtain rfl := List.mem_singleton.mp hentry
        exact ⟨call, hcall, hasked write hwrite _ _ hmay⟩

section Replies

variable {setting : Setting} {rpc : CatalogRpc} {reply : CatalogReply} {json : Json}
  {data : Option Json}

theorem resolved_reply (h : RabbitMQClient.resolved (reply.json setting.render) = .ok json) :
    json = reply.json setting.render := (RabbitMQClient.resolved_ok h).1

theorem resolved_failed {error : String}
    (h : RabbitMQClient.resolved (.obj [("success", .bool false), ("error", .str error)]) =
      .ok json) : error = "" := by
  obtain ⟨-, found, hfound, hfalsy⟩ := RabbitMQClient.resolved_ok h
  obtain rfl := Except.ok.inj hfound
  have hfalsy : (Json.str error).truthy = false := hfalsy
  simpa [Json.truthy] using hfalsy

theorem shown_of_sourced
    (h : if rpc.queue = .productDelete then data = some (reply.json setting.render)
      else CatalogVisit.Succeeded (reply.json setting.render) data) :
    data = shown setting rpc reply := by
  split at h
  next hqueue =>
    cases rpc with
    | productDelete productId => exact h
    | _ => cases hqueue
  next hqueue =>
    obtain ⟨⟨success, hsuccess, htruthy⟩, hdata⟩ := h
    cases reply with
    | failed error =>
      obtain rfl := Option.some.inj (Except.ok.inj hsuccess)
      cases htruthy
    | data found =>
      obtain rfl := Except.ok.inj hdata
      cases rpc with
      | productDelete productId => exact absurd rfl hqueue
      | _ => rfl
    | done =>
      obtain rfl := Except.ok.inj hdata
      cases rpc with
      | productDelete productId => exact absurd rfl hqueue
      | _ => rfl

/-- Only a `delete` of a product does not look at whether the reply is a failure. -/
theorem queue_of_failed {error : String}
    (h : if rpc.queue = .productDelete then
        data = some ((CatalogReply.failed error).json setting.render)
      else CatalogVisit.Succeeded ((CatalogReply.failed error).json setting.render) data) :
    rpc.queue = .productDelete := by
  by_contra hqueue
  rw [if_neg hqueue] at h
  obtain ⟨⟨success, hsuccess, htruthy⟩, -⟩ := h
  obtain rfl := Option.some.inj (Except.ok.inj hsuccess)
  cases htruthy

end Replies

section Runs

variable (setting : Setting) (s : CatalogServer)
  (events : List (RemoteEvent CatalogVisit VisitMove CatalogServerMove))

def Sends (visit : CatalogVisit) (done : List GatewayDoing) (rpc : CatalogRpc) : Prop :=
  Asks setting visit rpc ∧ rpc.Plain ∧
    (rpc.queue.mutates → CatalogVisit.Admitted setting.config visit.authorization done)

theorem linked : (run setting s events).Linked (calling setting)
    (fun visit done op => ∃ checked, visit.vetted setting.validation = .ok checked ∧
      checked.May setting.isUrl setting.config done op)
    (fun visit => CatalogVisit.Reports fun done data =>
      ∃ checked, visit.vetted setting.validation = .ok checked ∧
        CatalogVisit.Sourced (checked.kind setting.isUrl) checked.input done data)
    (Sends setting) := by
  refine Remote.linked_run
    (CatalogVisit.monitored_handler setting.isUrl setting.config setting.validation) ?_ ?_ ?_
    () s events
  · intro op m hm
    cases op with
    | rpcCall queue payload timeout => rfl
    | _ => cases hm
  · intro visit c op u m hm x hx
    cases op with
    | rpcCall queue payload timeout => cases hx
    | _ => cases hm
  · rintro visit done op m ⟨checked, hchecked, hmay⟩ hm
    cases op with
    | rpcCall queue payload timeout =>
      obtain ⟨rpc, hrpc, hasked, hplain, hqueue⟩ := ofMessage_asked setting.columns hmay.1
      obtain rfl := Option.some.inj (hrpc.symm.trans hm)
      refine ⟨⟨checked, hchecked, hasked⟩, hplain, fun hmutates => ?_⟩
      rw [← CatalogVisit.authorization_vetted hchecked]
      exact hmay.2 (hqueue ▸ hmutates)
    | _ => cases hm

theorem audited : (run setting s events).callee.Audited (fun _ _ => True)
    (fun call => call.message.May)
    (fun call done r => ∃ reply, r = .ok reply ∧ call.message.Confirms done reply)
    (Logged s.catalog.db.products.rows) := by
  obtain ⟨events', hrun⟩ : ∃ events' : List (LoopEvent (Call CatalogRpc) CatalogServerMove),
      (run setting s events).callee =
        events'.foldl (Remote.answering (servers setting)).step (.idle s) :=
    Remote.exists_callee_run () s events
  rw [hrun]
  have hidle : Logged s.catalog.db.products.rows [] s [] :=
    ⟨rfl, List.nodup_nil, fun entry hentry => by cases hentry⟩
  exact Audited.foldl (K := Logged s.catalog.db.products.rows) (fun _ _ _ _ => trivial)
    (fun call => CatalogRpc.monitored_handler setting.engine call.message)
    (fun labels call t log h => h.start call)
    (fun labels i call c op t log hcall hmay h => h.handle hcall hmay c) (.idle hidle) events'

/-- However messages get through: what is written has been asked for, and is written once for each
delivery. -/
theorem accountable : Accountable setting s.catalog.db.products.rows (run setting s events) := by
  have hlinked := linked setting s events
  obtain ⟨hrows, honce, hasked⟩ := (audited setting s events).kept
  refine ⟨hrows, honce, fun entry hentry => ?_⟩
  obtain ⟨call, hcall, hfor⟩ := hasked entry hentry
  obtain ⟨delivery, hdelivery, rfl⟩ := List.mem_map.mp (List.mem_of_getElem? hcall)
  obtain ⟨visit, done, hvisit, hdone, hasks, hplain, hadmitted⟩ :=
    hlinked.sends _ (hlinked.delivered delivery hdelivery)
  exact ⟨_, visit, hcall, hvisit, (hadmitted hfor.mutates).later hdone, hasks, hplain, hfor⟩

variable {setting s events}

/-- However messages get through: a response that is no failure tells what has been done. -/
theorem acknowledged {i : Nat} {visit : CatalogVisit}
    {p : GatewayM (ApiResponse (Option Json))} {response : ApiResponse (Option Json)}
    (htask : (run setting s events).caller.tasks[i]? = some (visit, p))
    (hsettled : p.settlement = some (.ok response)) (hstatus : response.status < 300) :
    ∃ data, response.data = some data ∧
      Acknowledged setting (run setting s events) i visit data := by
  have hlinked := linked setting s events
  obtain ⟨data, hdata, checked, hchecked, queue, payload, json, hmessage, hanswered, hsource⟩ :=
    hlinked.audited.settled htask hsettled response rfl hstatus
  refine ⟨data, hdata, ?_⟩
  obtain ⟨rpc, hrpc, hasked, hplain, rfl⟩ := ofMessage_asked setting.columns hmessage
  -- what has answered the request is what one of its own deliveries has come to
  obtain ⟨n, hn⟩ := List.getElem?_of_mem hanswered
  obtain ⟨q, r, hq, hr, hread⟩ :=
    hlinked.answered i n (.rpcCall rpc.queue payload 10000) json hn rpc hrpc
  obtain ⟨t, ht⟩ := List.getElem?_of_mem hq
  obtain ⟨reply, rfl, hconfirms⟩ := (audited setting s events).settled ht hr
  obtain rfl := resolved_reply hread
  refine ⟨t, ⟨i, n, rpc⟩, q, reply, ht, hr, rfl, ⟨checked, hchecked, hasked⟩,
    shown_of_sourced hsource, ?_⟩
  intro hmutates
  obtain ⟨error, rfl⟩ | ⟨write, hwrite, hmem⟩ := hconfirms hmutates
  · obtain rfl := resolved_failed hread
    exact .inl ⟨queue_of_failed hsource, rfl⟩
  · exact .inr ⟨write, hwrite, mem_written.mpr hmem⟩

end Runs

section Example

private def rootCategory : String := "3f1b0c9e-6a0d-4a53-9b0e-2f7f3c1d5a11"

private def nothingSearched : ProductQuery := ⟨.zero, .zero, none, none, none, none, _, .refl _⟩

private def everything : Validation (Except String Json) :=
  ⟨fun _ => .ok (), fun _ => .ok (), .ok⟩

private def shop : Setting where
  config := .ofSecrets "access-secret-of-32-characters--" "refresh-secret-of-32-characters-"
  validation := ⟨everything, everything⟩
  isUrl _ := true
  columns := ⟨fun _ => none, fun _ => nothingSearched⟩
  engine := .exact
  queries :=
    { byName := id
      perm := fun _ => .refl _
      products := fun _ _ => []
      mem_products := by simp
      length_products := fun _ _ => Nat.zero_le _ }
  render _ := .null

private def oneCategory : CatalogServer where
  catalog :=
    { db :=
        { products := .empty
          categories := ⟨[⟨rootCategory, "Plants", "plants", none, none, true, 0, 0⟩], by decide⟩
          inventory := fun _ => none }
      cache := .empty }
  events := []
  errors := []

private def removal : CatalogVisit :=
  .categories (some (.bearer (.signed shop.config.jwtAccessSecret
    ⟨⟨"a", "admin@b.co", .admin⟩, none, 1, 901⟩))) (.delete rootCategory)

private def removed : ApiResponse (Option Json) :=
  .success 200 "Category deleted successfully" none

/-- The message gets through twice. -/
private def removing : List (RemoteEvent CatalogVisit VisitMove CatalogServerMove) :=
  let visiting : Script VisitMove := fun _ => ⟨2000, .plain "RPC timeout"⟩
  let serving : Script CatalogServerMove := fun _ => ⟨.calm, none⟩
  [.turn (.start removal visiting), .send 0, .deliver 0 serving, .deliver 0 serving,
    .work 0 serving, .work 1 serving, .work 1 serving, .answer 0 visiting, .answer 1 visiting]

theorem acknowledged_removed : removed.status < 300 ∧ ∃ data, removed.data = some data ∧
    Acknowledged shop (run shop oneCategory removing) 0 removal data :=
  have htask : (run shop oneCategory removing).caller.tasks[0]? = some (removal, .pure removed) :=
    rfl
  ⟨by decide, acknowledged htask rfl (by decide)⟩

end Example

end Backoffice

end Ecommerce
