import Ecommerce.Shared.Consumers
import Ecommerce.Shared.RpcProtocol

/-! Clients, brokers and servers together: what a call is settled with is what the server of its queue
made of its message. -/

namespace Ecommerce

structure QueueRequest where
  queue : String
  msg : ConsumeMessage String

structure RpcCall where
  correlationId : String
  queue : String
  message : Json
  options : RPCOptions

/-- The message that the call sends. -/
def RpcCall.write (call : RpcCall) (replyQueue : String) : QueuedMessage :=
  ⟨call.queue, call.message.stringify, call.correlationId, replyQueue,
    call.options.persistent ≠ some false⟩

abbrev RpcServers (R : Type) :=
  EventLoop QueueRequest (ConsumerOp Json) (ConsumerOp.Res fun _ => R) Error Unit Unit

structure RpcSystem (R : Type) where
  clients : List RabbitMQClient
  servers : RpcServers R

inductive SystemEvent (R : Type)
  | call (client : Nat) (call : RpcCall)
  | timer (client handle : Nat)
  | deliver (client message deliveryTag : Nat)
  | handled (task : Nat) (outcome : Except Error R)
  | reply (client entry : Nat)

namespace RpcSystem

variable {R : Type} (parse : String → Except Error Json)
  (stringify : R → Except Error (Option (List Char))) (served : String → Bool)

def connect (replyQueues : List String) : RpcSystem R := ⟨replyQueues.map .connect, .idle ()⟩

def request (m : QueuedMessage) (deliveryTag : Nat) : QueueRequest :=
  ⟨m.queue, ⟨deliveryTag, String.ofList m.content, some m.replyTo, some m.correlationId⟩⟩

def replyFor (queue : String) :
    Nat × Performed (ConsumerOp Json) (ConsumerOp.Res fun _ => R) Error →
      Option (Option String × String)
  | (_, ⟨.sendToQueue replyTo content correlationId, _⟩) =>
    if replyTo = queue then some (correlationId, String.ofList content) else none
  | _ => none

def onServers : RpcServers R → LoopEvent QueueRequest (Except Error R) → RpcServers R :=
  EventLoop.step (ConsumerOp.sync fun _ => false) (fun _ => openChannel)
    fun request => Delivery.callback parse stringify ⟨true, request.msg⟩

/-- `served` has the queues that a server consumes; a message of any other one stays where it is. -/
def step (s : RpcSystem R) : SystemEvent R → RpcSystem R
  | .call i call =>
    { s with
      clients := s.clients.modify i
        (·.rpcCall call.correlationId call.queue call.message call.options) }
  | .timer i handle => { s with clients := s.clients.modify i (·.fire handle) }
  | .deliver i n deliveryTag =>
    match s.clients[i]? >>= (·.sent[n]?) with
    | none => s
    | some m =>
      if served m.queue then
        { s with
          servers := onServers parse stringify s.servers
            (.start (request m deliveryTag) fun _ => .error (.plain "")) }
      else s
  | .handled task outcome =>
    { s with servers := onServers parse stringify s.servers (.resume task fun _ => outcome) }
  | .reply i entry =>
    match s.clients[i]? with
    | none => s
    | some c =>
      match s.servers.log[entry]? >>= replyFor c.replyQueue with
      | none => s
      | some (correlationId, content) =>
        { s with clients := s.clients.modify i (·.handleRPCResponse parse correlationId content) }

def runsHandler : ConsumerOp Json → Bool
  | .own _ => true
  | _ => false

/-- The calls that the client made, in order. -/
def callsOf (i : Nat) (events : List (SystemEvent R)) : List RpcCall :=
  events.filterMap fun
    | .call j call => if j = i then some call else none
    | _ => none

def TimedOut (events : List (SystemEvent R)) (i n : Nat) : Prop :=
  ∃ before after, events = before ++ .timer i n :: after ∧ n < (callsOf i before).length

def replyText (outcome : Except Error R) : List Char :=
  match outcome >>= fun response => stringify response >>= RabbitMQClient.bufferFrom with
  | .ok text => text
  | .error error => RabbitMQClient.errorReply error

inductive Replies (msg : ConsumeMessage String) : Doings Json R → Prop
  | waiting : Replies msg []
  | garbled (error : Error) (hparse : parse msg.content = .error error) :
      Replies msg (Delivery.replied ⟨true, msg⟩ (RabbitMQClient.errorReply error) ++
        [⟨.nack msg.deliveryTag, .ok ()⟩])
  | handled (message : Json) (outcome : Except Error R)
      (hparse : parse msg.content = .ok message)
      (settled : Performed (ConsumerOp Json) (ConsumerOp.Res fun _ => R) Error)
      (hsettled : ConsumerOp.settles settled.1) :
      Replies msg (⟨.own message, outcome⟩ ::
        (Delivery.replied ⟨true, msg⟩ (replyText stringify outcome) ++ [settled]))

variable {parse stringify}

@[simp] theorem replyText_error (error : Error) :
    replyText stringify (.error error) = RabbitMQClient.errorReply error := rfl

theorem replyText_ok (response : R) : replyText stringify (.ok response) =
    match stringify response >>= RabbitMQClient.bufferFrom with
    | .ok text => text
    | .error error => RabbitMQClient.errorReply error := rfl

theorem reports_callback (msg : ConsumeMessage String) :
    (Delivery.callback parse stringify ⟨true, msg⟩).Reports (ConsumerOp.sync fun _ => false) Goes
      fun done _ => Replies parse stringify msg done := by
  simp only [Delivery.callback, RabbitMQClient.setupRPCServer]
  cases hparse : parse msg.content with
  | error e =>
    have hdone : Replies parse stringify msg _ := .garbled e hparse
    simpa [reports_reply, Goes, ConsumerOp.sync] using hdone
  | ok message =>
    simp only [↓reduceIte, Prog.reports_tryCatch, Prog.reports_bind, Prog.reports_perform,
      ConsumerOp.sync, Bool.true_eq_false, IsEmpty.forall_iff, Goes, forall_eq, true_and,
      List.append_assoc, List.cons_append, List.nil_append, Prog.reports_await, forall_const,
      Prog.reports_settle]
    have hhandled : ∀ (outcome : Except Error R)
        (settled : Performed (ConsumerOp Json) (ConsumerOp.Res fun _ => R) Error),
        ConsumerOp.settles settled.1 → Replies parse stringify msg (⟨.own message, outcome⟩ ::
          (Delivery.replied ⟨true, msg⟩ (replyText stringify outcome) ++ [settled])) :=
      fun outcome settled => .handled message outcome hparse settled
    refine ⟨.waiting, ?_⟩
    rintro (error | response)
    · have hdone := hhandled (.error error) ⟨.nack msg.deliveryTag, .ok ()⟩ rfl
      simpa [reports_reply] using hdone
    · cases htext : stringify response >>= RabbitMQClient.bufferFrom with
      | ok text =>
        have hdone := hhandled (.ok response) ⟨.ack msg.deliveryTag, .ok ()⟩ rfl
        simpa [reports_reply, Goes, ConsumerOp.sync, replyText_ok, htext] using hdone
      | error e =>
        cases hreply : msg.repliesTo with
        | none =>
          have hdone := hhandled (.ok response) ⟨.ack msg.deliveryTag, .ok ()⟩ rfl
          simpa [RabbitMQClient.reply, hreply, Delivery.replied, Delivery.replyTo, Goes,
            ConsumerOp.sync] using hdone
        | some queue =>
          have hdone := hhandled (.ok response) ⟨.nack msg.deliveryTag, .ok ()⟩ rfl
          rw [replyText_ok, htext] at hdone
          simpa [RabbitMQClient.reply, hreply, Delivery.replied, Delivery.replyTo, Goes,
            ConsumerOp.sync, htext] using hdone

theorem mem_replied {msg : ConsumeMessage String} {text : List Char}
    {done : Performed (ConsumerOp Json) (ConsumerOp.Res fun _ => R) Error}
    (h : done ∈ Delivery.replied ⟨true, msg⟩ text) :
    ∃ queue, msg.repliesTo = some queue ∧
      done = ⟨.sendToQueue queue text msg.correlationId, .ok ()⟩ := by
  rw [Delivery.replied, Delivery.replyTo, if_pos rfl] at h
  cases hreply : msg.repliesTo with
  | none => simp [hreply] at h
  | some queue => exact ⟨queue, rfl, by simpa [hreply] using h⟩

section Replies

variable {msg : ConsumeMessage String} {done : Doings Json R}

theorem Replies.parsed (h : Replies parse stringify msg done) {message : Json}
    {o : Except Error R} (hown : ⟨.own message, o⟩ ∈ done) : parse msg.content = .ok message := by
  cases h with
  | waiting => cases hown
  | garbled error hparse =>
    rcases List.mem_append.mp hown with hown | hown
    · obtain ⟨queue, -, hop⟩ := mem_replied hown
      cases hop
    · cases List.mem_singleton.mp hown
  | handled message' o' hparse settled hsettled =>
    rcases List.mem_cons.mp hown with hown | hown
    · cases hown
      exact hparse
    · rcases List.mem_append.mp hown with hown | hown
      · obtain ⟨queue, -, hop⟩ := mem_replied hown
        cases hop
      · obtain rfl := List.mem_singleton.mp hown
        cases hsettled

theorem filter_replied (msg : ConsumeMessage String) (text : List Char) :
    ((Delivery.replied (R := R) ⟨true, msg⟩ text).map Sigma.fst).filter runsHandler = [] := by
  simp only [List.filter_eq_nil_iff, List.mem_map, forall_exists_index, and_imp]
  rintro _ done hdone rfl
  obtain ⟨queue, -, rfl⟩ := mem_replied hdone
  simp [runsHandler]

theorem Replies.once (h : Replies parse stringify msg done) {message : Json} {o : Except Error R}
    (hown : ⟨.own message, o⟩ ∈ done) :
    (done.map Sigma.fst).filter runsHandler = [.own message] := by
  have hparsed := h.parsed hown
  cases h with
  | waiting => cases hown
  | garbled error hparse => cases hparsed.symm.trans hparse
  | handled message' o' hparse settled hsettled =>
    obtain rfl := Except.ok.inj (hparsed.symm.trans hparse)
    have hlast : runsHandler settled.1 = false := by
      obtain ⟨op, r⟩ := settled
      cases op <;> first | rfl | cases hsettled
    rw [List.map_cons, List.map_append, List.filter_cons_of_pos rfl, List.filter_append,
      filter_replied]
    simp [hlast]

/-- A reply to a message that parses is its handler's. -/
theorem Replies.sent (h : Replies parse stringify msg done) {message : Json}
    (hparse : parse msg.content = .ok message) {queue : String} {content : List Char}
    {correlationId : Option String} {r : Except Error Unit}
    (hsend : ⟨.sendToQueue queue content correlationId, r⟩ ∈ done) :
    msg.repliesTo = some queue ∧ correlationId = msg.correlationId ∧
      ∃ o, ⟨.own message, o⟩ ∈ done ∧ content = replyText stringify o := by
  cases h with
  | waiting => cases hsend
  | garbled error hparse' => cases hparse.symm.trans hparse'
  | handled message' o hparse' settled hsettled =>
    obtain rfl := Except.ok.inj (hparse.symm.trans hparse')
    rcases List.mem_cons.mp hsend with hsend | hsend
    · cases hsend
    · rcases List.mem_append.mp hsend with hsend | hsend
      · obtain ⟨queue', hreply, hop⟩ := mem_replied hsend
        cases hop
        exact ⟨hreply, rfl, o, List.mem_cons_self, rfl⟩
      · obtain rfl := List.mem_singleton.mp hsend
        cases hsettled

end Replies

/-- A client's books after its calls, some of them timed out; `A` is what a call may have been
answered with. -/
structure Books (calls : List RpcCall) (late : Nat → Prop)
    (A : RpcCall → Except Error Json → Prop) (c : RabbitMQClient) : Prop where
  sent : c.sent = calls.map (·.write c.replyQueue)
  count : c.calls = calls.length
  pending : ∀ id pending, c.pendingRPCs id = some pending →
    ∃ call, calls[pending.call]? = some call ∧ call.correlationId = id
  timers : ∀ t ∈ c.timers, t.handle = t.call ∧ t.call < calls.length
  settled : ∀ n r, (n, r) ∈ c.settled → ∃ call, calls[n]? = some call ∧
    (r = .error (.plain "RPC timeout") ∧ late n ∨ A call r)

namespace Books

variable {calls : List RpcCall} {late : Nat → Prop} {A : RpcCall → Except Error Json → Prop}
  {c : RabbitMQClient}

theorem connect (replyQueue : String) : Books [] late A (.connect replyQueue) where
  sent := rfl
  count := rfl
  pending := by simp [RabbitMQClient.connect]
  timers := by simp [RabbitMQClient.connect]
  settled := by simp [RabbitMQClient.connect]

theorem mono (h : Books calls late A c) {late' : Nat → Prop}
    {A' : RpcCall → Except Error Json → Prop} (hlate : ∀ n, late n → late' n)
    (hA : ∀ call r, A call r → A' call r) : Books calls late' A' c where
  sent := h.sent
  count := h.count
  pending := h.pending
  timers := h.timers
  settled := fun n r hr => by
    obtain ⟨call, hcall, hr⟩ := h.settled n r hr
    exact ⟨call, hcall, hr.imp (And.imp_right (hlate n)) (hA call r)⟩

theorem rpcCall (h : Books calls late A c) (call : RpcCall) :
    Books (calls ++ [call]) late A
      (c.rpcCall call.correlationId call.queue call.message call.options) where
  sent := by
    rw [List.map_append]
    exact congrArg (· ++ [call.write c.replyQueue]) h.sent
  count := by simp [RabbitMQClient.rpcCall, RabbitMQClient.sendToQueue, RabbitMQClient.set,
    RabbitMQClient.setTimeout, h.count]
  pending := by
    intro id pending hpending
    change Function.update c.pendingRPCs call.correlationId (some ⟨c.calls, c.calls⟩) id =
      some pending at hpending
    by_cases hid : id = call.correlationId
    · subst hid
      rw [Function.update_self] at hpending
      obtain rfl := Option.some.inj hpending
      exact ⟨call, by simp [h.count], rfl⟩
    · rw [Function.update_of_ne hid] at hpending
      obtain ⟨call', hcall', hid'⟩ := h.pending id pending hpending
      exact ⟨call', List.getElem?_append_left (List.getElem?_eq_some_iff.mp hcall').1 ▸ hcall', hid'⟩
  timers := by
    intro t ht
    rw [List.length_append, List.length_singleton]
    rcases List.mem_append.mp ht with ht | ht
    · exact ⟨(h.timers t ht).1, Nat.lt_succ_of_lt (h.timers t ht).2⟩
    · obtain rfl := List.mem_singleton.mp ht
      exact ⟨rfl, Nat.lt_succ_of_le h.count.le⟩
  settled := by
    intro n r hr
    obtain ⟨call', hcall', hr⟩ := h.settled n r hr
    exact ⟨call', List.getElem?_append_left (List.getElem?_eq_some_iff.mp hcall').1 ▸ hcall', hr⟩

theorem close (h : Books calls late A c) {handle n : Nat} {id : String} {r : Except Error Json}
    (hr : ∃ call, calls[n]? = some call ∧
      (r = .error (.plain "RPC timeout") ∧ late n ∨ A call r)) :
    Books calls late A (((c.clearTimeout handle).delete id).settle n r) where
  sent := h.sent
  count := h.count
  pending := by
    intro id' pending hpending
    change Function.update c.pendingRPCs id none id' = some pending at hpending
    by_cases hid : id' = id
    · subst hid
      rw [Function.update_self] at hpending
      cases hpending
    · rw [Function.update_of_ne hid] at hpending
      exact h.pending id' pending hpending
  timers := fun t ht => h.timers t (List.mem_filter.mp ht).1
  settled := by
    intro n' r' hr'
    rcases List.mem_append.mp hr' with hr' | hr'
    · exact h.settled n' r' hr'
    · cases List.mem_singleton.mp hr'
      exact hr

theorem fire (h : Books calls late A c) {handle : Nat}
    (hlate : handle < calls.length → late handle) :
    Books calls late A (c.fire handle) := by
  unfold RabbitMQClient.fire
  split
  · exact h
  · next t ht =>
    obtain ⟨hhandle, hlt⟩ := h.timers t (List.mem_of_find?_eq_some ht)
    have hfired : t.handle = handle := by simpa using List.find?_some ht
    have hcall : handle = t.call := hfired.symm.trans hhandle
    subst hcall
    exact h.close ⟨calls[t.call], List.getElem?_eq_getElem hlt, .inl ⟨rfl, hlate hlt⟩⟩

theorem handleRPCResponse (h : Books calls late A c) {correlationId : Option String}
    {content : String}
    (hanswer : ∀ call ∈ calls, correlationId = some call.correlationId →
      A call (RabbitMQClient.answer parse content)) :
    Books calls late A (c.handleRPCResponse parse correlationId content) := by
  unfold RabbitMQClient.handleRPCResponse
  split
  · exact h
  · next id =>
    split
    · exact h
    · next pending hpending =>
      obtain ⟨call, hcall, rfl⟩ := h.pending id pending hpending
      exact h.close ⟨call, hcall, .inr (hanswer call (List.mem_of_getElem? hcall) rfl)⟩

end Books

section Run

variable (parse stringify)

/-- `JSON.parse` gives back a value that `JSON.stringify` wrote. -/
def Reads (j : Json) : Prop := parse (String.ofList j.stringify) = .ok j

def Handled (servers : RpcServers R) (replyQueue : String) (call : RpcCall) (o : Except Error R) :
    Prop :=
  ∃ task deliveryTag, (servers.tasks.map Prod.fst)[task]? =
      some (request (call.write replyQueue) deliveryTag) ∧
    (task, ⟨.own call.message, o⟩) ∈ servers.log

/-- What a handler's outcome settles its call with. -/
def settlement (o : Except Error R) : Except Error Json :=
  RabbitMQClient.answer parse (String.ofList (replyText stringify o))

structure Sound (replyQueues : List String) (events : List (SystemEvent R)) (s : RpcSystem R) :
    Prop where
  queues : s.clients.map (·.replyQueue) = replyQueues
  books : ∀ i c, s.clients[i]? = some c → Books (callsOf i events) (TimedOut events i)
    (fun call r => ∃ o, Handled s.servers c.replyQueue call o ∧ r = settlement parse stringify o) c
  requests : ∀ r ∈ s.servers.tasks.map Prod.fst, ∃ i call replyQueue deliveryTag,
    replyQueues[i]? = some replyQueue ∧ call ∈ callsOf i events ∧ served call.queue ∧
      r = request (call.write replyQueue) deliveryTag
  servers : ∃ turns : List (LoopEvent QueueRequest (Except Error R)),
    s.servers = turns.foldl (onServers parse stringify) (.idle ())

variable {parse stringify} {served}

theorem callsOf_concat (i : Nat) (events : List (SystemEvent R)) (e : SystemEvent R) :
    callsOf i (events ++ [e]) = callsOf i events ++ callsOf i [e] := by
  rw [callsOf, List.filterMap_append]
  rfl

theorem TimedOut.concat {events : List (SystemEvent R)} {i n : Nat} (e : SystemEvent R)
    (h : TimedOut events i n) : TimedOut (events ++ [e]) i n := by
  obtain ⟨before, after, rfl, hlt⟩ := h
  exact ⟨before, after ++ [e], by simp, hlt⟩

theorem Handled.turn {servers : RpcServers R} {replyQueue : String} {call : RpcCall}
    {o : Except Error R} (h : Handled servers replyQueue call o)
    (e : LoopEvent QueueRequest (Except Error R)) :
    Handled (onServers parse stringify servers e) replyQueue call o := by
  obtain ⟨task, deliveryTag, htask, hlog⟩ := h
  refine ⟨task, deliveryTag, ?_, ?_⟩
  · rw [onServers, EventLoop.labels_step,
      List.getElem?_append_left (List.getElem?_eq_some_iff.mp htask).1, htask]
  · obtain ⟨entries, hentries⟩ : ∃ entries,
        (onServers parse stringify servers e).log = servers.log ++ entries :=
      EventLoop.exists_log_step servers e
    rw [hentries]
    exact List.mem_append_left _ hlog

variable {replyQueues : List String} {events : List (SystemEvent R)} {s : RpcSystem R}

theorem Sound.replies (h : Sound parse stringify served replyQueues events s)
    {entry : Nat × Performed (ConsumerOp Json) (ConsumerOp.Res fun _ => R) Error}
    (hentry : entry ∈ s.servers.log) : ∃ i call replyQueue deliveryTag,
      replyQueues[i]? = some replyQueue ∧ call ∈ callsOf i events ∧ served call.queue ∧
      (s.servers.tasks.map Prod.fst)[entry.1]? =
        some (request (call.write replyQueue) deliveryTag) ∧
      Replies parse stringify (request (call.write replyQueue) deliveryTag).msg
        (s.servers.history entry.1) := by
  obtain ⟨turns, hturns⟩ := h.servers
  have hlt : entry.1 < s.servers.tasks.length := by
    have heach : EventLoop.Each (fun _ _ _ => True)
        (turns.foldl (onServers parse stringify) (.idle ())) :=
      (EventLoop.Each.idle ()).foldl (fun _ _ _ => trivial) (fun _ _ _ _ _ _ => trivial) turns
    rw [hturns] at hentry ⊢
    exact heach.log_lt entry hentry
  obtain ⟨⟨r, p⟩, htask⟩ : ∃ t, s.servers.tasks[entry.1]? = some t :=
    ⟨_, List.getElem?_eq_getElem hlt⟩
  obtain ⟨i, call, replyQueue, deliveryTag, hi, hcall, hserved, rfl⟩ :=
    h.requests r (List.mem_map_of_mem (List.mem_of_getElem? htask))
  refine ⟨i, call, replyQueue, deliveryTag, hi, hcall, hserved, ?_, ?_⟩
  · rw [List.getElem?_map, htask, Option.map_some]
  · have hreported : ∀ r p, s.servers.tasks[entry.1]? = some (r, p) →
        Replies parse stringify r.msg (s.servers.history entry.1) := by
      rw [hturns]
      exact fun r p hp => EventLoop.reported (fun _ c op s => goes_openChannel c op s)
        (fun r : QueueRequest => reports_callback r.msg) () turns hp
    exact hreported _ p htask

/-- What a logged operation of a server sends is its handler's answer to a call. -/
theorem Sound.replyFor (h : Sound parse stringify served replyQueues events s)
    (hreads : ∀ i, ∀ call ∈ callsOf i events, Reads parse call.message)
    {entry : Nat × Performed (ConsumerOp Json) (ConsumerOp.Res fun _ => R) Error}
    (hentry : entry ∈ s.servers.log) {queue : String} {correlationId : Option String}
    {content : String} (hreply : RpcSystem.replyFor queue entry = some (correlationId, content)) :
    ∃ i call o, replyQueues[i]? = some queue ∧ call ∈ callsOf i events ∧
      correlationId = some call.correlationId ∧ Handled s.servers queue call o ∧
      content = String.ofList (replyText stringify o) := by
  obtain ⟨i, call, replyQueue, deliveryTag, hi, hcall, -, hlabel, hreplies⟩ := h.replies hentry
  obtain ⟨task, ⟨op, r⟩⟩ := entry
  cases op with
  | sendToQueue replyTo text correlationId' =>
    simp only [RpcSystem.replyFor] at hreply
    split at hreply
    · next hqueue =>
      obtain ⟨rfl, rfl⟩ := Prod.mk.inj (Option.some.inj hreply)
      have hsend := hreplies.sent (hreads i call hcall) (EventLoop.mem_history.mpr hentry)
      obtain ⟨hreplyTo, hid, o, hown, htext⟩ := hsend
      obtain rfl : replyQueue = queue := by
        rw [← hqueue]
        exact Option.some.inj (Option.filter_eq_some_iff.mp hreplyTo).1
      exact ⟨i, call, o, hi, hcall, hid, ⟨task, deliveryTag, hlabel, EventLoop.mem_history.mp hown⟩,
        congrArg String.ofList htext⟩
    · cases hreply
  | own message => cases hreply
  | ack deliveryTag => cases hreply
  | nack deliveryTag => cases hreply

theorem callsOf_mono {i : Nat} {call : RpcCall} (e : SystemEvent R) (h : call ∈ callsOf i events) :
    call ∈ callsOf i (events ++ [e]) := by
  rw [callsOf_concat]
  exact List.mem_append_left _ h

theorem Sound.client (h : Sound parse stringify served replyQueues events s) (e : SystemEvent R)
    (i : Nat) (f : RabbitMQClient → RabbitMQClient) (hf : ∀ c, (f c).replyQueue = c.replyQueue)
    (hothers : ∀ j, j ≠ i → callsOf j [e] = [])
    (hbooks : ∀ c, s.clients[i]? = some c → ∀ A,
      Books (callsOf i events) (TimedOut (events ++ [e]) i) A c →
      (∀ o call, Handled s.servers c.replyQueue call o → A call (settlement parse stringify o)) →
      Books (callsOf i (events ++ [e])) (TimedOut (events ++ [e]) i) A (f c)) :
    Sound parse stringify served replyQueues (events ++ [e])
      { s with clients := s.clients.modify i f } where
  queues := by
    rw [← h.queues]
    apply List.ext_getElem?
    intro j
    simp only [List.getElem?_map, List.getElem?_modify]
    cases s.clients[j]? with
    | none => simp
    | some c => by_cases hj : i = j <;> simp [hj, hf]
  books := by
    intro j c hc
    simp only [List.getElem?_modify] at hc
    by_cases hj : j = i
    · subst hj
      obtain ⟨c₀, hc₀, rfl⟩ : ∃ c₀, s.clients[j]? = some c₀ ∧ f c₀ = c := by
        simpa using hc
      rw [hf]
      exact hbooks c₀ hc₀ _ ((h.books j c₀ hc₀).mono (fun _ => .concat e) fun _ _ => id)
        fun o call ho => ⟨o, ho, rfl⟩
    · rw [callsOf_concat, hothers j hj, List.append_nil]
      exact (h.books j c (by simpa [Ne.symm hj] using hc)).mono (fun _ => .concat e) fun _ _ => id
  requests := by
    intro r hr
    obtain ⟨j, call, replyQueue, deliveryTag, hj, hcall, hr⟩ := h.requests r hr
    exact ⟨j, call, replyQueue, deliveryTag, hj, callsOf_mono e hcall, hr⟩
  servers := h.servers

theorem Sound.turn (h : Sound parse stringify served replyQueues events s) (e : SystemEvent R)
    (he : ∀ j, callsOf j [e] = []) (turn : LoopEvent QueueRequest (Except Error R))
    (hturn : ∀ r ∈ EventLoop.started [turn], ∃ i call replyQueue deliveryTag,
      replyQueues[i]? = some replyQueue ∧ call ∈ callsOf i events ∧ served call.queue ∧
        r = request (call.write replyQueue) deliveryTag) :
    Sound parse stringify served replyQueues (events ++ [e])
      { s with servers := onServers parse stringify s.servers turn } where
  queues := h.queues
  books := by
    intro j c hc
    rw [callsOf_concat, he j, List.append_nil]
    apply (h.books j c hc).mono fun _ => .concat e
    rintro call r ⟨o, ho, hr⟩
    exact ⟨o, ho.turn turn, hr⟩
  requests := by
    intro r hr
    rw [onServers, EventLoop.labels_step] at hr
    obtain ⟨j, call, replyQueue, deliveryTag, hj, hcall, hr⟩ :=
      (List.mem_append.mp hr).elim (h.requests r) (hturn r)
    exact ⟨j, call, replyQueue, deliveryTag, hj, callsOf_mono e hcall, hr⟩
  servers := by
    obtain ⟨turns, hturns⟩ := h.servers
    refine ⟨turns ++ [turn], ?_⟩
    rw [List.foldl_concat, ← hturns]

theorem replyQueue_fire (c : RabbitMQClient) (handle : Nat) :
    (c.fire handle).replyQueue = c.replyQueue := by
  unfold RabbitMQClient.fire
  split <;> rfl

theorem replyQueue_handleRPCResponse (c : RabbitMQClient) (correlationId : Option String)
    (content : String) :
    (c.handleRPCResponse parse correlationId content).replyQueue = c.replyQueue := by
  unfold RabbitMQClient.handleRPCResponse
  split
  · rfl
  · split <;> rfl

theorem Sound.idle (h : Sound parse stringify served replyQueues events s) (e : SystemEvent R)
    (he : ∀ j, callsOf j [e] = []) :
    Sound parse stringify served replyQueues (events ++ [e]) s where
  queues := h.queues
  books := fun j c hc => by
    rw [callsOf_concat, he j, List.append_nil]
    exact (h.books j c hc).mono (fun _ => .concat e) fun _ _ => id
  requests := fun r hr => by
    obtain ⟨j, call, replyQueue, deliveryTag, hj, hcall, hr⟩ := h.requests r hr
    exact ⟨j, call, replyQueue, deliveryTag, hj, callsOf_mono e hcall, hr⟩
  servers := h.servers

theorem Sound.replyQueue (h : Sound parse stringify served replyQueues events s) {i : Nat}
    {c : RabbitMQClient} (hc : s.clients[i]? = some c) : replyQueues[i]? = some c.replyQueue := by
  rw [← h.queues, List.getElem?_map, hc, Option.map_some]

theorem Sound.step (h : Sound parse stringify served replyQueues events s)
    (hreads : ∀ i, ∀ call ∈ callsOf i events, Reads parse call.message)
    (hqueues : replyQueues.Nodup) (e : SystemEvent R)
    (hids : ∀ i, ((callsOf i events).map RpcCall.correlationId).Nodup) :
    Sound parse stringify served replyQueues (events ++ [e])
      (step parse stringify served s e) := by
  cases e with
  | call i call =>
    apply h.client (.call i call) i
    · exact fun c => rfl
    · intro j hj
      simp [callsOf, Ne.symm hj]
    · intro c hc A hbooks ho
      have hcall : callsOf i [SystemEvent.call (R := R) i call] = [call] := by simp [callsOf]
      rw [callsOf_concat, hcall]
      exact hbooks.rpcCall call
  | timer i handle =>
    apply h.client (.timer i handle) i (·.fire handle)
    · exact fun c => replyQueue_fire c handle
    · exact fun j hj => rfl
    · intro c hc A hbooks ho
      have hcall : callsOf i [SystemEvent.timer (R := R) i handle] = [] := rfl
      rw [callsOf_concat, hcall, List.append_nil]
      exact hbooks.fire fun hlt => ⟨events, [], rfl, hlt⟩
  | deliver i n deliveryTag =>
    simp only [RpcSystem.step]
    cases hm : s.clients[i]? >>= (·.sent[n]?) with
    | none => exact h.idle _ fun j => rfl
    | some m =>
      obtain ⟨c, hc, hn⟩ := Option.bind_eq_some_iff.mp hm
      simp only
      split
      · next hserved =>
        refine h.turn _ (fun j => rfl) _ fun r hr => ?_
        obtain rfl := List.mem_singleton.mp hr
        rw [(h.books i c hc).sent, List.getElem?_map] at hn
        obtain ⟨call, hcall, rfl⟩ := Option.map_eq_some_iff.mp hn
        exact ⟨i, call, c.replyQueue, deliveryTag, h.replyQueue hc, List.mem_of_getElem? hcall,
          hserved, rfl⟩
      · exact h.idle _ fun j => rfl
  | handled task outcome =>
    exact h.turn (.handled task outcome) (fun j => rfl) _ (by simp [EventLoop.started])
  | reply i entry =>
    simp only [RpcSystem.step]
    cases hc : s.clients[i]? with
    | none => exact h.idle _ fun j => rfl
    | some c =>
      simp only
      cases hreply : s.servers.log[entry]? >>= RpcSystem.replyFor c.replyQueue with
      | none => exact h.idle _ fun j => rfl
      | some reply =>
        obtain ⟨correlationId, content⟩ := reply
        obtain ⟨logged, hlogged, hreply⟩ := Option.bind_eq_some_iff.mp hreply
        obtain ⟨i', call, o, hi', hcall, hid, ho, hcontent⟩ :=
          h.replyFor hreads (List.mem_of_getElem? hlogged) hreply
        -- The reply queue is this client's alone, and the id this call's.
        obtain rfl : i = i' := (List.getElem?_inj
          (List.getElem?_eq_some_iff.mp (h.replyQueue hc)).1 hqueues).mp
            ((h.replyQueue hc).trans hi'.symm)
        apply h.client (.reply i entry) i (·.handleRPCResponse parse correlationId content)
        · exact fun c => replyQueue_handleRPCResponse c correlationId content
        · exact fun j hj => rfl
        · intro c' hc' A hbooks hA
          obtain rfl : c = c' := Option.some.inj (hc.symm.trans hc')
          have hnone : callsOf i [SystemEvent.reply (R := R) i entry] = [] := rfl
          rw [callsOf_concat, hnone, List.append_nil]
          apply hbooks.handleRPCResponse
          intro call' hcall' hid'
          obtain rfl : call = call' := List.inj_on_of_nodup_map (hids i) hcall hcall'
            (Option.some.inj (hid.symm.trans hid'))
          rw [hcontent]
          exact hA o call ho

theorem Sound.connect : Sound parse stringify served replyQueues [] (connect replyQueues) where
  queues := by simp [RpcSystem.connect, RabbitMQClient.connect, Function.comp_def]
  books := by
    intro i c hc
    rw [RpcSystem.connect, List.getElem?_map] at hc
    obtain ⟨replyQueue, -, rfl⟩ := Option.map_eq_some_iff.mp hc
    exact .connect replyQueue
  requests := by simp [RpcSystem.connect, EventLoop.idle]
  servers := ⟨[], rfl⟩

theorem Sound.run (hreads : ∀ i, ∀ call ∈ callsOf i events, Reads parse call.message)
    (hqueues : replyQueues.Nodup)
    (hids : ∀ i, ((callsOf i events).map RpcCall.correlationId).Nodup) :
    Sound parse stringify served replyQueues events
      (events.foldl (RpcSystem.step parse stringify served) (RpcSystem.connect replyQueues)) := by
  induction events using List.reverseRecOn with
  | nil => exact .connect
  | append_singleton events e ih =>
    have hids' : ∀ i, ((callsOf i events).map RpcCall.correlationId).Nodup := by
      intro i
      have hi := hids i
      rw [callsOf_concat, List.map_append] at hi
      exact (List.nodup_append.mp hi).1
    have hreads' : ∀ i, ∀ call ∈ callsOf i events, Reads parse call.message :=
      fun i call hcall => hreads i call (callsOf_mono e hcall)
    rw [List.foldl_concat]
    exact (ih hreads' hids').step hreads' hqueues e hids'

/-- What the parties agree on. -/
structure Agreement (parse : String → Except Error Json)
    (stringify : R → Except Error (Option (List Char))) (served : String → Bool)
    (replyQueues : List String) (events : List (SystemEvent R)) (s : RpcSystem R) : Prop where
  settled : ∀ i c n r, s.clients[i]? = some c → (n, r) ∈ c.settled →
    ∃ call, (callsOf i events)[n]? = some call ∧
      (r = .error (.plain "RPC timeout") ∧ TimedOut events i n ∨
        served call.queue ∧ ∃ o, Handled s.servers c.replyQueue call o ∧
          r = settlement parse stringify o)
  handled : ∀ task message o, (task, ⟨.own message, o⟩) ∈ s.servers.log →
    ((s.servers.history task).map Sigma.fst).filter runsHandler = [.own message] ∧
      ∃ i call replyQueue, replyQueues[i]? = some replyQueue ∧ call ∈ callsOf i events ∧
        served call.queue ∧ call.message = message ∧ Handled s.servers replyQueue call o

/-- Whatever is lost, late, repeated or out of order: a call is settled by its own timer, or with what
the handler of its queue made of its own message; and a handler runs once for each delivery of a
message that a client has sent. -/
theorem agreement_run (hreads : ∀ i, ∀ call ∈ callsOf i events, Reads parse call.message)
    (hqueues : replyQueues.Nodup)
    (hids : ∀ i, ((callsOf i events).map RpcCall.correlationId).Nodup) :
    Agreement parse stringify served replyQueues events
      (events.foldl (RpcSystem.step parse stringify served) (RpcSystem.connect replyQueues)) := by
  have h : Sound parse stringify served replyQueues events _ := .run hreads hqueues hids
  constructor
  case settled =>
    intro i c n r hc hr
    obtain ⟨call, hcall, hr | ⟨o, ho, hr⟩⟩ := (h.books i c hc).settled n r hr
    · exact ⟨call, hcall, .inl hr⟩
    · refine ⟨call, hcall, .inr ⟨?_, o, ho, hr⟩⟩
      obtain ⟨task, deliveryTag, htask, -⟩ := ho
      obtain ⟨j, call', replyQueue, deliveryTag', -, -, hserved, hrequest⟩ :=
        h.requests _ (List.mem_of_getElem? htask)
      have hqueue : call.queue = call'.queue := congrArg QueueRequest.queue hrequest
      rwa [hqueue]
  case handled =>
    intro task message o hlog
    obtain ⟨i, call, replyQueue, deliveryTag, hi, hcall, hserved, hlabel, hreplies⟩ :=
      h.replies hlog
    have hown := EventLoop.mem_history.mpr hlog
    have hmessage : call.message = message :=
      Except.ok.inj ((hreads i call hcall).symm.trans (hreplies.parsed hown))
    exact ⟨hreplies.once hown, i, call, replyQueue, hi, hcall, hserved, hmessage,
      task, deliveryTag, hlabel, hmessage ▸ hlog⟩

end Run

section Example

private def readSent (content : String) : Except Error Json :=
  if content = "null" then .ok .null
  else if content = "true" then .ok (.bool true)
  else .error (.plain "Unexpected token in JSON")

private def stringifySent (response : Json) : Except Error (Option (List Char)) :=
  .ok (some response.stringify)

/-- Two requests of one client, answered in the other order, and one of them twice. -/
private def overtaking : List (SystemEvent Json) :=
  [.call 0 ⟨"a", "product.get.rpc", .bool true, ⟨some 10000, none⟩⟩,
    .call 0 ⟨"b", "category.list.rpc", .null, ⟨some 10000, none⟩⟩,
    .deliver 0 1 1, .deliver 0 0 2, .handled 0 (.ok (.bool true)), .handled 1 (.ok .null),
    .reply 0 1, .timer 0 0, .reply 0 1, .reply 0 4]

private theorem callsOf_overtaking (i : Nat) : callsOf i overtaking =
    if i = 0 then [⟨"a", "product.get.rpc", .bool true, ⟨some 10000, none⟩⟩,
      ⟨"b", "category.list.rpc", .null, ⟨some 10000, none⟩⟩] else [] := by
  cases i with
  | zero => rfl
  | succ i => simp [callsOf, overtaking]

theorem agreement_overtaking : Agreement readSent stringifySent (fun _ => true) ["amq.gen"]
    overtaking (overtaking.foldl (RpcSystem.step readSent stringifySent fun _ => true)
      (RpcSystem.connect ["amq.gen"])) :=
  agreement_run
    (by
      intro i call hcall
      rw [callsOf_overtaking] at hcall
      split at hcall
      · rcases List.mem_pair.mp hcall with rfl | rfl <;> rfl
      · cases hcall)
    (by decide)
    (by
      intro i
      rw [callsOf_overtaking]
      split <;> decide)

end Example

end RpcSystem

end Ecommerce
