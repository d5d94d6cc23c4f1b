import Ecommerce.Shared.RabbitMQClient
import Mathlib.Data.List.Induction
import Mathlib.Data.List.Nodup

namespace Ecommerce

namespace ClientEvent

def callId : ClientEvent → Option String
  | .rpcCall correlationId _ _ _ => some correlationId
  | _ => none

/-- The correlation ids of a run's calls, in the order they were made. -/
def callIds (events : List ClientEvent) : List String := events.filterMap callId

def Outstanding (events : List ClientEvent) (call : Nat) (id : String) : Prop :=
  ∃ before queue message options after,
    events = before ++ .rpcCall id queue message options :: after ∧
    (callIds before).length = call ∧ .timer call ∉ after ∧
    ∀ content, .message (some id) content ∉ after

def Answered (events : List ClientEvent) (id content : String) : Prop :=
  ∃ before after, events = before ++ .message (some id) content :: after ∧ id ∈ callIds before

variable {events : List ClientEvent} {e : ClientEvent} {call : Nat} {id content : String}

theorem callIds_concat : callIds (events ++ [e]) = callIds events ++ e.callId.toList := by
  cases e <;> simp [callIds, callId]

theorem outstanding_concat : Outstanding (events ++ [e]) call id ↔
    Outstanding events call id ∧ e ≠ .timer call ∧ (∀ content, e ≠ .message (some id) content) ∨
      (callIds events).length = call ∧ e.callId = some id := by
  constructor
  · rintro ⟨before, queue, message, options, after, hevents, hcall, htimer, hmessage⟩
    rcases List.eq_nil_or_concat after with rfl | ⟨after, e', rfl⟩
    · obtain ⟨rfl, he⟩ := List.append_inj' hevents rfl
      rw [(List.cons.inj he).1]
      exact .inr ⟨hcall, rfl⟩
    · rw [List.concat_eq_append, ← List.cons_append, ← List.append_assoc] at hevents
      obtain ⟨rfl, he⟩ := List.append_inj' hevents rfl
      obtain rfl := (List.cons.inj he).1
      simp only [List.concat_eq_append, List.mem_append, List.mem_singleton, not_or]
        at htimer hmessage
      exact .inl ⟨⟨before, queue, message, options, after, rfl, hcall, htimer.1,
        fun content => (hmessage content).1⟩, Ne.symm htimer.2,
        fun content => Ne.symm (hmessage content).2⟩
  · rintro (⟨⟨before, queue, message, options, after, rfl, hcall, htimer, hmessage⟩, he, he'⟩ |
      ⟨hcall, he⟩)
    · refine ⟨before, queue, message, options, after ++ [e], by simp, hcall, ?_, fun content => ?_⟩
      · simp [htimer, he.symm]
      · simp [hmessage content, (he' content).symm]
    · cases e with
      | rpcCall id' queue message options =>
        obtain rfl : id' = id := by simpa [callId] using he
        exact ⟨events, queue, message, options, [], rfl, hcall, by simp, by simp⟩
      | timer handle => simp [callId] at he
      | message id' content => simp [callId] at he

theorem Outstanding.getElem? (h : Outstanding events call id) :
    (callIds events)[call]? = some id := by
  obtain ⟨before, queue, message, options, after, rfl, rfl, -, -⟩ := h
  simp [callIds, callId]

theorem Outstanding.lt (h : Outstanding events call id) : call < (callIds events).length :=
  (List.getElem?_eq_some_iff.mp h.getElem?).1

theorem Outstanding.mem (h : Outstanding events call id) : id ∈ callIds events :=
  List.mem_of_getElem? h.getElem?

theorem Outstanding.id_eq {id' : String} (h : Outstanding events call id)
    (h' : Outstanding events call id') : id = id' :=
  Option.some.inj (h.getElem?.symm.trans h'.getElem?)

theorem Outstanding.call_eq {call' : Nat} (hids : (callIds events).Nodup)
    (h : Outstanding events call id) (h' : Outstanding events call' id) : call = call' :=
  (List.getElem?_inj h.lt hids).mp (h.getElem?.trans h'.getElem?.symm)

theorem getElem?_callIds_concat (h : (callIds events)[call]? = some id) :
    (callIds (events ++ [e]))[call]? = some id := by
  rw [callIds_concat, List.getElem?_append_left (List.getElem?_eq_some_iff.mp h).1, h]

theorem Answered.concat (h : Answered events id content) : Answered (events ++ [e]) id content := by
  obtain ⟨before, after, rfl, hid⟩ := h
  exact ⟨before, after ++ [e], by simp, hid⟩

end ClientEvent

namespace RabbitMQClient

open ClientEvent

variable (parse : String → Except Error Json)

def Refuses (content : String) : Prop :=
  (∃ e, parse content = .error e) ∨ parse content = .ok .null ∨
    ∃ response error, parse content = .ok response ∧ response.get "error" = .ok (some error) ∧
      error.truthy

def Settles (events : List ClientEvent) (call : Nat) (r : Except Error Json) : Prop :=
  ∃ id, (callIds events)[call]? = some id ∧
    (r = .error (.plain "RPC timeout") ∧ .timer call ∈ events ∨
      ∃ content, r = answer parse content ∧ Answered events id content)

variable {parse} {events : List ClientEvent} {e : ClientEvent} {call : Nat} {id content : String}
  {r : Except Error Json} {c : RabbitMQClient}

theorem answer_ok {response : Json} (h : answer parse content = .ok response) :
    parse content = .ok response := by
  unfold answer at h
  cases hparse : parse content with
  | error e => simp [hparse, bind, Except.bind] at h
  | ok j =>
    cases hget : j.get "error" with
    | error e => simp [hparse, hget, bind, Except.bind, Except.mapError] at h
    | ok error =>
      simp only [hparse, hget, bind, Except.bind, Except.mapError] at h
      split at h
      · split at h <;> simp [throw, throwThe, MonadExceptOf.throw] at h
      · simpa [pure, Except.pure] using h

theorem get_error {j : Json} {key e : String} (h : j.get key = .error e) : j = .null := by
  cases j <;> simp_all [Json.get]

theorem answer_error {e : Error} (h : answer parse content = .error e) :
    Refuses parse content := by
  unfold answer at h
  cases hparse : parse content with
  | error e => exact .inl ⟨e, hparse⟩
  | ok j =>
    cases hget : j.get "error" with
    | error e => exact .inr (.inl (hparse.trans (congrArg Except.ok (get_error hget))))
    | ok error =>
      simp only [hparse, hget, bind, Except.bind, Except.mapError] at h
      split at h
      · next htruthy =>
        cases error with
        | none => simp [Json.truthy] at htruthy
        | some error => exact .inr (.inr ⟨j, error, hparse, hget, htruthy⟩)
      · simp [pure, Except.pure] at h

theorem Settles.concat (h : Settles parse events call r) :
    Settles parse (events ++ [e]) call r := by
  obtain ⟨id, hid, h⟩ := h
  refine ⟨id, getElem?_callIds_concat hid, ?_⟩
  rcases h with ⟨hr, htimer⟩ | ⟨content, hr, h⟩
  · exact .inl ⟨hr, List.mem_append_left _ htimer⟩
  · exact .inr ⟨content, hr, h.concat⟩

structure Tracks (parse : String → Except Error Json) (events : List ClientEvent)
    (c : RabbitMQClient) : Prop where
  calls : c.calls = (callIds events).length
  pending : ∀ id pending, c.pendingRPCs id = some pending ↔
    pending.timeout = pending.call ∧ Outstanding events pending.call id
  timers : ∀ t ∈ c.timers, t.handle = t.call ∧ Outstanding events t.call t.correlationId
  armed : ∀ call id, Outstanding events call id → call ∈ c.timers.map Timer.handle
  handles : (c.timers.map Timer.handle).Nodup
  once : (c.settled.map Prod.fst).Nodup
  settled : ∀ call, call ∈ c.settled.map Prod.fst ↔
    call < (callIds events).length ∧ ∀ id, ¬ Outstanding events call id
  cause : ∀ call r, (call, r) ∈ c.settled → Settles parse events call r

namespace Tracks

theorem connect (replyQueue : String) : Tracks parse [] (connect replyQueue) where
  calls := rfl
  pending := by simp [RabbitMQClient.connect, Outstanding]
  timers := by simp [RabbitMQClient.connect]
  armed := by simp [Outstanding]
  handles := List.nodup_nil
  once := List.nodup_nil
  settled := by simp [RabbitMQClient.connect, callIds]
  cause := by simp [RabbitMQClient.connect]

theorem idle (h : Tracks parse events c) (hcall : e.callId = none)
    (hopen : ∀ call id, Outstanding (events ++ [e]) call id ↔ Outstanding events call id) :
    Tracks parse (events ++ [e]) c := by
  have hids : callIds (events ++ [e]) = callIds events := by simp [callIds_concat, hcall]
  exact
    { calls := by rw [hids]; exact h.calls
      pending := by simpa only [hopen] using h.pending
      timers := by simpa only [hopen] using h.timers
      armed := by simpa only [hopen] using h.armed
      handles := h.handles
      once := h.once
      settled := by simpa only [hids, hopen] using h.settled
      cause := fun call r hr => (h.cause call r hr).concat }

theorem close (h : Tracks parse events c) (hids : (callIds events).Nodup) (hcall : e.callId = none)
    (hout : Outstanding events call id)
    (hopen : ∀ call' id', Outstanding (events ++ [e]) call' id' ↔
      Outstanding events call' id' ∧ call' ≠ call)
    (hcause : Settles parse (events ++ [e]) call r) :
    Tracks parse (events ++ [e]) (((c.clearTimeout call).delete id).settle call r) := by
  have hlist : callIds (events ++ [e]) = callIds events := by simp [callIds_concat, hcall]
  constructor
  case calls =>
    rw [hlist]
    exact h.calls
  case pending =>
    intro id' pending
    by_cases hid : id' = id
    · subst hid
      simp only [settle, delete, clearTimeout, Function.update_self, hopen]
      exact ⟨fun h => by simp at h, fun ⟨_, hout', hne⟩ => absurd (hout'.call_eq hids hout) hne⟩
    · simp only [settle, delete, clearTimeout, Function.update_of_ne hid, hopen, h.pending]
      constructor
      · rintro ⟨htimeout, hout'⟩
        refine ⟨htimeout, hout', fun hcalls => hid ?_⟩
        rw [hcalls] at hout'
        exact hout'.id_eq hout
      · rintro ⟨htimeout, hout', -⟩
        exact ⟨htimeout, hout'⟩
  case timers =>
    intro t ht
    simp only [settle, delete, clearTimeout, ne_eq, List.mem_filter, decide_eq_true_eq] at ht
    obtain ⟨hhandle, hout'⟩ := h.timers t ht.1
    exact ⟨hhandle, (hopen _ _).mpr ⟨hout', hhandle ▸ ht.2⟩⟩
  case armed =>
    intro call' id' hout'
    obtain ⟨hout', hne⟩ := (hopen _ _).mp hout'
    obtain ⟨t, ht, hhandle⟩ := List.mem_map.mp (h.armed call' id' hout')
    refine List.mem_map.mpr ⟨t, ?_, hhandle⟩
    simp only [settle, delete, clearTimeout, ne_eq, List.mem_filter, decide_eq_true_eq]
    exact ⟨ht, hhandle ▸ hne⟩
  case handles =>
    exact h.handles.sublist (List.filter_sublist.map Timer.handle)
  case once =>
    have hfresh : call ∉ c.settled.map Prod.fst := fun hmem =>
      ((h.settled call).mp hmem).2 id hout
    simp only [settle, List.map_append, List.map_cons, List.map_nil, delete, clearTimeout]
    rw [← List.concat_eq_append]
    exact h.once.concat hfresh
  case settled =>
    intro call'
    simp only [settle, delete, clearTimeout, List.map_append, List.map_cons, List.map_nil,
      List.mem_append, List.mem_singleton, h.settled, hlist, hopen, not_and, not_not]
    constructor
    · rintro (⟨hlt, hclosed⟩ | rfl)
      · exact ⟨hlt, fun id' hout' => absurd hout' (hclosed id')⟩
      · exact ⟨hout.lt, fun _ _ => rfl⟩
    · rintro ⟨hlt, hclosed⟩
      by_cases hne : call' = call
      · exact .inr hne
      · exact .inl ⟨hlt, fun id' hout' => hne (hclosed id' hout')⟩
  case cause =>
    intro call' r' hmem
    rcases List.mem_append.mp hmem with hmem | hmem
    · exact (h.cause call' r' hmem).concat
    · obtain ⟨rfl, rfl⟩ := Prod.mk.inj (List.mem_singleton.mp hmem)
      exact hcause

theorem rpcCall (h : Tracks parse events c) {queue : String} {message : Json}
    {options : RPCOptions} (hfresh : id ∉ callIds events) :
    Tracks parse (events ++ [.rpcCall id queue message options])
      (c.rpcCall id queue message options) := by
  have hopen : ∀ call' id', Outstanding (events ++ [.rpcCall id queue message options]) call' id' ↔
      Outstanding events call' id' ∨ c.calls = call' ∧ id = id' := by
    intro call' id'
    simp [outstanding_concat, callId, h.calls]
  have hlist : callIds (events ++ [.rpcCall id queue message options]) = callIds events ++ [id] :=
    callIds_concat
  have hnone : ∀ call', ¬ Outstanding events call' id := fun call' hout => hfresh hout.mem
  have hnumber : ∀ id', ¬ Outstanding events c.calls id' := fun id' hout =>
    absurd hout.lt (h.calls ▸ lt_irrefl _)
  constructor
  case calls =>
    rw [hlist, List.length_append, ← h.calls]
    rfl
  case pending =>
    intro id' pending
    simp only [RabbitMQClient.rpcCall, sendToQueue, set, setTimeout, hopen]
    by_cases hid : id' = id
    · subst hid
      obtain ⟨call', timeout⟩ := pending
      simp only [Function.update_self, Option.some.injEq, PendingRPC.mk.injEq, and_true]
      constructor
      · rintro ⟨rfl, rfl⟩
        exact ⟨rfl, .inr rfl⟩
      · rintro ⟨rfl, hout | rfl⟩
        · exact absurd hout (hnone _)
        · exact ⟨rfl, rfl⟩
    · simp [Function.update_of_ne hid, h.pending, Ne.symm hid]
  case timers =>
    intro t ht
    rcases List.mem_append.mp ht with ht | ht
    · obtain ⟨hhandle, hout⟩ := h.timers t ht
      exact ⟨hhandle, (hopen _ _).mpr (.inl hout)⟩
    · obtain rfl := List.mem_singleton.mp ht
      exact ⟨rfl, (hopen _ _).mpr (.inr ⟨rfl, rfl⟩)⟩
  case armed =>
    intro call' id' hout
    simp only [RabbitMQClient.rpcCall, sendToQueue, set, setTimeout, List.map_append,
      List.map_cons, List.map_nil, List.mem_append, List.mem_singleton]
    rcases (hopen call' id').mp hout with hout | ⟨rfl, -⟩
    · exact .inl (h.armed call' id' hout)
    · exact .inr rfl
  case handles =>
    simp only [RabbitMQClient.rpcCall, sendToQueue, set, setTimeout, List.map_append,
      List.map_cons, List.map_nil]
    rw [← List.concat_eq_append]
    refine h.handles.concat fun hmem => ?_
    obtain ⟨t, ht, hcalls⟩ := List.mem_map.mp hmem
    obtain ⟨hhandle, hout⟩ := h.timers t ht
    rw [← hhandle, hcalls] at hout
    exact hnumber _ hout
  case once => exact h.once
  case settled =>
    intro call'
    have hsame : (c.rpcCall id queue message options).settled = c.settled := rfl
    rw [hsame, h.settled, hlist, List.length_append, List.length_singleton, ← h.calls]
    simp only [hopen, not_or, not_and]
    constructor
    · rintro ⟨hlt, hclosed⟩
      exact ⟨by omega, fun id' => ⟨hclosed id', fun heq => by omega⟩⟩
    · rintro ⟨hlt, hclosed⟩
      have hne : c.calls ≠ call' := fun heq => (hclosed id).2 heq rfl
      exact ⟨by omega, fun id' => (hclosed id').1⟩
  case cause => exact fun call' r' hmem => (h.cause call' r' hmem).concat

theorem fire (h : Tracks parse events c) (hids : (callIds events).Nodup) {handle : Nat}
    (harmed : handle ∈ c.timers.map Timer.handle) :
    Tracks parse (events ++ [.timer handle]) (c.fire handle) := by
  cases hfind : c.timers.find? fun t => t.handle = handle with
  | none =>
    obtain ⟨t, ht, hhandle⟩ := List.mem_map.mp harmed
    exact absurd hhandle (by simpa using List.find?_eq_none.mp hfind t ht)
  | some t =>
    obtain ⟨hhandle, hout⟩ := h.timers t (List.mem_of_find?_eq_some hfind)
    have hfound : t.handle = handle := by simpa using List.find?_some hfind
    rw [RabbitMQClient.fire, hfind, ← hfound, hhandle]
    refine h.close hids rfl hout (fun call' id' => ?_)
      ⟨t.correlationId, getElem?_callIds_concat hout.getElem?, .inl ⟨rfl, by simp⟩⟩
    simp [outstanding_concat, callId, eq_comm]

theorem handleRPCResponse (h : Tracks parse events c) (hids : (callIds events).Nodup)
    {correlationId : Option String} :
    Tracks parse (events ++ [.message correlationId content])
      (c.handleRPCResponse parse correlationId content) := by
  cases correlationId with
  | none => exact h.idle rfl fun call' id' => by simp [outstanding_concat, callId]
  | some id =>
    cases hpending : c.pendingRPCs id with
    | none =>
      have hnone : ∀ call', ¬ Outstanding events call' id := fun call' hout => by
        simp [(h.pending id ⟨call', call'⟩).mpr ⟨rfl, hout⟩] at hpending
      simp only [RabbitMQClient.handleRPCResponse, hpending]
      apply h.idle rfl
      intro call' id'
      simp only [outstanding_concat, callId, reduceCtorEq, and_false, or_false, ne_eq,
        not_false_eq_true, true_and, ClientEvent.message.injEq, Option.some.injEq,
        and_iff_left_iff_imp]
      rintro hout _ ⟨rfl, -⟩
      exact hnone call' hout
    | some pending =>
      obtain ⟨htimeout, hout⟩ := (h.pending id pending).mp hpending
      simp only [RabbitMQClient.handleRPCResponse, hpending, htimeout]
      refine h.close hids rfl hout (fun call' id' => ?_)
        ⟨id, getElem?_callIds_concat hout.getElem?,
          .inr ⟨content, rfl, events, [], rfl, hout.mem⟩⟩
      simp only [outstanding_concat, callId, reduceCtorEq, and_false, or_false, ne_eq,
        not_false_eq_true, true_and, ClientEvent.message.injEq, Option.some.injEq]
      refine and_congr_right fun hout' => ⟨?_, ?_⟩
      · rintro hne rfl
        exact hne content ⟨hout.id_eq hout', rfl⟩
      · rintro hne _ ⟨rfl, -⟩
        exact hne (hout'.call_eq hids hout)

end Tracks

/-- A timer that is not armed, because it has fired or was cleared, does not fire. -/
def Fires (c : RabbitMQClient) : ClientEvent → Prop
  | .timer handle => handle ∈ c.timers.map Timer.handle
  | _ => True

theorem Tracks.step (h : Tracks parse events c) (hids : (callIds (events ++ [e])).Nodup)
    (hfires : c.Fires e) : Tracks parse (events ++ [e]) (c.step parse e) := by
  have hids' : (callIds events).Nodup := by
    rw [callIds_concat] at hids
    exact (List.nodup_append.mp hids).1
  cases e with
  | rpcCall id queue message options =>
    apply h.rpcCall
    intro hmem
    rw [callIds_concat] at hids
    exact (List.nodup_append.mp hids).2.2 id hmem id (by simp [callId]) rfl
  | timer handle => exact h.fire hids' hfires
  | message correlationId content => exact h.handleRPCResponse hids'

theorem Tracks.run {replyQueue : String} (hids : (callIds events).Nodup)
    (hfires : Runs.Along (RabbitMQClient.step parse) Fires (.connect replyQueue) events) :
    Tracks parse events (events.foldl (RabbitMQClient.step parse) (.connect replyQueue)) := by
  induction events using List.reverseRecOn with
  | nil => exact .connect replyQueue
  | append_singleton events e ih =>
    obtain ⟨halong, hlast⟩ := Runs.along_concat.mp hfires
    have hids' : (callIds events).Nodup := by
      rw [callIds_concat] at hids
      exact (List.nodup_append.mp hids).1
    rw [List.foldl_concat]
    exact (ih hids' halong).step hids hlast

/-- What a client guarantees of its calls after a run. -/
structure Protocol (parse : String → Except Error Json) (events : List ClientEvent)
    (c : RabbitMQClient) : Prop where
  pending : ∀ id call,
    (∃ timeout, c.pendingRPCs id = some ⟨call, timeout⟩) ↔ Outstanding events call id
  armed : ∀ id pending, c.pendingRPCs id = some pending →
    ∃ t ∈ c.timers, t.handle = pending.timeout ∧ t.call = pending.call ∧ t.correlationId = id
  timers : ∀ t ∈ c.timers, c.pendingRPCs t.correlationId = some ⟨t.call, t.handle⟩
  single : (c.timers.map Timer.call).Nodup
  once : (c.settled.map Prod.fst).Nodup
  settled : ∀ call, call ∈ c.settled.map Prod.fst ↔
    call < (callIds events).length ∧ ∀ id, ¬ Outstanding events call id
  resolved : ∀ call response, (call, .ok response) ∈ c.settled →
    ∃ id content, (callIds events)[call]? = some id ∧ Answered events id content ∧
      parse content = .ok response
  rejected : ∀ call e, (call, .error e) ∈ c.settled →
    ∃ id, (callIds events)[call]? = some id ∧
      (.timer call ∈ events ∨ ∃ content, Answered events id content ∧ Refuses parse content)
  stray : ∀ correlationId content,
    (∀ id, correlationId = some id → ∀ call, ¬ Outstanding events call id) →
      c.handleRPCResponse parse correlationId content = c

theorem protocol_run {replyQueue : String} (hids : (callIds events).Nodup)
    (hfires : Runs.Along (step parse) Fires (.connect replyQueue) events) :
    Protocol parse events (events.foldl (RabbitMQClient.step parse) (.connect replyQueue)) := by
  have h := Tracks.run hids hfires
  constructor
  case pending =>
    refine fun id call => ⟨fun ⟨_, hpending⟩ => ((h.pending id _).mp hpending).2, fun hout => ?_⟩
    exact ⟨call, (h.pending id ⟨call, call⟩).mpr ⟨rfl, hout⟩⟩
  case armed =>
    intro id pending hpending
    obtain ⟨htimeout, hout⟩ := (h.pending id pending).mp hpending
    obtain ⟨t, ht, hhandle⟩ := List.mem_map.mp (h.armed pending.call id hout)
    obtain ⟨hcall, hout'⟩ := h.timers t ht
    have hsame : t.call = pending.call := hcall ▸ hhandle
    exact ⟨t, ht, hhandle.trans htimeout.symm, hsame, (hsame ▸ hout').id_eq hout⟩
  case timers =>
    intro t ht
    obtain ⟨hhandle, hout⟩ := h.timers t ht
    exact (h.pending _ _).mpr ⟨hhandle, hout⟩
  case single =>
    have hsame : ∀ t ∈ (events.foldl (RabbitMQClient.step parse) (.connect replyQueue)).timers,
        t.call = t.handle := fun t ht => (h.timers t ht).1.symm
    rw [List.map_congr_left hsame]
    exact h.handles
  case once => exact h.once
  case settled => exact h.settled
  case resolved =>
    intro call response hmem
    obtain ⟨id, hid, ⟨hr, -⟩ | ⟨content, hr, hanswered⟩⟩ := h.cause call _ hmem
    · cases hr
    · exact ⟨id, content, hid, hanswered, answer_ok hr.symm⟩
  case rejected =>
    intro call e hmem
    obtain ⟨id, hid, ⟨-, htimer⟩ | ⟨content, hr, hanswered⟩⟩ := h.cause call _ hmem
    · exact ⟨id, hid, .inl htimer⟩
    · exact ⟨id, hid, .inr ⟨content, hanswered, answer_error hr.symm⟩⟩
  case stray =>
    intro correlationId content hclosed
    cases correlationId with
    | none => rfl
    | some id =>
      have hnone : (events.foldl (RabbitMQClient.step parse)
          (.connect replyQueue)).pendingRPCs id = none := by
        apply Option.eq_none_iff_forall_ne_some.mpr
        intro pending hpending
        exact hclosed id rfl pending.call ((h.pending id pending).mp hpending).2
      simp only [RabbitMQClient.handleRPCResponse, hnone]

section Example

/-- A JSON reader for the texts below. -/
private def readJson : String → Except Error Json
  | "true" => .ok (.bool true)
  | "null" => .ok .null
  | text => .error (.plain text)

/-- The second call is answered before the first, whose reply comes after its timer. -/
private def crossing : List ClientEvent :=
  [.rpcCall "a" "product.create.rpc" .null ⟨some 10000, none⟩,
    .rpcCall "b" "category.delete.rpc" .null ⟨none, none⟩,
    .message (some "b") "true", .timer 0, .message (some "a") "true", .message none "null"]

theorem protocol_crossing : Protocol readJson crossing
    (crossing.foldl (RabbitMQClient.step readJson) (.connect "amq.gen")) :=
  protocol_run (by decide)
    ⟨trivial, trivial, trivial, by unfold Fires; decide, trivial, trivial, trivial⟩

end Example

end RabbitMQClient

end Ecommerce
