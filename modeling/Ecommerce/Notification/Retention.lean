import Ecommerce.Lib.Runs
import Ecommerce.Notification.Service

/-! What becomes of the notification events: the broker's queues, the consumer's channel, and the
attempts to handle a message. -/

namespace Ecommerce

open NotificationService

abbrev Queued := Nat × NotificationEvent

structure Broker where
  published : Nat
  ready : List Queued
  deadLettered : List Nat
  discarded : List Nat

namespace Broker

def nack (queue : String) (id : Nat) (b : Broker) : Broker :=
  match (setupQueues.lookup queue).bind QueueOptions.deadLetterExchange with
  | none => { b with discarded := b.discarded ++ [id] }
  | some _ => { b with deadLettered := b.deadLettered ++ [id] }

/-- `c` is what the SMTP server answers; `addErrorHelper` never rejects. -/
def handle (a : Queued) (c : Except Error Unit) :
    Handler (ConsumerOp NotificationOp) (ConsumerOp.Res fun _ => Unit) Error Broker
  | .own (.sendMail _), b => (c, b)
  | .own (.addError _ _), b => (.ok (), b)
  | .own (.emitToAdmins _ _), b => (.ok (), b)
  | .ack _, b => (.ok (), b)
  | .nack id, b => (.ok (), b.nack a.2.queue id)
  | .sendToQueue _ _ _, b => (.ok (), b)

end Broker

def NotificationService.sync : ConsumerOp NotificationOp → Bool :=
  ConsumerOp.sync fun op => match op with
    | .emitToAdmins _ _ => true
    | _ => false

/-- The consumer's callback: what `publish` wrote as JSON parses back. -/
def attempt (config : EmailConfig) (a : Queued) : NotificationM :=
  RabbitMQClient.consume .ok (handler config) ⟨a.1, a.2, none, none⟩

def Mails (performed : List (Performed (ConsumerOp NotificationOp) (ConsumerOp.Res fun _ => Unit)
    Error)) : Prop :=
  ∃ options, ⟨.own (.sendMail options), .ok ()⟩ ∈ performed

abbrev Notifications :=
  EventLoop Queued (ConsumerOp NotificationOp) (ConsumerOp.Res fun _ => Unit) Error Unit Broker

inductive BrokerEvent
  | publish (event : NotificationEvent)
  | deliver (queue : String)
  | answer (task : Nat) (c : Except Error Unit)
  | close

namespace Notifications

def opening : Notifications := .idle ⟨0, [], [], []⟩

def processing (l : Notifications) : List Queued := EventLoop.pending l.tasks

def publish (event : NotificationEvent) (l : Notifications) : Notifications :=
  { l with
    state := { l.state with
      published := l.state.published + 1
      ready := l.state.ready ++ [(l.state.published, event)] } }

def turn (config : EmailConfig) :
    Notifications → LoopEvent Queued (Except Error Unit) → Notifications :=
  EventLoop.step sync Broker.handle (attempt config)

/-- The oldest message of the queue goes to its consumer. -/
def deliver (config : EmailConfig) (queue : String) (l : Notifications) : Notifications :=
  match l.state.ready.find? fun a => a.2.queue = queue with
  | none => l
  | some a =>
    turn config { l with state := { l.state with ready := l.state.ready.erase a } }
      (.start a fun _ => .ok ())

def close (l : Notifications) : Notifications where
  tasks := l.tasks.map fun t => if t.2.settlement.isNone then (t.1, pure ()) else t
  state := { l.state with ready := l.processing ++ l.state.ready }
  log := l.log

def step (config : EmailConfig) (l : Notifications) : BrokerEvent → Notifications
  | .publish event => l.publish event
  | .deliver queue => l.deliver config queue
  | .answer task c => turn config l (.resume task fun _ => c)
  | .close => l.close

def Handled (l : Notifications) (id : Nat) : Prop :=
  ∃ (i : Nat) (event : NotificationEvent), (l.tasks.map Prod.fst)[i]? = some (id, event) ∧
    Mails (l.history i)

def attempts (l : Notifications) (id : Nat) : Nat := l.tasks.countP fun t => t.1.1 = id

/-- Every event has been handled, is in its queue or being processed, or has been set aside after
at most three attempts. -/
def NothingLost (l : Notifications) : Prop :=
  ∀ id < l.state.published, l.Handled id ∨ id ∈ l.state.ready.map Prod.fst ∨
    id ∈ l.processing.map Prod.fst ∨ (id ∈ l.state.deadLettered ∧ l.attempts id ≤ 3)

end Notifications

def NotificationEvent.consumer : NotificationEvent → String
  | .order (.created ..) => "MessagingService.orderCreatedConsumer"
  | .order (.cancelled ..) => "MessagingService.orderCancelledConsumer"
  | .lowStock _ => "MessagingService.lowStockAlertConsumer"

/-- The step does not end an attempt that has failed: the consumer is not at its own record of the
failure, which it makes last. -/
def EndsNoFailure (l : Notifications) : BrokerEvent → Prop
  | .answer task _ => ∀ a p error, l.tasks[task]? = some (a, p) →
      p.awaited ≠ some (.own (.addError a.2.consumer error))
  | _ => True

def Fails (a : Queued) (error : Error) : List String → NotificationM → Prop
  | [], p => ∃ k, p = .await (.nack a.1) k ∧ ∀ r, (k r).settlement.isSome
  | apiName :: apiNames, p => ∃ k, p = .await (.own (.addError apiName error)) k ∧
      Fails a error apiNames (k (.ok ()))

def NotificationEvent.mailer : NotificationEvent → String
  | .order (.created ..) => "EmailService.sendOrderConfirmation"
  | .order (.cancelled ..) => "EmailService.sendOrderCancellation"
  | .lowStock _ => "EmailService.sendLowStockAlert"

section Stages

variable (config : EmailConfig) (a : Queued)

theorem attempt_eq : ∃ options k, attempt config a = .await (.own (.sendMail options)) k ∧
    (∀ error, Fails a error [a.2.mailer, a.2.consumer] (k (.error error))) ∧
    ∀ env b, ((k (.ok ())).segment sync (Broker.handle a) env b).rest.settlement.isSome ∧
      ((k (.ok ())).segment sync (Broker.handle a) env b).state = b := by
  obtain ⟨id, order | lowStock⟩ := a
  · cases order with
    | created orderId userId total items shippingAddress =>
      refine ⟨_, _, rfl, fun error => ⟨_, rfl, _, rfl, _, rfl, ?_⟩, fun env b => ⟨rfl, rfl⟩⟩
      rintro (error | u) <;> rfl
    | cancelled orderId userId items =>
      refine ⟨_, _, rfl, fun error => ⟨_, rfl, _, rfl, _, rfl, ?_⟩, fun env b => ⟨rfl, rfl⟩⟩
      rintro (error | u) <;> rfl
  · refine ⟨_, _, rfl, fun error => ⟨_, rfl, _, rfl, _, rfl, ?_⟩, fun env b => ⟨rfl, rfl⟩⟩
    rintro (error | u) <;> rfl

theorem segment_attempt (env : Script (Except Error Unit)) (b : Broker) :
    (attempt config a).segment sync (Broker.handle a) env b = ⟨attempt config a, b, []⟩ := by
  obtain ⟨options, k, heq, -⟩ := attempt_eq config a
  rw [heq]
  exact Prog.segment_await_async _ _ _ rfl k

def UnderWay (p : NotificationM) : Prop :=
  p = attempt config a ∨ ∃ error, Fails a error [a.2.mailer, a.2.consumer] p ∨
    Fails a error [a.2.consumer] p

variable {config a} {p : NotificationM}

theorem UnderWay.settlement (h : UnderWay config a p) : p.settlement = none := by
  obtain rfl | ⟨error, ⟨k, rfl, -⟩ | ⟨k, rfl, -⟩⟩ := h
  · obtain ⟨options, k, heq, -⟩ := attempt_eq config a
    rw [heq]
    rfl
  · rfl
  · rfl

inductive Advances (config : EmailConfig) (a : Queued) (p : NotificationM) (b : Broker) :
    Prog.Segment (ConsumerOp NotificationOp) (ConsumerOp.Res fun _ => Unit) Error Unit Broker → Prop
  | handled {q : NotificationM} {performed} (hq : q.settlement.isSome) (hmails : Mails performed)
      (hp : ∀ error, p.awaited ≠ some (.own (.addError a.2.consumer error))) :
      Advances config a p b ⟨q, b, performed⟩
  | recording {q : NotificationM} {performed} (hq : UnderWay config a q) (hmails : ¬ Mails performed)
      (hp : ∀ error, p.awaited ≠ some (.own (.addError a.2.consumer error))) :
      Advances config a p b ⟨q, b, performed⟩
  | dropped {q : NotificationM} {performed} (hq : q.settlement.isSome) (hmails : ¬ Mails performed)
      {error : Error} (hp : p.awaited = some (.own (.addError a.2.consumer error))) :
      Advances config a p b ⟨q, b.nack a.2.queue a.1, performed⟩

theorem mailer_ne_consumer (event : NotificationEvent) : event.mailer ≠ event.consumer := by
  obtain order | lowStock := event
  · cases order <;> simp [NotificationEvent.mailer, NotificationEvent.consumer]
  · simp [NotificationEvent.mailer, NotificationEvent.consumer]

theorem advances (h : UnderWay config a p) (env : Script (Except Error Unit)) (b : Broker) :
    Advances config a p b (p.resume sync (Broker.handle a) env b) := by
  obtain rfl | ⟨error, ⟨k, rfl, k', hk, hk'⟩ | ⟨k, rfl, k', hk, hk'⟩⟩ := h
  · obtain ⟨options, k, heq, hfails, hacks⟩ := attempt_eq config a
    rw [heq]
    simp only [Prog.resume, Broker.handle]
    cases hc : env 0 with
    | error error =>
      have hrecords := hfails error
      obtain ⟨k', hk', -⟩ := hfails error
      rw [hk', Prog.segment_await_async _ _ _ rfl]
      rw [hk'] at hrecords
      refine .recording (.inr ⟨error, .inl hrecords⟩) ?_ ?_
      · rintro ⟨options', hmem⟩
        simp at hmem
      · rintro error' ⟨⟩
    | ok u =>
      obtain ⟨hsettled, hstate⟩ := hacks env.tail b
      cases hsegment : (k (.ok ())).segment sync (Broker.handle a) env.tail b with
      | mk q b' performed =>
        rw [hsegment] at hsettled hstate
        obtain rfl := hstate
        refine .handled hsettled ⟨options, List.mem_cons_self⟩ ?_
        rintro error' ⟨⟩
  · simp only [Prog.resume, Broker.handle, hk]
    rw [Prog.segment_await_async _ _ _ rfl]
    refine .recording (.inr ⟨error, .inr ⟨k', rfl, hk'⟩⟩) ?_ ?_
    · rintro ⟨options', hmem⟩
      simp at hmem
    · intro error' h
      simp [Prog.awaited, mailer_ne_consumer] at h
  · simp only [Prog.resume, Broker.handle, hk]
    rw [Prog.segment_await_sync _ _ _ rfl, Prog.resume, Prog.segment_settled _ _ _ (hk' _)]
    refine .dropped (hk' _) ?_ rfl
    rintro ⟨options', hmem⟩
    simp [Broker.handle] at hmem

end Stages

namespace Notifications

/-- The messages that are in a queue or on their way. -/
def waiting (l : Notifications) : List Nat :=
  l.state.ready.map Prod.fst ++ l.processing.map Prod.fst

structure Tidy (config : EmailConfig) (l : Notifications) : Prop where
  nodup : l.waiting.Nodup
  lt_of_waiting : ∀ id ∈ l.waiting, id < l.state.published
  lt_of_started : ∀ t ∈ l.tasks, t.1.1 < l.state.published
  not_waiting : ∀ id, l.Handled id → id ∉ l.waiting
  deadLettered : l.state.deadLettered = []
  underWay : ∀ (i : Nat) a p, l.tasks[i]? = some (a, p) → p.settlement = none →
    UnderWay config a p ∧ ¬ Mails (l.history i)
  log_lt : ∀ entry ∈ l.log, entry.1 < l.tasks.length

inductive Moves (l : Notifications) (event : BrokerEvent) (l' : Notifications) : Prop
  | published (hpublished : l'.state.published = l.state.published + 1)
      (hwaiting : l'.waiting.Perm (l.state.published :: l.waiting))
      (hhandled : ∀ id, l'.Handled id ↔ l.Handled id) (hends : EndsNoFailure l event)
  | kept (hpublished : l'.state.published = l.state.published) (hwaiting : l'.waiting.Perm l.waiting)
      (hhandled : ∀ id, l'.Handled id ↔ l.Handled id) (hends : EndsNoFailure l event)
  | handled (id : Nat) (hpublished : l'.state.published = l.state.published)
      (hwaiting : l.waiting.Perm (id :: l'.waiting))
      (hhandled : ∀ id', l'.Handled id' ↔ l.Handled id' ∨ id' = id) (hends : EndsNoFailure l event)
  | dropped (id : Nat) (hpublished : l'.state.published = l.state.published)
      (hwaiting : l.waiting.Perm (id :: l'.waiting))
      (hhandled : ∀ id, l'.Handled id ↔ l.Handled id) (hends : ¬ EndsNoFailure l event)

section Moves

variable {config : EmailConfig} {l l' : Notifications} {event : BrokerEvent}

theorem Tidy.of_perm_cons (hl : Tidy config l) {id₀ : Nat} {ids : List Nat}
    (h : l.waiting.Perm (id₀ :: ids)) : id₀ ∉ ids ∧ ids.Nodup ∧ ∀ id ∈ ids, id ∈ l.waiting := by
  obtain ⟨hgone, hnodup⟩ := List.nodup_cons.mp (h.nodup_iff.mp hl.nodup)
  exact ⟨hgone, hnodup, fun id hid => h.mem_iff.mpr (List.mem_cons_of_mem _ hid)⟩

theorem Moves.nothingLost_iff (hl : Tidy config l) (hlost : l.NothingLost)
    (hdead : l'.state.deadLettered = []) (h : Moves l event l') :
    l'.NothingLost ↔ EndsNoFailure l event := by
  have hnow : ∀ id < l.state.published, l.Handled id ∨ id ∈ l.waiting := by
    intro id hid
    rcases hlost id hid with h | h | h | h
    · exact .inl h
    · exact .inr (List.mem_append_left _ h)
    · exact .inr (List.mem_append_right _ h)
    · simp [hl.deadLettered] at h
  have hthen : l'.NothingLost ↔ ∀ id < l'.state.published, l'.Handled id ∨ id ∈ l'.waiting := by
    simp [NothingLost, hdead, waiting]
  rw [hthen]
  cases h with
  | published hpublished hwaiting hhandled hends =>
    refine iff_of_true (fun id hid => ?_) hends
    rw [hhandled, hwaiting.mem_iff, List.mem_cons]
    rw [hpublished] at hid
    rcases Nat.lt_succ_iff_lt_or_eq.mp hid with hid | rfl
    · exact (hnow id hid).imp_right .inr
    · exact .inr (.inl rfl)
  | kept hpublished hwaiting hhandled hends =>
    refine iff_of_true (fun id hid => ?_) hends
    rw [hhandled, hwaiting.mem_iff]
    exact hnow id (hpublished ▸ hid)
  | handled id₀ hpublished hwaiting hhandled hends =>
    refine iff_of_true (fun id hid => ?_) hends
    rw [hhandled]
    rcases hnow id (hpublished ▸ hid) with h | h
    · exact .inl (.inl h)
    · rcases List.mem_cons.mp (hwaiting.mem_iff.mp h) with rfl | h
      · exact .inl (.inr rfl)
      · exact .inr h
  | dropped id₀ hpublished hwaiting hhandled hends =>
    refine iff_of_false (fun h => ?_) hends
    have hmem : id₀ ∈ l.waiting := hwaiting.mem_iff.mpr List.mem_cons_self
    obtain ⟨hgone, -⟩ := hl.of_perm_cons hwaiting
    rcases h id₀ (hpublished ▸ hl.lt_of_waiting id₀ hmem) with h | h
    · exact hl.not_waiting id₀ ((hhandled id₀).mp h) hmem
    · exact hgone h

theorem Moves.tidy (hl : Tidy config l) (h : Moves l event l')
    (hstarted : ∀ t ∈ l'.tasks, t.1.1 < l'.state.published)
    (hdead : l'.state.deadLettered = [])
    (hunderWay : ∀ (i : Nat) a p, l'.tasks[i]? = some (a, p) → p.settlement = none →
      UnderWay config a p ∧ ¬ Mails (l'.history i))
    (hlog : ∀ entry ∈ l'.log, entry.1 < l'.tasks.length) : Tidy config l' := by
  suffices h : l'.waiting.Nodup ∧ (∀ id ∈ l'.waiting, id < l'.state.published) ∧
      ∀ id, l'.Handled id → id ∉ l'.waiting from
    ⟨h.1, h.2.1, hstarted, h.2.2, hdead, hunderWay, hlog⟩
  cases h with
  | published hpublished hwaiting hhandled hends =>
    have hnew : l.state.published ∉ l.waiting := fun hmem =>
      Nat.lt_irrefl _ (hl.lt_of_waiting _ hmem)
    refine ⟨?_, fun id hid => ?_, fun id hid hmem => ?_⟩
    · exact hwaiting.nodup_iff.mpr (List.nodup_cons.mpr ⟨hnew, hl.nodup⟩)
    · rw [hpublished]
      rcases List.mem_cons.mp (hwaiting.mem_iff.mp hid) with rfl | hid
      · exact Nat.lt_succ_self _
      · exact Nat.lt_succ_of_lt (hl.lt_of_waiting id hid)
    · rw [hhandled] at hid
      rcases List.mem_cons.mp (hwaiting.mem_iff.mp hmem) with rfl | hmem
      · obtain ⟨i, event, hlabel, -⟩ := hid
        obtain ⟨t, ht, hfst⟩ := List.mem_map.mp (List.mem_of_getElem? hlabel)
        have hlt := hl.lt_of_started t ht
        rw [hfst] at hlt
        exact Nat.lt_irrefl _ hlt
      · exact hl.not_waiting id hid hmem
  | kept hpublished hwaiting hhandled hends =>
    refine ⟨hwaiting.nodup_iff.mpr hl.nodup, fun id hid => ?_, fun id hid hmem => ?_⟩
    · rw [hpublished]
      exact hl.lt_of_waiting id (hwaiting.mem_iff.mp hid)
    · exact hl.not_waiting id ((hhandled id).mp hid) (hwaiting.mem_iff.mp hmem)
  | handled id₀ hpublished hwaiting hhandled hends =>
    obtain ⟨hgone, hnodup, hsub⟩ := hl.of_perm_cons hwaiting
    refine ⟨hnodup, fun id hid => ?_, fun id hid hmem => ?_⟩
    · rw [hpublished]
      exact hl.lt_of_waiting id (hsub id hid)
    · rcases (hhandled id).mp hid with hid | rfl
      · exact hl.not_waiting id hid (hsub id hmem)
      · exact hgone hmem
  | dropped id₀ hpublished hwaiting hhandled hends =>
    obtain ⟨-, hnodup, hsub⟩ := hl.of_perm_cons hwaiting
    refine ⟨hnodup, fun id hid => ?_, fun id hid hmem => ?_⟩
    · rw [hpublished]
      exact hl.lt_of_waiting id (hsub id hid)
    · exact hl.not_waiting id ((hhandled id).mp hid) (hsub id hmem)

end Moves

section Step

variable {config : EmailConfig} {l : Notifications}

theorem moves_publish (event : NotificationEvent) :
    Moves l (.publish event) (l.publish event) := by
  refine .published rfl ?_ (fun id => Iff.rfl) trivial
  change ((l.state.ready ++ [(l.state.published, event)]).map Prod.fst ++
    l.processing.map Prod.fst).Perm _
  rw [List.map_append, List.append_assoc]
  exact List.perm_middle

theorem tidy_publish (hl : Tidy config l) (event : NotificationEvent) :
    Tidy config (l.publish event) :=
  (moves_publish event).tidy hl (fun t ht => Nat.lt_succ_of_lt (hl.lt_of_started t ht))
    hl.deadLettered hl.underWay hl.log_lt

theorem deliver_of_some {queue : String} {a : Queued}
    (h : l.state.ready.find? (fun a => a.2.queue = queue) = some a) :
    l.deliver config queue = ⟨l.tasks ++ [(a, attempt config a)],
      { l.state with ready := l.state.ready.erase a }, l.log⟩ := by
  simp [deliver, h, turn, EventLoop.step, segment_attempt, EventLoop.record]

theorem settlement_attempt (a : Queued) : (attempt config a).settlement = none :=
  UnderWay.settlement (.inl rfl)

theorem moves_deliver (hl : Tidy config l) (queue : String) :
    Moves l (.deliver queue) (l.deliver config queue) := by
  cases h : l.state.ready.find? (fun a => a.2.queue = queue) with
  | none =>
    simp only [deliver, h]
    exact .kept rfl (List.Perm.refl _) (fun id => Iff.rfl) trivial
  | some a =>
    rw [deliver_of_some h]
    refine .kept rfl ?_ (fun id => ?_) trivial
    · have hready : l.state.ready.Perm (a :: l.state.ready.erase a) :=
        List.perm_cons_erase (List.mem_of_find?_eq_some h)
      have hprocessing : processing ⟨l.tasks ++ [(a, attempt config a)],
          { l.state with ready := l.state.ready.erase a }, l.log⟩ = l.processing ++ [a] := by
        simp [processing, EventLoop.pending, settlement_attempt]
      rw [waiting, hprocessing, waiting, List.map_append, ← List.append_assoc]
      refine (List.perm_append_singleton _ _).trans ?_
      exact ((hready.map Prod.fst).append_right _).symm
    · constructor
      · rintro ⟨i, event, hlabel, hmails⟩
        refine ⟨i, event, ?_, hmails⟩
        rw [List.map_append, List.getElem?_append] at hlabel
        split at hlabel
        · exact hlabel
        · next hi =>
          -- The new task has not done anything yet.
          rw [List.length_map, Nat.not_lt] at hi
          have hnothing : l.history i = [] :=
            EventLoop.history_of_log_lt fun entry hentry => (hl.log_lt entry hentry).trans_le hi
          obtain ⟨options, hmem⟩ := hmails
          change _ ∈ l.history i at hmem
          rw [hnothing] at hmem
          simp at hmem
      · rintro ⟨i, event, hlabel, hmails⟩
        refine ⟨i, event, ?_, hmails⟩
        obtain ⟨hi, -⟩ := List.getElem?_eq_some_iff.mp hlabel
        rw [List.map_append, List.getElem?_append_left hi, hlabel]

theorem tidy_deliver (hl : Tidy config l) (queue : String) :
    Tidy config (l.deliver config queue) := by
  have hmoves := moves_deliver hl queue
  cases h : l.state.ready.find? (fun a => a.2.queue = queue) with
  | none =>
    simp only [deliver, h]
    exact hl
  | some a =>
    rw [deliver_of_some h] at hmoves ⊢
    have hmem : a.1 ∈ l.waiting :=
      List.mem_append_left _ (List.mem_map_of_mem (List.mem_of_find?_eq_some h))
    refine hmoves.tidy hl (fun t ht => ?_) hl.deadLettered (fun i b p hp hsettlement => ?_)
      fun entry hentry => ?_
    · rcases List.mem_append.mp ht with ht | ht
      · exact hl.lt_of_started t ht
      · rw [List.mem_singleton.mp ht]
        exact hl.lt_of_waiting a.1 hmem
    · rw [List.getElem?_append] at hp
      split at hp
      · exact hl.underWay i b p hp hsettlement
      · next hi =>
        rw [Nat.not_lt] at hi
        have hnothing : l.history i = [] :=
          EventLoop.history_of_log_lt fun entry hentry => (hl.log_lt entry hentry).trans_le hi
        have hlast : i - l.tasks.length = 0 := by
          by_contra hne
          simp [hne] at hp
        rw [hlast] at hp
        obtain ⟨rfl, rfl⟩ : a = b ∧ attempt config a = p := by simpa using hp
        refine ⟨.inl rfl, ?_⟩
        rintro ⟨options, hmem⟩
        change _ ∈ l.history i at hmem
        rw [hnothing] at hmem
        simp at hmem
    · rw [List.length_append]
      exact Nat.lt_add_right _ (hl.log_lt entry hentry)

theorem labels_close : l.close.tasks.map Prod.fst = l.tasks.map Prod.fst := by
  rw [close, List.map_map]
  apply List.map_congr_left
  intro t _
  simp only [Function.comp_apply]
  split <;> rfl

theorem settled_close : ∀ t ∈ l.close.tasks, t.2.settlement.isSome := by
  intro t ht
  obtain ⟨t', -, rfl⟩ := List.mem_map.mp ht
  split
  · rfl
  · next h => simpa [Option.isSome_iff_ne_none] using h

theorem moves_close : Moves l .close l.close := by
  refine .kept rfl ?_ (fun id => ?_) trivial
  · have hnone : l.close.processing = [] := by
      rw [processing, EventLoop.pending, List.map_eq_nil_iff, List.filter_eq_nil_iff]
      intro t ht
      simpa using Option.isSome_iff_ne_none.mp (settled_close t ht)
    rw [waiting, hnone, waiting, close, List.map_append, List.map_nil, List.append_nil]
    exact List.perm_append_comm
  · rw [Handled, labels_close]
    exact Iff.rfl

theorem tidy_close (hl : Tidy config l) : Tidy config l.close := by
  refine moves_close.tidy hl (fun t ht => ?_) hl.deadLettered (fun i a p hp hsettlement => ?_) ?_
  · have hlabel : t.1 ∈ l.tasks.map Prod.fst := labels_close ▸ List.mem_map_of_mem ht
    obtain ⟨t', ht', hfst⟩ := List.mem_map.mp hlabel
    rw [← hfst]
    exact hl.lt_of_started t' ht'
  · have hsome := settled_close (a, p) (List.mem_of_getElem? hp)
    simp [hsettlement] at hsome
  · simpa [close] using hl.log_lt

section Answer

variable {i : Nat} {a : Queued} {p q : NotificationM} (hp : l.tasks[i]? = some (a, p))
include hp

theorem handled_record (b : Broker) (performed) (id : Nat) :
    Handled ⟨l.tasks.set i (a, q), b, l.record i performed⟩ id ↔
      l.Handled id ∨ (id = a.1 ∧ Mails performed) := by
  have hlabel : (l.tasks.map Prod.fst)[i]? = some a := by simp [hp]
  rw [Handled, EventLoop.labels_set hp, Handled]
  constructor
  · rintro ⟨j, event, hj, options, hmem⟩
    rw [EventLoop.history_record] at hmem
    rcases List.mem_append.mp hmem with hold | hnew
    · exact .inl ⟨j, event, hj, options, hold⟩
    · by_cases hij : i = j
      · subst hij
        obtain rfl := Option.some.inj (hlabel.symm.trans hj)
        rw [if_pos rfl] at hnew
        exact .inr ⟨rfl, options, hnew⟩
      · simp [hij] at hnew
  · rintro (⟨j, event, hj, options, hmem⟩ | ⟨rfl, options, hmem⟩)
    · refine ⟨j, event, hj, options, ?_⟩
      rw [EventLoop.history_record]
      exact List.mem_append_left _ hmem
    · refine ⟨i, a.2, hlabel, options, ?_⟩
      rw [EventLoop.history_record, if_pos rfl]
      exact List.mem_append_right _ hmem

theorem waiting_set_settled (hpending : p.settlement = none) (hq : q.settlement.isSome) (b : Broker)
    (hready : b.ready = l.state.ready) (log) :
    l.waiting.Perm (a.1 :: waiting ⟨l.tasks.set i (a, q), b, log⟩) := by
  have hpends := (EventLoop.pending_set_of_isSome hp hpending hq).map Prod.fst
  rw [waiting, waiting, hready]
  exact (hpends.append_left _).trans List.perm_middle

theorem started_set (hl : Tidy config l) :
    ∀ t ∈ l.tasks.set i (a, q), t.1.1 < l.state.published := by
  intro t ht
  have hlabel : t.1 ∈ l.tasks.map Prod.fst := EventLoop.labels_set hp q ▸ List.mem_map_of_mem ht
  obtain ⟨t', ht', hfst⟩ := List.mem_map.mp hlabel
  rw [← hfst]
  exact hl.lt_of_started t' ht'

theorem log_lt_record (hl : Tidy config l) (performed) :
    ∀ entry ∈ l.record i performed, entry.1 < (l.tasks.set i (a, q)).length := by
  intro entry hentry
  rw [List.length_set]
  rcases List.mem_append.mp hentry with hentry | hentry
  · exact hl.log_lt entry hentry
  · obtain ⟨_, -, rfl⟩ := List.mem_map.mp hentry
    exact (List.getElem?_eq_some_iff.mp hp).1

theorem underWay_record (hl : Tidy config l) (hpending : p.settlement = none) (b : Broker)
    {performed} (hq : q.settlement = none → UnderWay config a q ∧ ¬ Mails performed) (j : Nat) (a' : Queued)
    (p' : NotificationM) (hp' : (l.tasks.set i (a, q))[j]? = some (a', p'))
    (hpending' : p'.settlement = none) :
    UnderWay config a' p' ∧
      ¬ Mails (EventLoop.history ⟨l.tasks.set i (a, q), b, l.record i performed⟩ j) := by
  rw [EventLoop.history_record]
  by_cases hij : i = j
  · subst hij
    obtain ⟨hlt, -⟩ := List.getElem?_eq_some_iff.mp hp
    obtain ⟨rfl, rfl⟩ : a = a' ∧ q = p' := by simpa [hlt] using hp'
    obtain ⟨hunderWay, hmails⟩ := hq hpending'
    refine ⟨hunderWay, ?_⟩
    rintro ⟨options, hmem⟩
    rw [if_pos rfl] at hmem
    rcases List.mem_append.mp hmem with hmem | hmem
    · exact (hl.underWay i a p hp hpending).2 ⟨options, hmem⟩
    · exact hmails ⟨options, hmem⟩
  · rw [List.getElem?_set_ne hij] at hp'
    rw [if_neg hij, List.append_nil]
    exact hl.underWay j a' p' hp' hpending'

end Answer

/-- No queue has a dead-letter exchange. -/
theorem nack_eq (a : Queued) (b : Broker) :
    b.nack a.2.queue a.1 = { b with discarded := b.discarded ++ [a.1] } := by
  obtain ⟨id, order | lowStock⟩ := a
  · cases order <;> rfl
  · rfl

theorem answer_of_idle (config : EmailConfig) {i : Nat} (c : Except Error Unit)
    (hi : ∀ a p, l.tasks[i]? = some (a, p) → p.settlement.isSome) :
    turn config l (.resume i fun _ => c) = l ∧ Moves l (.answer i c) l := by
  refine ⟨EventLoop.step_resume_of_settled _ hi, .kept rfl (List.Perm.refl _) (fun _ => Iff.rfl) ?_⟩
  intro a p error hp hawaited
  have hsettled := hi a p hp
  cases p with
  | pure u => cases hawaited
  | throw e => cases hawaited
  | await op k => cases hsettled

theorem answer_step (hl : Tidy config l) (i : Nat) (c : Except Error Unit) :
    Moves l (.answer i c) (turn config l (.resume i fun _ => c)) ∧
      Tidy config (turn config l (.resume i fun _ => c)) := by
  by_cases hidle : ∀ a p, l.tasks[i]? = some (a, p) → p.settlement.isSome
  · obtain ⟨heq, hmoves⟩ := answer_of_idle config c hidle
    rw [heq]
    exact ⟨hmoves, hl⟩
  · push Not at hidle
    obtain ⟨a, p, hp, hpending⟩ := hidle
    replace hpending : p.settlement = none := by simpa using hpending
    obtain ⟨hunderWay, -⟩ := hl.underWay i a p hp hpending
    have hadvances := advances hunderWay (fun _ => c) l.state
    simp only [turn, EventLoop.step, hp]
    generalize p.resume sync (Broker.handle a) (fun _ => c) l.state = r at hadvances
    cases hadvances with
    | @handled q performed hq hmails hawaits =>
      have hmoves : Moves l (.answer i c)
          ⟨l.tasks.set i (a, q), l.state, l.record i performed⟩ := by
        refine .handled a.1 rfl ?_ (fun id => ?_) ?_
        · exact waiting_set_settled hp hpending hq _ rfl _
        · rw [handled_record hp, and_iff_left hmails]
        · intro a' p' error hp'
          obtain ⟨rfl, rfl⟩ : a = a' ∧ p = p' := by simpa [hp] using hp'
          exact hawaits error
      refine ⟨hmoves, hmoves.tidy hl (started_set hp hl) hl.deadLettered ?_ (log_lt_record hp hl _)⟩
      exact underWay_record hp hl hpending _ fun hnone => by simp [hnone] at hq
    | @recording q performed hq hmails hawaits =>
      have hmoves : Moves l (.answer i c)
          ⟨l.tasks.set i (a, q), l.state, l.record i performed⟩ := by
        refine .kept rfl ?_ (fun id => ?_) ?_
        · rw [waiting, processing, EventLoop.pending_set_of_none hp hpending hq.settlement]
          exact List.Perm.refl _
        · rw [handled_record hp]
          simp [hmails]
        · intro a' p' error hp'
          obtain ⟨rfl, rfl⟩ : a = a' ∧ p = p' := by simpa [hp] using hp'
          exact hawaits error
      refine ⟨hmoves, hmoves.tidy hl (started_set hp hl) hl.deadLettered ?_ (log_lt_record hp hl _)⟩
      exact underWay_record hp hl hpending _ fun _ => ⟨hq, hmails⟩
    | @dropped q performed hq hmails error hawaits =>
      have hdiscards := nack_eq a l.state
      rw [hdiscards]
      have hmoves : Moves l (.answer i c)
          ⟨l.tasks.set i (a, q), { l.state with discarded := l.state.discarded ++ [a.1] },
            l.record i performed⟩ := by
        refine .dropped a.1 rfl ?_ (fun id => ?_) ?_
        · exact waiting_set_settled hp hpending hq
            { l.state with discarded := l.state.discarded ++ [a.1] } rfl (l.record i performed)
        · rw [handled_record hp]
          simp [hmails]
        · intro hends
          exact hends a p error hp hawaits
      refine ⟨hmoves, hmoves.tidy hl (started_set hp hl) hl.deadLettered ?_ (log_lt_record hp hl _)⟩
      exact underWay_record hp hl hpending _ fun hnone => by simp [hnone] at hq

theorem step_tidy (hl : Tidy config l) (event : BrokerEvent) :
    Moves l event (l.step config event) ∧ Tidy config (l.step config event) := by
  cases event with
  | publish event => exact ⟨moves_publish event, tidy_publish hl event⟩
  | deliver queue => exact ⟨moves_deliver hl queue, tidy_deliver hl queue⟩
  | answer i c => exact answer_step hl i c
  | close => exact ⟨moves_close, tidy_close hl⟩

end Step

theorem tidy_opening (config : EmailConfig) : Tidy config opening := by
  constructor <;> simp [opening, EventLoop.idle, waiting, processing, EventLoop.pending, Handled]

/-- No event is lost in exactly those runs in which no failed attempt gets to its end. -/
theorem nothingLost_always_iff (config : EmailConfig) (events : List BrokerEvent) :
    Runs.Always (step config) NothingLost opening events ↔
      Runs.Along (step config) EndsNoFailure opening events := by
  refine Runs.always_iff_along (J := Tidy config) (Q := fun _ _ => True)
    (fun l event hlost hl _ => ?_) (fun l event _ hl _ _ => (step_tidy hl event).2) ?_
    (tidy_opening config) (Runs.along_of_forall fun _ _ => trivial)
  · obtain ⟨hmoves, htidy⟩ := step_tidy hl event
    exact hmoves.nothingLost_iff hl hlost htidy.deadLettered
  · intro id hid
    simp [opening, EventLoop.idle] at hid

section Example

private def noConfig : EmailConfig := ⟨none, none⟩

private def refusedMail : List BrokerEvent :=
  [.publish (.order (.cancelled "o" "u" [])), .deliver "order.cancelled.queue",
    .answer 0 (.error (.plain "Connection timeout")), .answer 0 (.ok ()), .answer 0 (.ok ())]

/-- The SMTP server cannot be reached once, and the event is gone. -/
theorem not_nothingLost_refused :
    ¬ Runs.Always (step noConfig) NothingLost opening refusedMail := by
  rintro ⟨-, -, -, -, hlost, -⟩
  rcases hlost 0 (by decide) with ⟨i, event, -, options, hmem⟩ | hready | hprocessing | ⟨hdead, -⟩
  · -- Nothing in the log is a mail that went out.
    obtain ⟨entry, hentry, heq⟩ := List.mem_map.mp hmem
    obtain ⟨hlog, -⟩ := List.mem_filter.mp hentry
    rcases hlog with _ | ⟨_, _ | ⟨_, _ | ⟨_, _ | ⟨_, ⟨⟩⟩⟩⟩⟩
    all_goals cases heq
  · exact absurd hready (by decide)
  · exact absurd hprocessing (by decide)
  · exact absurd hdead (by decide)

end Example

end Notifications

end Ecommerce
