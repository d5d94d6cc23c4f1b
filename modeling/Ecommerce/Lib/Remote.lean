import Ecommerce.Lib.Monitor

/-! Event loops of which one calls the other.  A call is a message, which may get through any number
of times or not at all; it fails, or is answered by what one of its own deliveries has come to. -/

universe u v w x y z

/-- The operations that are calls, with what they send, and what the caller makes of what a delivery
has come to. -/
structure Calling (Op : Type u) (Res : Op → Type v) (ε : Type w) (Msg ρ : Type x) where
  message : Op → Option Msg
  read : (op : Op) → ρ → Except ε (Res op)

structure Call (Msg : Type x) where
  task : Nat
  turn : Nat
  message : Msg

structure Remote (ι Msg : Type x) (Op : Type u) (Res : Op → Type v) (ε : Type w) (α σ : Type x)
    (Op' : Type y) (Res' : Op' → Type z) (ε' β τ : Type x) where
  caller : EventLoop ι Op Res ε α σ
  mail : List (Call Msg)
  callee : EventLoop (Call Msg) Op' Res' ε' β τ

/-- A turn of the caller's that no call is answered at; what a task waits for is sent; a message
gets through; a turn of the callee's; what a delivery has come to gets back. -/
inductive RemoteEvent (ι χ ζ : Type x)
  | turn (event : LoopEvent ι χ)
  | send (task : Nat)
  | deliver (n : Nat) (env : Script ζ)
  | work (task : Nat) (env : Script ζ)
  | answer (delivery : Nat) (env : Script χ)

structure Party (ι : Type x) (Op : Type u) (Res : Op → Type v) (ε : Type w) (α σ χ : Type x) where
  sync : Op → Bool
  handle : ι → χ → Handler Op Res ε σ
  body : ι → Prog Op Res ε α

def Party.step {ι : Type x} {Op : Type u} {Res : Op → Type v} {ε : Type w} {α σ χ : Type x}
    (party : Party ι Op Res ε α σ χ) :
    EventLoop ι Op Res ε α σ → LoopEvent ι χ → EventLoop ι Op Res ε α σ :=
  EventLoop.step party.sync party.handle party.body

namespace Prog

variable {Op : Type u} {Res : Op → Type v} {ε : Type w} {α σ χ : Type x} {sync : Op → Bool}
  {h : χ → Handler Op Res ε σ}

theorem sync_of_mem_segment {env : Script χ} {p : Prog Op Res ε α} {s : σ} {d : Performed Op Res ε}
    (hd : d ∈ (p.segment sync h env s).performed) : sync d.1 := by
  induction p generalizing env s with
  | pure a => cases hd
  | throw e => cases hd
  | await op k ih =>
    cases hop : sync op with
    | false =>
      rw [segment_await_async h env s hop] at hd
      cases hd
    | true =>
      simp only [Prog.segment, hop, if_true] at hd
      rcases List.mem_cons.mp hd with rfl | hd
      · exact hop
      · exact ih _ hd

end Prog

namespace Party

open Prog EventLoop

variable {ι : Type x} {Op : Type u} {Res : Op → Type v} {ε : Type w} {α σ χ : Type x}
  (party : Party ι Op Res ε α σ χ) {l : EventLoop ι Op Res ε α σ} {i : Nat} {op : Op}

theorem step_of_ne {event : LoopEvent ι χ} (hi : i < l.tasks.length)
    (hevent : ∀ env, event ≠ .resume i env) :
    (party.step l event).tasks[i]? = l.tasks[i]? ∧
      (party.step l event).history i = l.history i := by
  cases event with
  | start a env =>
    refine ⟨List.getElem?_append_left hi, ?_⟩
    simp only [Party.step, EventLoop.step, history_record]
    rw [if_neg (Nat.ne_of_gt hi), List.append_nil]
  | resume j env =>
    have hij : j ≠ i := fun hij => hevent env (hij ▸ rfl)
    simp only [Party.step, EventLoop.step]
    split
    · exact ⟨rfl, rfl⟩
    · rw [history_record, if_neg hij, List.append_nil]
      exact ⟨List.getElem?_set_ne hij, rfl⟩

theorem history_resume {a : ι} {p : Prog Op Res ε α} (hp : l.tasks[i]? = some (a, p))
    (hop : p.awaited = some op) (env : Script χ) : ∃ done, (∀ d ∈ done, party.sync d.1) ∧
      (party.step l (.resume i env)).history i =
        l.history i ++ ⟨op, (party.handle a (env 0) op l.state).1⟩ :: done := by
  cases p with
  | pure b => cases hop
  | throw e => cases hop
  | await op' k =>
    obtain rfl := Option.some.inj hop
    simp only [Party.step, EventLoop.step, hp, history_record, if_true]
    exact ⟨_, fun d hd => sync_of_mem_segment hd, rfl⟩

theorem history_step (l : EventLoop ι Op Res ε α σ) (event : LoopEvent ι χ) (i : Nat) :
    ∃ done, (∀ d ∈ done, party.sync d.1) ∧
      ((party.step l event).history i = l.history i ++ done ∨
        ∃ a p op env, event = .resume i env ∧ l.tasks[i]? = some (a, p) ∧ p.awaited = some op ∧
          (party.step l event).history i =
            l.history i ++ ⟨op, (party.handle a (env 0) op l.state).1⟩ :: done) := by
  have hnone : l.history i = l.history i ++ [] := (List.append_nil _).symm
  cases event with
  | start a env =>
    simp only [Party.step, EventLoop.step, history_record]
    split
    · exact ⟨_, fun d hd => sync_of_mem_segment hd, .inl rfl⟩
    · exact ⟨[], by simp, .inl rfl⟩
  | resume j env =>
    cases hp : l.tasks[j]? with
    | none =>
      simp only [Party.step, EventLoop.step, hp]
      exact ⟨[], by simp, .inl hnone⟩
    | some task =>
      obtain ⟨a, p⟩ := task
      by_cases hij : j = i
      · subst hij
        cases hop : p.awaited with
        | some op =>
          obtain ⟨done, hdone, hhistory⟩ := party.history_resume hp hop env
          exact ⟨done, hdone, .inr ⟨a, p, op, env, rfl, hp, hop, hhistory⟩⟩
        | none =>
          have hsettled : p.settlement.isSome := by cases p <;> simp_all [awaited, settlement]
          have hstep : party.step l (.resume j env) = l :=
            step_resume_of_settled env fun b q hq => by
              obtain ⟨rfl, rfl⟩ := Prod.mk.inj (Option.some.inj (hp.symm.trans hq))
              exact hsettled
          rw [hstep]
          exact ⟨[], by simp, .inl hnone⟩
      · simp only [Party.step, EventLoop.step, hp, history_record, if_neg hij]
        exact ⟨[], by simp, .inl rfl⟩

theorem prefix_history (l : EventLoop ι Op Res ε α σ) (event : LoopEvent ι χ) (i : Nat) :
    l.history i <+: (party.step l event).history i := by
  obtain ⟨done, -, h | ⟨a, p, op, env, -, -, -, h⟩⟩ := party.history_step l event i
  · rw [h]
    exact List.prefix_append _ _
  · rw [h]
    exact List.prefix_append _ _

end Party

namespace Remote

open Prog EventLoop

variable {ι Msg : Type x} {Op : Type u} {Res : Op → Type v} {ε : Type w} {α σ χ : Type x}
  {Op' : Type y} {Res' : Op' → Type z} {ε' β τ ζ : Type x}

section Step

variable (calling : Calling Op Res ε Msg (Except ε' β)) (caller : Party ι Op Res ε α σ χ)
  (callee : Party Msg Op' Res' ε' β τ ζ)

def asking : Party ι Op Res ε α σ (χ × Option (Except ε' β)) where
  sync := caller.sync
  body := caller.body
  handle a c op s :=
    match c.2 with
    | none => caller.handle a c.1 op s
    | some r => (calling.read op r, s)

def answering : Party (Call Msg) Op' Res' ε' β τ ζ where
  sync := callee.sync
  body call := callee.body call.message
  handle call := callee.handle call.message

def unanswered : LoopEvent ι χ → LoopEvent ι (χ × Option (Except ε' β))
  | .start a env => .start a fun n => (env n, none)
  | .resume i env => .resume i fun n => (env n, none)

/-- What comes back is for the first operation of a turn. -/
def answered (i : Nat) (r : Except ε' β) (env : Script χ) :
    LoopEvent ι (χ × Option (Except ε' β)) :=
  .resume i fun n => (env n, if n = 0 then some r else none)

def pendingCall (R : Remote ι Msg Op Res ε α σ Op' Res' ε' β τ) (i : Nat) : Option (Call Msg) :=
  R.caller.tasks[i]?.bind fun task =>
    (task.2.awaited.bind calling.message).map fun message =>
      ⟨i, (R.caller.history i).length, message⟩

/-- What a delivery has come to, where the caller still waits for it. -/
def reply (R : Remote ι Msg Op Res ε α σ Op' Res' ε' β τ) (t : Nat) :
    Option (Nat × Except ε' β) :=
  R.callee.tasks[t]?.bind fun delivery =>
    match delivery.2.settlement, pendingCall calling R delivery.1.task with
    | some r, some pending =>
      if pending.turn = delivery.1.turn then some (delivery.1.task, r) else none
    | _, _ => none

def step (R : Remote ι Msg Op Res ε α σ Op' Res' ε' β τ) :
    RemoteEvent ι χ ζ → Remote ι Msg Op Res ε α σ Op' Res' ε' β τ
  | .turn event => { R with caller := (asking calling caller).step R.caller (unanswered event) }
  | .send i => { R with mail := R.mail ++ (pendingCall calling R i).toList }
  | .deliver n env =>
    match R.mail[n]? with
    | none => R
    | some call => { R with callee := (answering callee).step R.callee (.start call env) }
  | .work t env => { R with callee := (answering callee).step R.callee (.resume t env) }
  | .answer t env =>
    match reply calling R t with
    | none => R
    | some (i, r) =>
      { R with caller := (asking calling caller).step R.caller (answered i r env) }

def idle (s : σ) (t : τ) : Remote ι Msg Op Res ε α σ Op' Res' ε' β τ := ⟨.idle s, [], .idle t⟩

def run (s : σ) (t : τ) (events : List (RemoteEvent ι χ ζ)) :
    Remote ι Msg Op Res ε α σ Op' Res' ε' β τ :=
  events.foldl (step calling caller callee) (idle s t)

end Step

section Calls

variable {calling : Calling Op Res ε Msg (Except ε' β)}
  {R : Remote ι Msg Op Res ε α σ Op' Res' ε' β τ} {i : Nat} {call : Call Msg}

theorem pendingCall_eq_some : pendingCall calling R i = some call ↔ ∃ a p op,
    R.caller.tasks[i]? = some (a, p) ∧ p.awaited = some op ∧
      calling.message op = some call.message ∧ call.task = i ∧
      call.turn = (R.caller.history i).length := by
  obtain ⟨task, turn, message⟩ := call
  simp only [pendingCall, Option.bind_eq_some_iff, Option.map_eq_some_iff, Call.mk.injEq]
  constructor
  · rintro ⟨⟨a, p⟩, hp, m, ⟨op, hop, hm⟩, rfl, rfl, rfl⟩
    exact ⟨a, p, op, hp, hop, hm, rfl, rfl⟩
  · rintro ⟨a, p, op, hp, hop, hm, rfl, rfl⟩
    exact ⟨(a, p), hp, message, ⟨op, hop, hm⟩, rfl, rfl, rfl⟩

theorem reply_eq_some {t : Nat} {r : Except ε' β} (h : reply calling R t = some (i, r)) :
    ∃ call q pending, R.callee.tasks[t]? = some (call, q) ∧ q.settlement = some r ∧
      call.task = i ∧ pendingCall calling R i = some pending ∧ pending.turn = call.turn := by
  obtain ⟨⟨call, q⟩, hq, h⟩ := Option.bind_eq_some_iff.mp h
  cases hr : q.settlement with
  | none =>
    simp only [hr] at h
    cases h
  | some r' =>
    cases hpending : pendingCall calling R call.task with
    | none =>
      simp only [hr, hpending] at h
      cases h
    | some pending =>
      simp only [hr, hpending] at h
      split at h
      · next hturn =>
        obtain ⟨rfl, rfl⟩ := Prod.mk.inj (Option.some.inj h)
        exact ⟨call, q, pending, hq, hr, rfl, hpending, hturn⟩
      · cases h

def Made (calling : Calling Op Res ε Msg (Except ε' β))
    (R : Remote ι Msg Op Res ε α σ Op' Res' ε' β τ) (call : Call Msg) : Prop :=
  pendingCall calling R call.task = some call ∨ call.turn < (R.caller.history call.task).length

end Calls

/-- Every task of the caller's is under its label's monitor; what is sent is a call of a task that
may send it, after what it had done; what is delivered has been sent; and a call that has gone
through was answered by what one of its own deliveries has come to. -/
structure Linked (calling : Calling Op Res ε Msg (Except ε' β))
    (A : ι → List (Performed Op Res ε) → Op → Prop)
    (Q : ι → List (Performed Op Res ε) → Except ε α → Prop)
    (Sends : ι → List (Performed Op Res ε) → Msg → Prop)
    (R : Remote ι Msg Op Res ε α σ Op' Res' ε' β τ) : Prop where
  audited : R.caller.Audited (fun _ _ => True) A Q fun _ _ _ => True
  made : ∀ call ∈ R.mail, Made calling R call
  sends : ∀ call ∈ R.mail, ∃ a done, (R.caller.tasks.map Prod.fst)[call.task]? = some a ∧
    done <+: R.caller.history call.task ∧ Sends a done call.message
  delivered : ∀ delivery ∈ R.callee.tasks, delivery.1 ∈ R.mail
  answered : ∀ (i n : Nat) op x, (R.caller.history i)[n]? = some ⟨op, .ok x⟩ →
    ∀ m, calling.message op = some m → ∃ q r, (⟨i, n, m⟩, q) ∈ R.callee.tasks ∧
      q.settlement = some r ∧ calling.read op r = .ok x

section Run

variable {calling : Calling Op Res ε Msg (Except ε' β)} {caller : Party ι Op Res ε α σ χ}
  {callee : Party Msg Op' Res' ε' β τ ζ} {A : ι → List (Performed Op Res ε) → Op → Prop}
  {Q : ι → List (Performed Op Res ε) → Except ε α → Prop}
  {Sends : ι → List (Performed Op Res ε) → Msg → Prop}
  {R : Remote ι Msg Op Res ε α σ Op' Res' ε' β τ}

theorem Linked.turn (hR : R.Linked calling A Q Sends)
    (hbody : ∀ a, Monitored (fun _ _ => True) (A a) (caller.body a) (Q a) [])
    (hasync : ∀ op m, calling.message op = some m → caller.sync op = false)
    (hfails : ∀ a c op s m, calling.message op = some m → ∀ x, (caller.handle a c op s).1 ≠ .ok x)
    {event : LoopEvent ι (χ × Option (Except ε' β))}
    (hevent : ∀ i env r, event = .resume i env → (env 0).2 = some r →
      ∃ t, reply calling R t = some (i, r)) :
    Linked calling A Q Sends
      { R with caller := (asking calling caller).step R.caller event } := by
  have haudited : ((asking calling caller).step R.caller event).Audited (fun _ _ => True) A Q
      fun _ _ _ => True :=
    hR.audited.step (fun _ _ _ _ => trivial) hbody (fun _ _ _ _ _ => trivial)
      (fun _ _ _ _ _ _ _ _ _ _ => trivial) event
  have hlabels : ∀ (i : Nat) a, (R.caller.tasks.map Prod.fst)[i]? = some a →
      (((asking calling caller).step R.caller event).tasks.map Prod.fst)[i]? = some a := by
    intro i a ha
    rw [Party.step, labels_step, List.getElem?_append_left (List.getElem?_eq_some_iff.mp ha).1]
    exact ha
  constructor
  case audited => exact haudited
  case delivered => exact hR.delivered
  case sends =>
    intro call hcall
    obtain ⟨a, done, ha, hdone, hsends⟩ := hR.sends call hcall
    have hgrows := (asking calling caller).prefix_history R.caller event call.task
    exact ⟨a, done, hlabels _ a ha, hdone.trans hgrows, hsends⟩
  case made =>
    intro call hcall
    rcases hR.made call hcall with hpending | hturn
    · obtain ⟨a, p, op, hp, hop, hm, -, hturn⟩ := pendingCall_eq_some.mp hpending
      by_cases hresumed : ∃ env, event = .resume call.task env
      · obtain ⟨env, rfl⟩ := hresumed
        obtain ⟨done, -, hhistory⟩ := (asking calling caller).history_resume hp hop env
        refine .inr ?_
        rw [hhistory, hturn, List.length_append, List.length_cons]
        omega
      · obtain ⟨htasks, hhistory⟩ := (asking calling caller).step_of_ne
          (List.getElem?_eq_some_iff.mp hp).1 (not_exists.mp hresumed)
        exact .inl (pendingCall_eq_some.mpr
          ⟨a, p, op, htasks.trans hp, hop, hm, rfl, hturn.trans (congrArg _ hhistory.symm)⟩)
    · exact .inr (Nat.lt_of_lt_of_le hturn
        ((asking calling caller).prefix_history R.caller event call.task).length_le)
  case answered =>
    intro i n op x hn m hm
    have hlater : ∀ done : List (Performed Op Res ε), (∀ d ∈ done, caller.sync d.1) →
        ∀ k : Nat, done[k]? ≠ some ⟨op, .ok x⟩ := by
      intro done hdone k hk
      have hsync := hdone _ (List.mem_of_getElem? hk)
      rw [hasync op m hm] at hsync
      cases hsync
    obtain ⟨done, hdone, hhistory | ⟨a, p, op', env, rfl, hp, hop, hhistory⟩⟩ :=
      (asking calling caller).history_step R.caller event i
    · rw [hhistory, List.getElem?_append] at hn
      split at hn
      · exact hR.answered i n op x hn m hm
      · exact absurd hn (hlater done hdone _)
    · rw [hhistory, List.getElem?_append] at hn
      split at hn
      · exact hR.answered i n op x hn m hm
      next hlength =>
        cases hk : n - (R.caller.history i).length with
        | succ k =>
          rw [hk, List.getElem?_cons_succ] at hn
          exact absurd hn (hlater done hdone k)
        | zero =>
          rw [hk, List.getElem?_cons_zero] at hn
          obtain ⟨rfl, hr⟩ := Sigma.mk.inj (Option.some.inj hn)
          have hx := eq_of_heq hr
          simp only [asking] at hx
          split at hx
          · exact absurd hx (hfails a _ _ _ m hm x)
          next r hreply =>
            -- the reply is to this very call, since the task has made no other at this turn
            obtain ⟨t, ht⟩ := hevent i env r rfl hreply
            obtain ⟨call, q, pending, hq, hsettled, rfl, hpending, hturn⟩ := reply_eq_some ht
            have hmem := List.mem_of_getElem? hq
            have hlast : pending.turn = (R.caller.history call.task).length := by
              obtain ⟨_, _, _, -, -, -, -, hlast⟩ := pendingCall_eq_some.mp hpending
              exact hlast
            have hcall : pendingCall calling R call.task = some call :=
              (hR.made call (hR.delivered _ hmem)).resolve_right (by omega)
            obtain ⟨_, _, op, hp', hop', hm', -, -⟩ := pendingCall_eq_some.mp hcall
            obtain ⟨rfl, rfl⟩ := Prod.mk.inj (Option.some.inj (hp.symm.trans hp'))
            obtain rfl := Option.some.inj (hop.symm.trans hop')
            obtain rfl := Option.some.inj (hm.symm.trans hm')
            have hn' : n = call.turn := by omega
            exact ⟨q, r, hn' ▸ hmem, hsettled, hx⟩

theorem Linked.send (hR : R.Linked calling A Q Sends)
    (hsends : ∀ a done op m, A a done op → calling.message op = some m → Sends a done m) (i : Nat) :
    Linked calling A Q Sends { R with mail := R.mail ++ (pendingCall calling R i).toList } := by
  have hmail : ∀ call ∈ R.mail ++ (pendingCall calling R i).toList,
      call ∈ R.mail ∨ pendingCall calling R i = some call := fun call hcall =>
    (List.mem_append.mp hcall).imp_right Option.mem_toList.mp
  constructor
  case audited => exact hR.audited
  case delivered => exact fun delivery h => List.mem_append_left _ (hR.delivered delivery h)
  case answered => exact hR.answered
  case made =>
    intro call hcall
    rcases hmail call hcall with hcall | hpending
    · exact hR.made call hcall
    · obtain ⟨_, _, _, -, -, -, rfl, -⟩ := pendingCall_eq_some.mp hpending
      exact .inl hpending
  case sends =>
    intro call hcall
    rcases hmail call hcall with hcall | hpending
    · exact hR.sends call hcall
    · obtain ⟨a, p, op, hp, hop, hm, rfl, -⟩ := pendingCall_eq_some.mp hpending
      refine ⟨a, _, by simp [hp], List.prefix_rfl, ?_⟩
      have hmonitored := hR.audited.tasks call.task a p hp
      cases p with
      | pure b => cases hop
      | throw e => cases hop
      | await op' k =>
        obtain rfl := Option.some.inj hop
        exact hsends a _ op' _ hmonitored.1 hm

theorem Linked.serve (hR : R.Linked calling A Q Sends) {event : LoopEvent (Call Msg) ζ}
    (hevent : ∀ call env, event = .start call env → call ∈ R.mail) :
    Linked calling A Q Sends { R with callee := (answering callee).step R.callee event } := by
  constructor
  case audited => exact hR.audited
  case made => exact hR.made
  case sends => exact hR.sends
  case delivered =>
    intro delivery hdelivery
    have hlabel := List.mem_map_of_mem (f := Prod.fst) hdelivery
    change delivery.1 ∈ (EventLoop.step _ _ _ R.callee event).tasks.map Prod.fst at hlabel
    rw [labels_step] at hlabel
    rcases List.mem_append.mp hlabel with hlabel | hlabel
    · obtain ⟨before, hbefore, hsame⟩ := List.mem_map.mp hlabel
      exact hsame ▸ hR.delivered before hbefore
    · cases event with
      | start call env =>
        obtain hsame : delivery.1 = call := List.mem_singleton.mp hlabel
        exact hsame ▸ hevent call env rfl
      | resume t env => cases hlabel
  case answered =>
    intro i n op x hn m hm
    obtain ⟨q, r, hq, hr, hread⟩ := hR.answered i n op x hn m hm
    exact ⟨q, r, mem_step_of_settled hq (by rw [hr]; rfl) event, hr, hread⟩

theorem Linked.step (hR : R.Linked calling A Q Sends)
    (hbody : ∀ a, Monitored (fun _ _ => True) (A a) (caller.body a) (Q a) [])
    (hasync : ∀ op m, calling.message op = some m → caller.sync op = false)
    (hfails : ∀ a c op s m, calling.message op = some m → ∀ x, (caller.handle a c op s).1 ≠ .ok x)
    (hsends : ∀ a done op m, A a done op → calling.message op = some m → Sends a done m)
    (event : RemoteEvent ι χ ζ) :
    (step calling caller callee R event).Linked calling A Q Sends := by
  cases event with
  | turn event =>
    refine hR.turn hbody hasync hfails fun i env r hevent hr => ?_
    cases event with
    | start a env' => cases hevent
    | resume j env' =>
      obtain ⟨-, rfl⟩ := LoopEvent.resume.inj hevent
      cases hr
  | send i => exact hR.send hsends i
  | deliver n env =>
    simp only [Remote.step]
    split
    · exact hR
    next call hcall =>
      refine hR.serve fun call' env' hevent => ?_
      obtain ⟨rfl, -⟩ := LoopEvent.start.inj hevent
      exact List.mem_of_getElem? hcall
  | work t env => exact hR.serve fun call env' hevent => by cases hevent
  | answer t env =>
    simp only [Remote.step]
    split
    · exact hR
    next i r hreply =>
      refine hR.turn hbody hasync hfails fun j env' r' hevent hr => ?_
      obtain ⟨rfl, rfl⟩ := LoopEvent.resume.inj hevent
      obtain rfl := Option.some.inj hr
      exact ⟨t, hreply⟩

/-- The rule for callers under a monitor, which says what they may send. -/
theorem linked_run (hbody : ∀ a, Monitored (fun _ _ => True) (A a) (caller.body a) (Q a) [])
    (hasync : ∀ op m, calling.message op = some m → caller.sync op = false)
    (hfails : ∀ a c op s m, calling.message op = some m → ∀ x, (caller.handle a c op s).1 ≠ .ok x)
    (hsends : ∀ a done op m, A a done op → calling.message op = some m → Sends a done m)
    (s : σ) (t : τ) (events : List (RemoteEvent ι χ ζ)) :
    (run calling caller callee s t events).Linked calling A Q Sends := by
  have hfoldl : ∀ R : Remote ι Msg Op Res ε α σ Op' Res' ε' β τ, R.Linked calling A Q Sends →
      (events.foldl (Remote.step calling caller callee) R).Linked calling A Q Sends := by
    induction events with
    | nil => exact fun R hR => hR
    | cons event events ih => exact fun R hR => ih _ (hR.step hbody hasync hfails hsends event)
  refine hfoldl _ ⟨.idle trivial, ?_, ?_, ?_, ?_⟩
  all_goals simp [Remote.idle, EventLoop.idle, EventLoop.history]

/-- The callee's part of a run is a run of its own. -/
theorem exists_callee_run (s : σ) (t : τ) (events : List (RemoteEvent ι χ ζ)) :
    ∃ events' : List (LoopEvent (Call Msg) ζ), (run calling caller callee s t events).callee =
      events'.foldl (answering callee).step (.idle t) := by
  have hfoldl : ∀ R : Remote ι Msg Op Res ε α σ Op' Res' ε' β τ,
      ∃ events' : List (LoopEvent (Call Msg) ζ),
        (events.foldl (Remote.step calling caller callee) R).callee =
          events'.foldl (answering callee).step R.callee := by
    induction events with
    | nil => exact fun R => ⟨[], rfl⟩
    | cons event events ih =>
      intro R
      obtain ⟨events', hevents'⟩ := ih (Remote.step calling caller callee R event)
      obtain ⟨first, hfirst⟩ : ∃ first : List (LoopEvent (Call Msg) ζ),
          (Remote.step calling caller callee R event).callee =
            first.foldl (answering callee).step R.callee := by
        cases event with
        | turn event => exact ⟨[], rfl⟩
        | send i => exact ⟨[], rfl⟩
        | work t env => exact ⟨[.resume t env], rfl⟩
        | deliver n env =>
          simp only [Remote.step]
          split
          · exact ⟨[], rfl⟩
          next call _ => exact ⟨[.start call env], rfl⟩
        | answer t env =>
          simp only [Remote.step]
          split <;> exact ⟨[], rfl⟩
      refine ⟨first ++ events', ?_⟩
      rw [List.foldl_cons, hevents', hfirst, List.foldl_append]
  exact hfoldl _

end Run

end Remote
