import Ecommerce.Gateway.Proxy

/-! Overlapping calls of `ProxyService.forward` that share one discovery cache, turn by turn. -/

namespace Ecommerce

structure ProxyState where
  clock : Int
  discoveryCache : String → Option DiscoveryEntry

def ProxyState.set (s : ProxyState) (serviceName : String) (entry : DiscoveryEntry) : ProxyState :=
  { s with discoveryCache := Function.update s.discoveryCache serviceName (some entry) }

@[simp] theorem ProxyState.discoveryCache_set (s : ProxyState) (serviceName name : String)
    (entry : DiscoveryEntry) : (s.set serviceName entry).discoveryCache name =
      if name = serviceName then some entry else s.discoveryCache name :=
  Function.update_apply ..

structure ProxyMove where
  random : Chance
  health : Except ProxyError (List HealthEntry)
  axios : Except ProxyError Json

def ProxyMove.handle (c : ProxyMove) : Handler ProxyOp ProxyOp.Res ProxyError ProxyState
  | .dateNow, s => (.ok s.clock, s)
  | .random, s => (.ok c.random, s)
  | .cacheGet serviceName, s => (.ok (s.discoveryCache serviceName), s)
  | .cacheSet serviceName entry, s => (.ok (), s.set serviceName entry)
  | .health _ _, s => (c.health, s)
  | .axios _, s => (c.axios, s)

structure Outgoing where
  task : Nat
  time : Int
  op : ProxyOp

abbrev ProxyLoop := EventLoop ForwardCall ProxyOp ProxyOp.Res ProxyError Json ProxyState

structure Forwarding where
  loop : ProxyLoop
  issued : List Outgoing

/-- A turn, and how long after the previous one it comes. -/
structure ProxyEvent where
  delay : Nat
  turn : LoopEvent ForwardCall ProxyMove

def ProxyOp.service : ProxyOp → Option String
  | .health _ serviceName => some serviceName
  | _ => none

namespace Forwarding

open ProxyService

variable (config : ProxyConfig)

def idle (clock : Int) : Forwarding := ⟨.idle ⟨clock, fun _ => none⟩, []⟩

def clock (g : Forwarding) : Int := g.loop.state.clock

def cache (g : Forwarding) : String → Option DiscoveryEntry := g.loop.state.discoveryCache

def due (g : Forwarding) (delay : Nat) : ProxyLoop :=
  { g.loop with state := { g.loop.state with clock := g.clock + delay } }

def step (g : Forwarding) (e : ProxyEvent) : Forwarding where
  loop := (g.due e.delay).step ProxyOp.sync (fun _ => ProxyMove.handle) (forward config) e.turn
  issued := g.issued ++
    (((g.due e.delay).issued ProxyOp.sync (fun _ => ProxyMove.handle) (forward config) e.turn).map
      fun (i, op) => ⟨i, g.clock + e.delay, op⟩).toList

def sending (call : ForwardCall) (baseUrl : String) : ProxyM Json := sendTo call (pure baseUrl)

def querying (call : ForwardCall) (now : Int) : ProxyM Json :=
  sendTo call <| Prog.tryCatch
    (do
      let discovered ← consulDiscoverService config call.serviceName
      remember config call.serviceName call.fallbackUrl now discovered)
    fun _ => pure call.fallbackUrl

structure Quiet (r : Prog.Segment ProxyOp ProxyOp.Res ProxyError Json ProxyState)
    (rest : ProxyM Json) (s : ProxyState) : Prop where
  rest : r.rest = rest
  state : r.state = s
  performed : ∀ a ∈ r.performed, a.1.service = none

section Segment

variable {config} {call : ForwardCall} {env : Script ProxyMove} {s s' s'' : ProxyState}
  {rest : ProxyM Json}

theorem exists_chosen {targets : List Target} (h : targets ≠ []) (chance : Chance) :
    ∃ target ∈ targets, targets[⌊chance.value * targets.length⌋₊]? = some target := by
  have hpos : (0 : Rat) < targets.length := by
    exact_mod_cast List.length_pos_iff.mpr h
  have hlt : ⌊chance.value * targets.length⌋₊ < targets.length := by
    rw [Nat.floor_lt (mul_nonneg chance.nonneg hpos.le)]
    calc chance.value * targets.length < 1 * targets.length :=
          mul_lt_mul_of_pos_right chance.lt_one hpos
      _ = targets.length := one_mul _
  exact ⟨_, List.getElem_mem hlt, List.getElem?_eq_getElem hlt⟩

-- a program around another one, which passes on what that one awaits
variable {C : ProxyM String → ProxyM Json}
  (hC : ∀ op k, C (.await op k) = .await op fun r => C (k r))

include hC in
theorem Quiet.perform {op : ProxyOp} (hop : op.sync) {r : op.Res}
    (hr : (env 0).handle op s = (.ok r, s')) {f : op.Res → ProxyM String}
    (h : Quiet ((C (f r)).segment ProxyOp.sync ProxyMove.handle env.tail s') rest s'') :
    Quiet ((C (.perform op >>= f)).segment ProxyOp.sync ProxyMove.handle env s) rest s'' := by
  have hturn : (C (.perform op >>= f)).segment ProxyOp.sync ProxyMove.handle env s =
      { (C (f r)).segment ProxyOp.sync ProxyMove.handle env.tail s' with
        performed := ⟨op, .ok r⟩ ::
          ((C (f r)).segment ProxyOp.sync ProxyMove.handle env.tail s').performed } := by
    change Prog.segment _ _ _ (C (.await op fun r => (Prog.settle r).bind f)) s = _
    rw [hC, Prog.segment_await_sync _ _ _ hop, Prog.resume, hr]
    rfl
  have hservice : op.service = none := by
    cases op <;> first | rfl | cases hop
  rw [hturn]
  exact ⟨h.rest, h.state, List.forall_mem_cons.mpr ⟨hservice, h.performed⟩⟩

theorem quiet_sending {baseUrl : String} :
    Quiet ((sending call baseUrl).segment ProxyOp.sync ProxyMove.handle env s)
      (sending call baseUrl) s :=
  ⟨rfl, rfl, fun _ ha => nomatch ha⟩

include hC in
theorem Quiet.choose (env : Script ProxyMove) {targets : List Target} (h : targets ≠ [])
    (hrest : ∀ baseUrl, C (pure baseUrl) = sending call baseUrl) :
    ∃ target ∈ targets, Quiet ((C (choose targets)).segment ProxyOp.sync ProxyMove.handle env s)
      (sending call target.baseUrl) s := by
  obtain ⟨target, htarget, hget⟩ := exists_chosen h (env 0).random
  refine ⟨target, htarget, Quiet.perform hC rfl rfl ?_⟩
  rw [hget, hrest]
  exact quiet_sending

inductive Answered (call : ForwardCall) (targets : List Target) : ProxyM Json → Prop
  | target (target : Target) (h : target ∈ targets) :
    Answered call targets (sending call target.baseUrl)
  | fallback (h : targets = []) : Answered call targets (sending call call.fallbackUrl)

theorem quiet_discovered (config : ProxyConfig) (call : ForwardCall) (env : Script ProxyMove)
    (s : ProxyState) (now : Int) (discovered : List DiscoveredService) :
    ∃ rest, Answered call (discovered.map DiscoveredService.target) rest ∧ Quiet
      ((sendTo call (Prog.tryCatch
          (remember config call.serviceName call.fallbackUrl now discovered)
          fun _ => pure call.fallbackUrl)).segment ProxyOp.sync ProxyMove.handle env s)
      rest
      (s.set call.serviceName
        ⟨now + config.discoveryTtlMs, discovered.map DiscoveredService.target⟩) := by
  let C (p : ProxyM String) := sendTo call (Prog.tryCatch p fun _ => pure call.fallbackUrl)
  have hC : ∀ op k, C (.await op k) = .await op fun r => C (k r) := fun _ _ => rfl
  by_cases htargets : discovered.map DiscoveredService.target = []
  · refine ⟨_, .fallback htargets, Quiet.perform hC rfl rfl ?_⟩
    rw [if_neg (by simp [htargets])]
    exact quiet_sending
  · obtain ⟨target, htarget, hquiet⟩ := Quiet.choose hC env.tail htargets fun _ => rfl
    refine ⟨_, .target target htarget, Quiet.perform hC rfl rfl ?_⟩
    rw [if_pos (List.length_pos_iff.mpr htargets)]
    exact hquiet

theorem quiet_forward {p : ProxyM String}
    (hp : (match (s.discoveryCache call.serviceName).filter (·.usable s.clock) with
      | some cached => choose cached.targets
      | none => Prog.tryCatch
        (do
          let discovered ← consulDiscoverService config call.serviceName
          remember config call.serviceName call.fallbackUrl s.clock discovered)
        fun _ => pure call.fallbackUrl) = p)
    (h : Quiet ((sendTo call p).segment ProxyOp.sync ProxyMove.handle env.tail.tail s) rest s') :
    Quiet ((forward config call).segment ProxyOp.sync ProxyMove.handle env s) rest s' := by
  subst hp
  exact Quiet.perform (fun _ _ => rfl) rfl rfl (Quiet.perform (fun _ _ => rfl) rfl rfl h)

inductive Begins (config : ProxyConfig) (call : ForwardCall) (s : ProxyState) :
    ProxyM Json → ProxyState → Prop
  | cached (entry : DiscoveryEntry) (target : Target)
    (hentry : (s.discoveryCache call.serviceName).filter (·.usable s.clock) = some entry)
    (htarget : target ∈ entry.targets) : Begins config call s (sending call target.baseUrl) s
  | querying (consulHttpAddr : String)
    (hnone : (s.discoveryCache call.serviceName).filter (·.usable s.clock) = none)
    (haddr : truthy config.consulHttpAddr = some consulHttpAddr) :
    Begins config call s (querying config call s.clock) s
  | unconfigured
    (hnone : (s.discoveryCache call.serviceName).filter (·.usable s.clock) = none)
    (haddr : truthy config.consulHttpAddr = none) :
    Begins config call s (sending call call.fallbackUrl)
      (s.set call.serviceName ⟨s.clock + config.discoveryTtlMs, []⟩)

theorem querying_eq {consulHttpAddr : String}
    (h : truthy config.consulHttpAddr = some consulHttpAddr) (now : Int) : querying config call now =
      .await (.health consulHttpAddr call.serviceName) fun r =>
        sendTo call (Prog.tryCatch
          ((Prog.settle r >>= fun res => pure (res.map HealthEntry.discovered)) >>=
            remember config call.serviceName call.fallbackUrl now)
          fun _ => pure call.fallbackUrl) := by
  rw [querying, consulDiscoverService, h]
  rfl

theorem exists_begins (config : ProxyConfig) (call : ForwardCall) (env : Script ProxyMove)
    (s : ProxyState) : ∃ rest s', Begins config call s rest s' ∧
      Quiet ((forward config call).segment ProxyOp.sync ProxyMove.handle env s) rest s' := by
  cases hentry : (s.discoveryCache call.serviceName).filter (·.usable s.clock) with
  | some entry =>
    have htargets : entry.targets ≠ [] := by
      intro hnil
      obtain ⟨-, husable⟩ := Option.filter_eq_some_iff.mp hentry
      simp [DiscoveryEntry.usable, hnil] at husable
    obtain ⟨target, htarget, hquiet⟩ :=
      Quiet.choose (C := sendTo call) (fun _ _ => rfl) env.tail.tail htargets fun _ => rfl
    exact ⟨_, _, .cached entry target hentry htarget, quiet_forward (by rw [hentry]) hquiet⟩
  | none =>
    cases haddr : truthy config.consulHttpAddr with
    | some consulHttpAddr =>
      refine ⟨_, _, .querying consulHttpAddr hentry haddr, quiet_forward (by rw [hentry]) ?_⟩
      change Quiet (Prog.segment _ _ _ (querying config call s.clock) s) _ _
      rw [querying_eq haddr, Prog.segment_await_async _ _ _ rfl]
      exact ⟨rfl, rfl, fun _ ha => nomatch ha⟩
    | none =>
      refine ⟨_, _, .unconfigured hentry haddr, quiet_forward (by rw [hentry]) ?_⟩
      rw [consulDiscoverService, haddr]
      obtain ⟨rest, hanswered, hquiet⟩ := quiet_discovered config call env.tail.tail s s.clock []
      cases hanswered with
      | target target h => cases h
      | fallback h => exact hquiet

theorem resume_querying_error {consulHttpAddr : String}
    (haddr : truthy config.consulHttpAddr = some consulHttpAddr) (now : Int) {error : ProxyError}
    (henv : (env 0).health = .error error) :
    (querying config call now).resume ProxyOp.sync ProxyMove.handle env s =
      ⟨sending call call.fallbackUrl, s,
        [⟨.health consulHttpAddr call.serviceName, .error error⟩]⟩ := by
  rw [querying_eq haddr, Prog.resume, ProxyMove.handle, henv]
  rfl

theorem resume_querying_ok {consulHttpAddr : String}
    (haddr : truthy config.consulHttpAddr = some consulHttpAddr) (now : Int)
    {entries : List HealthEntry} (henv : (env 0).health = .ok entries) :
    ∃ rest performed, Answered call (entries.map HealthEntry.target) rest ∧
      (∀ a ∈ performed, a.1.service = none) ∧
      (querying config call now).resume ProxyOp.sync ProxyMove.handle env s =
        ⟨rest, s.set call.serviceName
            ⟨now + config.discoveryTtlMs, entries.map HealthEntry.target⟩,
          ⟨.health consulHttpAddr call.serviceName, .ok entries⟩ :: performed⟩ := by
  obtain ⟨rest, hanswered, hquiet⟩ :=
    quiet_discovered config call env.tail s now (entries.map HealthEntry.discovered)
  rw [List.map_map] at hanswered hquiet
  refine ⟨rest, _, hanswered, hquiet.performed, ?_⟩
  rw [querying_eq haddr, Prog.resume, ProxyMove.handle, henv, ← hquiet.rest]
  congr 1
  exact hquiet.state

end Segment

def answerOf (serviceName : String) :
    Nat × Performed ProxyOp ProxyOp.Res ProxyError → Option (Nat × List HealthEntry)
  | (i, ⟨.health _ name, .ok entries⟩) => if name = serviceName then some (i, entries) else none
  | _ => none

def lastAnswer (g : Forwarding) (serviceName : String) : Option (Nat × List HealthEntry) :=
  (g.loop.log.filterMap (answerOf serviceName)).getLast?

def Asks (g : Forwarding) (i : Nat) (t : Int) (serviceName : String) : Prop :=
  ∃ consulHttpAddr, ⟨i, t, .health consulHttpAddr serviceName⟩ ∈ g.issued

def Gets (g : Forwarding) (i : Nat) (serviceName : String) (entries : List HealthEntry) : Prop :=
  ∃ consulHttpAddr, (i, ⟨.health consulHttpAddr serviceName, .ok entries⟩) ∈ g.loop.log

structure Turned (g g' : Forwarding) (i : Nat) (call : ForwardCall) (rest : ProxyM Json) : Prop where
  clock : g.clock ≤ g'.clock
  task : g'.loop.tasks[i]? = some (call, rest)
  others : ∀ j, j ≠ i → g'.loop.tasks[j]? = g.loop.tasks[j]?
  label : ∀ call' p, g.loop.tasks[i]? = some (call', p) → call' = call
  length : g.loop.tasks.length ≤ g'.loop.tasks.length
  log : g.loop.log ⊆ g'.loop.log
  issued : g'.issued = g.issued ++ (rest.awaited.map fun op => ⟨i, g'.clock, op⟩).toList

section Turn

variable {config} {g g' : Forwarding} {i : Nat} {call : ForwardCall} {env : Script ProxyMove}
  {delay : Nat} {rest : ProxyM Json}

theorem Turned.subset (h : Turned g g' i call rest) : g.issued ⊆ g'.issued := by
  rw [h.issued]
  exact List.subset_append_left _ _

theorem Turned.asks (h : Turned g g' i call rest) {j : Nat} {t : Int} {serviceName : String}
    (hasks : g.Asks j t serviceName) : g'.Asks j t serviceName := by
  obtain ⟨consulHttpAddr, hmem⟩ := hasks
  exact ⟨consulHttpAddr, h.subset hmem⟩

theorem Turned.gets (h : Turned g g' i call rest) {j : Nat} {serviceName : String}
    {entries : List HealthEntry} (hgets : g.Gets j serviceName entries) :
    g'.Gets j serviceName entries := by
  obtain ⟨consulHttpAddr, hmem⟩ := hgets
  exact ⟨consulHttpAddr, h.log hmem⟩

theorem Turned.quiet (h : Turned g g' i call rest)
    (hrest : ∀ op, rest.awaited = some op → op.service = none) :
    ∃ ops, g'.issued = g.issued ++ ops ∧ ∀ x ∈ ops, x.op.service = none := by
  refine ⟨_, h.issued, fun x hx => ?_⟩
  obtain ⟨op, hop, rfl⟩ := Option.map_eq_some_iff.mp (Option.mem_toList.mp hx)
  exact hrest op hop

theorem awaited_sending (call : ForwardCall) (baseUrl : String) :
    ∀ op, (sending call baseUrl).awaited = some op → op.service = none := by
  rintro op ⟨⟩
  rfl

theorem filterMap_answerOf {performed : List (Performed ProxyOp ProxyOp.Res ProxyError)}
    (h : ∀ a ∈ performed, a.1.service = none) (serviceName : String) :
    (performed.map fun a => (i, a)).filterMap (answerOf serviceName) = [] := by
  rw [List.filterMap_eq_nil_iff]
  intro entry hentry
  obtain ⟨⟨op, r⟩, ha, rfl⟩ := List.mem_map.mp hentry
  cases op with
  | health _ name => cases h _ ha
  | _ => rfl

theorem lastAnswer_of_quiet {performed : List (Performed ProxyOp ProxyOp.Res ProxyError)}
    (hlog : g'.loop.log = g.loop.record i performed) (h : ∀ a ∈ performed, a.1.service = none)
    (serviceName : String) : g'.lastAnswer serviceName = g.lastAnswer serviceName := by
  rw [lastAnswer, hlog, EventLoop.record, List.filterMap_append, filterMap_answerOf h,
    List.append_nil, lastAnswer]

theorem lastAnswer_of_answer {performed : List (Performed ProxyOp ProxyOp.Res ProxyError)}
    {consulHttpAddr name : String} {entries : List HealthEntry}
    (hlog : g'.loop.log =
      g.loop.record i (⟨.health consulHttpAddr name, .ok entries⟩ :: performed))
    (h : ∀ a ∈ performed, a.1.service = none) (serviceName : String) :
    g'.lastAnswer serviceName =
      if name = serviceName then some (i, entries) else g.lastAnswer serviceName := by
  rw [lastAnswer, hlog, EventLoop.record, List.filterMap_append, List.map_cons, List.filterMap_cons,
    filterMap_answerOf h, answerOf]
  by_cases hname : name = serviceName
  · simp [hname]
  · simp [hname, lastAnswer]

theorem lastAnswer_of_error {consulHttpAddr name : String} {error : ProxyError}
    (hlog : g'.loop.log = g.loop.record i [⟨.health consulHttpAddr name, .error error⟩])
    (serviceName : String) : g'.lastAnswer serviceName = g.lastAnswer serviceName := by
  rw [lastAnswer, hlog, EventLoop.record, List.filterMap_append]
  simp [answerOf, lastAnswer]

theorem Begins.clock {s s' : ProxyState} (h : Begins config call s rest s') : s'.clock = s.clock := by
  cases h <;> rfl

theorem clock_start (config : ProxyConfig) (g : Forwarding) (delay : Nat) (call : ForwardCall)
    (env : Script ProxyMove) :
    (g.step config ⟨delay, .start call env⟩).clock = g.clock + delay := by
  obtain ⟨rest, s', hbegins, hquiet⟩ := exists_begins config call env (g.due delay).state
  rw [← hquiet.state] at hbegins
  exact hbegins.clock

theorem exists_start (config : ProxyConfig) (g : Forwarding) (delay : Nat) (call : ForwardCall)
    (env : Script ProxyMove) :
    ∃ rest s', Begins config call (g.due delay).state rest s' ∧
      Turned g (g.step config ⟨delay, .start call env⟩) g.loop.tasks.length call rest ∧
      (g.step config ⟨delay, .start call env⟩).loop.state = s' ∧
      ∀ serviceName, (g.step config ⟨delay, .start call env⟩).lastAnswer serviceName =
        g.lastAnswer serviceName := by
  obtain ⟨rest, s', hbegins, hrest, hstate, hquiet⟩ :=
    exists_begins config call env (g.due delay).state
  have hclock := clock_start config g delay call env
  refine ⟨rest, s', hbegins, ⟨?_, ?_, ?_, ?_, ?_, ?_, ?_⟩, hstate, fun serviceName => ?_⟩
  · rw [hclock]
    omega
  · simp [step, EventLoop.step, due, ← hrest]
  · intro j hj
    simp only [step, EventLoop.step, due]
    rcases Nat.lt_or_gt_of_ne hj with hlt | hgt
    · rw [List.getElem?_append_left hlt]
    · rw [List.getElem?_eq_none (by simp; omega), List.getElem?_eq_none (by omega)]
  · intro call' p hnone
    rw [List.getElem?_eq_none (le_refl _)] at hnone
    cases hnone
  · simp [step, EventLoop.step, due]
  · exact List.subset_append_left _ _
  · simp only [hclock, ← hrest]
    simp [step, EventLoop.issued, due, Function.comp_def]
  · exact lastAnswer_of_quiet rfl hquiet serviceName

theorem gets_of_lastAnswer {serviceName : String} {entries : List HealthEntry}
    (h : g.lastAnswer serviceName = some (i, entries)) : g.Gets i serviceName entries := by
  obtain ⟨⟨j, op, r⟩, hmem, hanswer⟩ := List.mem_filterMap.mp (List.mem_of_getLast? h)
  cases op with
  | health consulHttpAddr name =>
    cases r with
    | ok entries' =>
      rw [answerOf, Option.ite_none_right_eq_some] at hanswer
      obtain ⟨rfl, heq⟩ := hanswer
      obtain ⟨rfl, rfl⟩ := Prod.mk.inj (Option.some.inj heq)
      exact ⟨consulHttpAddr, hmem⟩
    | error error => cases hanswer
  | _ => cases hanswer

theorem step_resume_of_settled (hi : ∀ call p, g.loop.tasks[i]? = some (call, p) →
    p.settlement.isSome) :
    g.step config ⟨delay, .resume i env⟩ = ⟨g.due delay, g.issued⟩ := by
  have hissued : (g.due delay).issued ProxyOp.sync (fun _ => ProxyMove.handle) (forward config)
      (.resume i env) = none := by
    simp only [EventLoop.issued, due]
    cases htask : g.loop.tasks[i]? with
    | none => rfl
    | some task =>
      obtain ⟨call, p⟩ := task
      have hsettled := hi call p htask
      simp only [Prog.resume_settled _ _ _ hsettled]
      cases p with
      | await op k => cases hsettled
      | _ => rfl
  have hloop : (g.due delay).step ProxyOp.sync (fun _ => ProxyMove.handle) (forward config)
      (.resume i env) = g.due delay := EventLoop.step_resume_of_settled env hi
  simp only [step, hloop, hissued]
  simp

variable (config) in
theorem turned_resume {p : ProxyM Json} {s' : ProxyState}
    {performed : List (Performed ProxyOp ProxyOp.Res ProxyError)}
    (htask : g.loop.tasks[i]? = some (call, p))
    (hturn : p.resume ProxyOp.sync ProxyMove.handle env (g.due delay).state = ⟨rest, s', performed⟩)
    (hclock : s'.clock = g.clock + delay) :
    Turned g (g.step config ⟨delay, .resume i env⟩) i call rest ∧
      (g.step config ⟨delay, .resume i env⟩).loop.state = s' ∧
      (g.step config ⟨delay, .resume i env⟩).loop.log = g.loop.record i performed := by
  have hlt : i < g.loop.tasks.length := (List.getElem?_eq_some_iff.mp htask).1
  have htask' : (g.due delay).tasks[i]? = some (call, p) := htask
  have hloop : (g.step config ⟨delay, .resume i env⟩).loop =
      ⟨g.loop.tasks.set i (call, rest), s', g.loop.record i performed⟩ := by
    simp only [step, EventLoop.step, htask', hturn]
    rfl
  have hissued : (g.step config ⟨delay, .resume i env⟩).issued =
      g.issued ++ (rest.awaited.map fun op => ⟨i, g.clock + delay, op⟩).toList := by
    simp only [step, EventLoop.issued, htask', hturn, Option.map_map]
    rfl
  have hclock' : (g.step config ⟨delay, .resume i env⟩).clock = g.clock + delay := by
    rw [clock, hloop]
    exact hclock
  refine ⟨⟨?_, ?_, fun j hj => ?_, fun call' q hq => ?_, ?_, ?_, ?_⟩, ?_, ?_⟩
  · rw [hclock']
    omega
  · rw [hloop]
    exact List.getElem?_set_self hlt
  · rw [hloop]
    exact List.getElem?_set_ne hj.symm
  · exact (Prod.mk.inj (Option.some.inj (hq.symm.trans htask))).1
  · rw [hloop]
    simp
  · rw [hloop]
    exact List.subset_append_left _ _
  · rw [hissued, hclock']
  · rw [hloop]
  · rw [hloop]

theorem exists_resume_sending (call : ForwardCall) (baseUrl : String) (env : Script ProxyMove)
    (s : ProxyState) : ∃ rest : ProxyM Json, rest.settlement.isSome ∧
      (sending call baseUrl).resume ProxyOp.sync ProxyMove.handle env s =
        ⟨rest, s, [⟨.axios (requestConfig call baseUrl), (env 0).axios⟩]⟩ := by
  have hturn : (sending call baseUrl).resume ProxyOp.sync ProxyMove.handle env s =
      let p : ProxyM Json := Prog.tryCatch (Prog.settle (env 0).axios)
        fun error => throw (serviceError error)
      let rest := p.segment ProxyOp.sync ProxyMove.handle env.tail s
      { rest with performed :=
          ⟨.axios (requestConfig call baseUrl), (env 0).axios⟩ :: rest.performed } := rfl
  rw [hturn]
  cases (env 0).axios with
  | ok response => exact ⟨.pure response, rfl, rfl⟩
  | error error => exact ⟨.throw (serviceError error), rfl, rfl⟩

end Turn

end Forwarding

end Ecommerce
