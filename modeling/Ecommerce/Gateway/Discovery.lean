import Ecommerce.Gateway.Forwarding
import Ecommerce.Lib.Runs

namespace Ecommerce

namespace Forwarding

open ProxyService

variable (config : ProxyConfig)

def Fails (g : Forwarding) (i : Nat) (serviceName : String) : Prop :=
  ∃ consulHttpAddr error, (i, ⟨.health consulHttpAddr serviceName, .error error⟩) ∈ g.loop.log

/-- Where a call may send its request at `t`: to its fallback, after Consul had nothing for it, or
to a target of an answer that it has asked for itself or that has been asked for lately. -/
def Sourced (g : Forwarding) (i : Nat) (call : ForwardCall) (t : Int) (baseUrl : String) : Prop :=
  (baseUrl = call.fallbackUrl ∧
    (truthy config.consulHttpAddr = none ∨ g.Gets i call.serviceName [] ∨
      g.Fails i call.serviceName)) ∨
  ∃ j t' entries entry, g.Asks j t' call.serviceName ∧ g.Gets j call.serviceName entries ∧
    entry ∈ entries ∧ baseUrl = entry.target.baseUrl ∧
    (j = i ∨ t' ≤ t ∧ t - t' < config.discoveryTtlMs)

inductive Phase (g : Forwarding) (i : Nat) (call : ForwardCall) : ProxyM Json → Prop
  | querying (consulHttpAddr : String) (now : Int)
    (haddr : truthy config.consulHttpAddr = some consulHttpAddr)
    (hasks : ⟨i, now, .health consulHttpAddr call.serviceName⟩ ∈ g.issued) :
    Phase g i call (querying config call now)
  | sending (baseUrl : String) : Phase g i call (sending call baseUrl)
  | settled (p : ProxyM Json) (h : p.settlement.isSome) : Phase g i call p

/-- The cache holds the last answer, until a TTL after its question; before there is one, it names
no target. -/
structure Remembered (g : Forwarding) (serviceName : String) : Prop where
  unasked : g.lastAnswer serviceName = none →
    ∀ entry, g.cache serviceName = some entry → entry.targets = []
  answered : ∀ i entries, g.lastAnswer serviceName = some (i, entries) → ∃ t,
    g.Asks i t serviceName ∧ g.cache serviceName =
      some ⟨t + config.discoveryTtlMs, entries.map HealthEntry.target⟩

def Justified (g : Forwarding) (x : Outgoing) : Prop :=
  match x.op with
  | .axios request => ∃ call p baseUrl, g.loop.tasks[x.task]? = some (call, p) ∧
      request = requestConfig call baseUrl ∧ g.Sourced config x.task call x.time baseUrl
  | .health consulHttpAddr _ => truthy config.consulHttpAddr = some consulHttpAddr
  | _ => True

structure Inv (g : Forwarding) : Prop where
  task_lt : ∀ x ∈ g.issued, x.task < g.loop.tasks.length
  time_le : ∀ x ∈ g.issued, x.time ≤ g.clock
  justified : ∀ x ∈ g.issued, g.Justified config x
  unique : ∀ x ∈ g.issued, ∀ y ∈ g.issued, x.op.service ≠ none → y.op.service ≠ none →
    x.task = y.task → x = y
  phase : ∀ (i : Nat) (call : ForwardCall) (p : ProxyM Json),
    g.loop.tasks[i]? = some (call, p) → g.Phase config i call p
  remembered : ∀ serviceName, g.Remembered config serviceName

section Turned

variable {config} {g g' : Forwarding} {i : Nat} {call : ForwardCall} {rest : ProxyM Json}

theorem Turned.sourced (h : Turned g g' i call rest) {j : Nat} {call' : ForwardCall} {t : Int}
    {baseUrl : String} (hsourced : g.Sourced config j call' t baseUrl) :
    g'.Sourced config j call' t baseUrl := by
  rcases hsourced with ⟨hbase, haddr | hgets | ⟨consulHttpAddr, error, hmem⟩⟩ |
    ⟨j', t', entries, entry, hasks, hgets, hrest⟩
  · exact .inl ⟨hbase, .inl haddr⟩
  · exact .inl ⟨hbase, .inr (.inl (h.gets hgets))⟩
  · exact .inl ⟨hbase, .inr (.inr ⟨consulHttpAddr, error, h.log hmem⟩)⟩
  · exact .inr ⟨j', t', entries, entry, h.asks hasks, h.gets hgets, hrest⟩

theorem Phase.mono (h : g.issued ⊆ g'.issued) {p : ProxyM Json} (hphase : g.Phase config i call p) :
    g'.Phase config i call p := by
  cases hphase with
  | querying consulHttpAddr now haddr hasks => exact .querying consulHttpAddr now haddr (h hasks)
  | sending baseUrl => exact .sending baseUrl
  | settled _ hsettled => exact .settled p hsettled

theorem Turned.justified (h : Turned g g' i call rest) {x : Outgoing}
    (hx : g.Justified config x) : g'.Justified config x := by
  obtain ⟨j, t, op⟩ := x
  cases op with
  | axios request =>
    obtain ⟨call', p, baseUrl, htask, hrequest, hsourced⟩ := hx
    by_cases hj : j = i
    · subst hj
      obtain rfl := h.label call' p htask
      exact ⟨call', rest, baseUrl, h.task, hrequest, h.sourced hsourced⟩
    · exact ⟨call', p, baseUrl, (h.others j hj).trans htask, hrequest, h.sourced hsourced⟩
  | health consulHttpAddr serviceName => exact hx
  | _ => trivial

theorem Inv.turned (hg : g.Inv config) (h : Turned g g' i call rest)
    (hphase : g'.Phase config i call rest)
    (hjustified : ∀ op, rest.awaited = some op → g'.Justified config ⟨i, g'.clock, op⟩)
    (hfirst : ∀ op, rest.awaited = some op → op.service ≠ none → g.loop.tasks.length ≤ i)
    (hremembered : ∀ serviceName, g'.Remembered config serviceName) : g'.Inv config := by
  have hlt : i < g'.loop.tasks.length := (List.getElem?_eq_some_iff.mp h.task).1
  have hissued : ∀ x ∈ g'.issued, x ∈ g.issued ∨
      x.task = i ∧ x.time = g'.clock ∧ rest.awaited = some x.op := by
    intro x hx
    rw [h.issued, List.mem_append, Option.mem_toList, Option.map_eq_some_iff] at hx
    rcases hx with hx | ⟨op, hop, rfl⟩
    · exact .inl hx
    · exact .inr ⟨rfl, rfl, hop⟩
  refine ⟨fun x hx => ?_, fun x hx => ?_, fun x hx => ?_, fun x hx y hy hxs hys hxy => ?_,
    fun j call' p hj => ?_, hremembered⟩
  · rcases hissued x hx with hx | ⟨htask, -, -⟩
    · exact (hg.task_lt x hx).trans_le h.length
    · exact htask ▸ hlt
  · rcases hissued x hx with hx | ⟨-, htime, -⟩
    · exact (hg.time_le x hx).trans h.clock
    · exact htime.le
  · rcases hissued x hx with hx | ⟨rfl, htime, hop⟩
    · exact h.justified (hg.justified x hx)
    · have hnew := hjustified x.op hop
      rwa [← htime] at hnew
  · rcases hissued x hx with hxold | ⟨hxi, hxt, hxop⟩ <;>
      rcases hissued y hy with hyold | ⟨hyi, hyt, hyop⟩
    · exact hg.unique x hxold y hyold hxs hys hxy
    · have hx_lt := hg.task_lt x hxold
      have hle := hfirst _ hyop hys
      omega
    · have hy_lt := hg.task_lt y hyold
      have hle := hfirst _ hxop hxs
      omega
    · obtain ⟨task, time, op⟩ := x
      obtain ⟨task', time', op'⟩ := y
      obtain rfl : op = op' := Option.some.inj (hxop.symm.trans hyop)
      simp_all
  · by_cases hji : j = i
    · subst hji
      obtain ⟨rfl, rfl⟩ : call = call' ∧ rest = p := by simpa [h.task] using hj
      exact hphase
    · rw [h.others j hji] at hj
      exact (hg.phase j call' p hj).mono h.subset

end Turned

section Step

variable {config} {g g' : Forwarding} {i : Nat} {call : ForwardCall} {env : Script ProxyMove}
  {delay : Nat} {rest : ProxyM Json}

theorem Remembered.congr {serviceName : String} (hg : g.Remembered config serviceName)
    (hissued : g.issued ⊆ g'.issued) (hlast : g'.lastAnswer serviceName = g.lastAnswer serviceName)
    (hcache : g'.cache serviceName = g.cache serviceName) : g'.Remembered config serviceName := by
  refine ⟨fun hnone entry hentry => ?_, fun i entries hsome => ?_⟩
  · exact hg.unasked (hlast ▸ hnone) entry (hcache ▸ hentry)
  · obtain ⟨t, ⟨consulHttpAddr, hasks⟩, hentry⟩ := hg.answered i entries (hlast ▸ hsome)
    exact ⟨t, ⟨consulHttpAddr, hissued hasks⟩, hcache.trans hentry⟩

theorem Remembered.usable {serviceName : String} (hg : g.Remembered config serviceName) {now : Int}
    {entry : DiscoveryEntry} (hentry : (g.cache serviceName).filter (·.usable now) = some entry) :
    ∃ i t entries, g.lastAnswer serviceName = some (i, entries) ∧ g.Asks i t serviceName ∧
      entry.targets = entries.map HealthEntry.target ∧ now < t + config.discoveryTtlMs := by
  obtain ⟨hcache, husable⟩ := Option.filter_eq_some_iff.mp hentry
  obtain ⟨hfresh, htargets⟩ : now < entry.expiresAt ∧ 0 < entry.targets.length := by
    simpa [DiscoveryEntry.usable] using husable
  cases hlast : g.lastAnswer serviceName with
  | none =>
    rw [hg.unasked hlast entry hcache] at htargets
    cases htargets
  | some answer =>
    obtain ⟨i, entries⟩ := answer
    obtain ⟨t, hasks, hcache'⟩ := hg.answered i entries hlast
    obtain rfl := Option.some.inj (hcache.symm.trans hcache')
    exact ⟨i, t, entries, rfl, hasks, rfl, hfresh⟩

theorem Inv.time_le_of_asks (hg : g.Inv config) {t : Int} {serviceName : String}
    (h : g.Asks i t serviceName) : t ≤ g.clock := by
  obtain ⟨consulHttpAddr, hmem⟩ := h
  exact hg.time_le _ hmem

theorem Inv.configured (hg : g.Inv config) {t : Int} {serviceName : String}
    (h : g.Asks i t serviceName) : truthy config.consulHttpAddr ≠ none := by
  obtain ⟨consulHttpAddr, hmem⟩ := h
  have haddr : truthy config.consulHttpAddr = some consulHttpAddr := hg.justified _ hmem
  rw [haddr]
  exact Option.some_ne_none _

theorem Inv.sourced_of_usable (hg : g.Inv config) {now : Int} (hnow : g.clock ≤ now)
    {entry : DiscoveryEntry} {target : Target}
    (hentry : (g.cache call.serviceName).filter (·.usable now) = some entry)
    (htarget : target ∈ entry.targets) : g.Sourced config i call now target.baseUrl := by
  obtain ⟨j, t, entries, hanswer, hasks, htargets, hfresh⟩ :=
    (hg.remembered call.serviceName).usable hentry
  rw [htargets] at htarget
  obtain ⟨entry', hentry', rfl⟩ := List.mem_map.mp htarget
  have hle := hg.time_le_of_asks hasks
  exact .inr ⟨j, t, entries, entry', hasks, gets_of_lastAnswer hanswer, hentry', rfl,
    .inr ⟨by omega, by omega⟩⟩

theorem Inv.remembered_of_unconfigured (hg : g.Inv config)
    (haddr : truthy config.consulHttpAddr = none) {name : String} {expiresAt : Int}
    (hcache : ∀ serviceName, g'.cache serviceName =
      if serviceName = name then some ⟨expiresAt, []⟩ else g.cache serviceName)
    (hlast : ∀ serviceName, g'.lastAnswer serviceName = g.lastAnswer serviceName)
    (serviceName : String) : g'.Remembered config serviceName := by
  refine ⟨fun hnone entry hentry => ?_, fun i entries hsome => ?_⟩
  · rw [hcache] at hentry
    split_ifs at hentry with hname
    · obtain rfl := Option.some.inj hentry
      rfl
    · rw [hlast] at hnone
      exact (hg.remembered serviceName).unasked hnone entry hentry
  · rw [hlast] at hsome
    obtain ⟨t, hasks, -⟩ := (hg.remembered serviceName).answered i entries hsome
    exact absurd haddr (hg.configured hasks)

theorem Inv.start (hg : g.Inv config) (delay : Nat) (call : ForwardCall) (env : Script ProxyMove) :
    (g.step config ⟨delay, .start call env⟩).Inv config := by
  obtain ⟨rest, s', hbegins, hturned, hstate, hlast⟩ := exists_start config g delay call env
  have hclock := clock_start config g delay call env
  have hkept (hs : s' = (g.due delay).state) (serviceName : String) :
      (g.step config ⟨delay, .start call env⟩).Remembered config serviceName := by
    apply (hg.remembered serviceName).congr hturned.subset (hlast serviceName)
    rw [cache, hstate, hs]
    rfl
  cases hbegins with
  | cached entry target hentry htarget =>
    refine hg.turned hturned (.sending _) (fun op hop => ?_) (fun _ _ _ => le_refl _) (hkept rfl)
    have hsourced := hg.sourced_of_usable (i := g.loop.tasks.length)
      (Int.le_add_of_nonneg_right (Int.natCast_nonneg delay)) hentry htarget
    obtain rfl := Option.some.inj hop
    rw [hclock]
    exact ⟨call, _, _, hturned.task, rfl, hturned.sourced hsourced⟩
  | querying consulHttpAddr hnone haddr =>
    have hawaited : (querying config call (g.due delay).state.clock).awaited =
        some (.health consulHttpAddr call.serviceName) := by
      rw [querying_eq haddr]
      rfl
    refine hg.turned hturned (.querying consulHttpAddr _ haddr ?_) (fun op hop => ?_)
      (fun _ _ _ => le_refl _) (hkept rfl)
    · rw [hturned.issued, hawaited, hclock]
      exact List.mem_append_right _ (List.mem_singleton_self _)
    · obtain rfl := Option.some.inj (hawaited.symm.trans hop)
      exact haddr
  | unconfigured hnone haddr =>
    have hcache (serviceName : String) :
        (g.step config ⟨delay, .start call env⟩).cache serviceName = if serviceName = call.serviceName then
          some ⟨(g.due delay).state.clock + config.discoveryTtlMs, []⟩
        else g.cache serviceName := by
      rw [cache, hstate]
      exact ProxyState.discoveryCache_set ..
    refine hg.turned hturned (.sending _) (fun op hop => ?_) (fun _ _ _ => le_refl _)
      (hg.remembered_of_unconfigured haddr hcache hlast)
    obtain rfl := Option.some.inj hop
    exact ⟨call, _, _, hturned.task, rfl, .inl ⟨rfl, .inl haddr⟩⟩

theorem Inv.wait (hg : g.Inv config) (delay : Nat) : Inv config ⟨g.due delay, g.issued⟩ where
  task_lt := hg.task_lt
  unique := hg.unique
  time_le := fun x hx => (hg.time_le x hx).trans (Int.le_add_of_nonneg_right (Int.natCast_nonneg _))
  justified := fun x hx => by
    obtain ⟨i, t, op⟩ := x
    cases op <;> exact hg.justified _ hx
  phase := fun i call p hp => by
    refine Phase.mono (fun x hx => ?_) (hg.phase i call p hp)
    exact hx
  remembered := fun serviceName =>
    (hg.remembered serviceName).congr (fun _ hx => hx) rfl rfl

theorem Inv.turned_quiet (hg : g.Inv config) (h : Turned g g' i call rest)
    (hrest : ∀ op, rest.awaited = some op → op.service = none)
    (hphase : g'.Phase config i call rest)
    (hjustified : ∀ op, rest.awaited = some op → g'.Justified config ⟨i, g'.clock, op⟩)
    (hremembered : ∀ serviceName, g'.Remembered config serviceName) :
    g'.Inv config ∧ ∃ ops, g'.issued = g.issued ++ ops ∧ ∀ x ∈ ops, x.op.service = none :=
  ⟨hg.turned h hphase hjustified (fun op hop hne => absurd (hrest op hop) hne) hremembered,
    h.quiet hrest⟩

theorem Inv.resume_sending (hg : g.Inv config) (delay : Nat) (env : Script ProxyMove)
    {baseUrl : String} (htask : g.loop.tasks[i]? = some (call, sending call baseUrl)) :
    (g.step config ⟨delay, .resume i env⟩).Inv config ∧
      ∃ ops, (g.step config ⟨delay, .resume i env⟩).issued = g.issued ++ ops ∧
        ∀ x ∈ ops, x.op.service = none := by
  obtain ⟨rest, hrest, hturn⟩ := exists_resume_sending call baseUrl env (g.due delay).state
  obtain ⟨hturned, hstate, hlog⟩ := turned_resume config htask hturn rfl
  have hawaited : rest.awaited = none := by
    cases rest with
    | await op k => cases hrest
    | _ => rfl
  refine hg.turned_quiet hturned (by simp [hawaited]) (.settled _ hrest) (by simp [hawaited])
    fun serviceName => ?_
  apply (hg.remembered serviceName).congr hturned.subset
  · exact lastAnswer_of_quiet hlog (by simp [ProxyOp.service]) serviceName
  · rw [cache, hstate]
    rfl

theorem Inv.resume_error (hg : g.Inv config) (delay : Nat) {consulHttpAddr : String}
    (haddr : truthy config.consulHttpAddr = some consulHttpAddr) {now : Int}
    (htask : g.loop.tasks[i]? = some (call, querying config call now)) {error : ProxyError}
    (henv : (env 0).health = .error error) :
    (g.step config ⟨delay, .resume i env⟩).Inv config ∧
      ∃ ops, (g.step config ⟨delay, .resume i env⟩).issued = g.issued ++ ops ∧
        ∀ x ∈ ops, x.op.service = none := by
  obtain ⟨hturned, hstate, hlog⟩ :=
    turned_resume config htask (resume_querying_error haddr now henv) rfl
  refine hg.turned_quiet hturned (awaited_sending _ _) (.sending _) (fun op hop => ?_)
    fun serviceName => ?_
  · obtain rfl := Option.some.inj hop
    refine ⟨call, _, _, hturned.task, rfl, .inl ⟨rfl, .inr (.inr ⟨consulHttpAddr, error, ?_⟩)⟩⟩
    rw [hlog]
    exact List.mem_append_right _ (List.mem_singleton_self _)
  · apply (hg.remembered serviceName).congr hturned.subset
    · exact lastAnswer_of_error hlog serviceName
    · rw [cache, hstate]
      rfl

theorem Inv.remembered_of_answer (hg : g.Inv config) (hissued : g.issued ⊆ g'.issued)
    {performed : List (Performed ProxyOp ProxyOp.Res ProxyError)} {consulHttpAddr name : String}
    {entries : List HealthEntry} {t : Int}
    (hlog : g'.loop.log = g.loop.record i (⟨.health consulHttpAddr name, .ok entries⟩ :: performed))
    (hquiet : ∀ a ∈ performed, a.1.service = none) (hasks : g'.Asks i t name)
    (hcache : ∀ serviceName, g'.cache serviceName = if serviceName = name then
      some ⟨t + config.discoveryTtlMs, entries.map HealthEntry.target⟩ else g.cache serviceName)
    (serviceName : String) : g'.Remembered config serviceName := by
  have hlast := lastAnswer_of_answer hlog hquiet serviceName
  by_cases hname : serviceName = name
  · subst hname
    rw [if_pos rfl] at hlast
    refine ⟨fun hnone => absurd (hlast.symm.trans hnone) (Option.some_ne_none _),
      fun j entries' hsome => ?_⟩
    obtain ⟨rfl, rfl⟩ := Prod.mk.inj (Option.some.inj (hlast.symm.trans hsome))
    exact ⟨t, hasks, (hcache serviceName).trans (if_pos rfl)⟩
  · rw [if_neg (Ne.symm hname)] at hlast
    exact (hg.remembered serviceName).congr hissued hlast
      ((hcache serviceName).trans (if_neg hname))

theorem Inv.resume_ok (hg : g.Inv config) (delay : Nat) {consulHttpAddr : String}
    (haddr : truthy config.consulHttpAddr = some consulHttpAddr) {now : Int}
    (hasks : g.Asks i now call.serviceName)
    (htask : g.loop.tasks[i]? = some (call, querying config call now)) {entries : List HealthEntry}
    (henv : (env 0).health = .ok entries) :
    (g.step config ⟨delay, .resume i env⟩).Inv config ∧
      ∃ ops, (g.step config ⟨delay, .resume i env⟩).issued = g.issued ++ ops ∧
        ∀ x ∈ ops, x.op.service = none := by
  obtain ⟨rest, performed, hanswered, hquiet, hturn⟩ := resume_querying_ok haddr now henv
  obtain ⟨hturned, hstate, hlog⟩ := turned_resume config htask hturn rfl
  have hgets : (g.step config ⟨delay, .resume i env⟩).Gets i call.serviceName entries := by
    refine ⟨consulHttpAddr, ?_⟩
    rw [hlog]
    exact List.mem_append_right _ (List.mem_cons_self ..)
  have hcache (serviceName : String) : (g.step config ⟨delay, .resume i env⟩).cache serviceName =
      if serviceName = call.serviceName then
        some ⟨now + config.discoveryTtlMs, entries.map HealthEntry.target⟩
      else g.cache serviceName := by
    rw [cache, hstate]
    exact ProxyState.discoveryCache_set ..
  have hremembered :=
    hg.remembered_of_answer hturned.subset hlog hquiet (hturned.asks hasks) hcache
  cases hanswered with
  | target target htarget =>
    obtain ⟨entry, hentry, rfl⟩ := List.mem_map.mp htarget
    refine hg.turned_quiet hturned (awaited_sending _ _) (.sending _) (fun op hop => ?_) hremembered
    obtain rfl := Option.some.inj hop
    exact ⟨call, _, _, hturned.task, rfl, .inr ⟨i, now, entries, entry, hturned.asks hasks, hgets,
      hentry, rfl, .inl rfl⟩⟩
  | fallback hnil =>
    obtain rfl := List.map_eq_nil_iff.mp hnil
    refine hg.turned_quiet hturned (awaited_sending _ _) (.sending _) (fun op hop => ?_) hremembered
    obtain rfl := Option.some.inj hop
    exact ⟨call, _, _, hturned.task, rfl, .inl ⟨rfl, .inr (.inl hgets)⟩⟩

theorem Inv.resume (hg : g.Inv config) (delay i : Nat) (env : Script ProxyMove) :
    (g.step config ⟨delay, .resume i env⟩).Inv config ∧
      ∃ ops, (g.step config ⟨delay, .resume i env⟩).issued = g.issued ++ ops ∧
        ∀ x ∈ ops, x.op.service = none := by
  by_cases hsettled : ∀ call p, g.loop.tasks[i]? = some (call, p) → p.settlement.isSome
  · rw [step_resume_of_settled hsettled]
    exact ⟨hg.wait delay, [], (List.append_nil _).symm, fun x hx => nomatch hx⟩
  push Not at hsettled
  obtain ⟨call, p, htask, hpending⟩ := hsettled
  cases hg.phase i call p htask with
  | settled _ h => exact absurd h hpending
  | sending baseUrl => exact hg.resume_sending delay env htask
  | querying consulHttpAddr now haddr hasks =>
    cases henv : (env 0).health with
    | error error => exact hg.resume_error delay haddr htask henv
    | ok entries => exact hg.resume_ok delay haddr ⟨consulHttpAddr, hasks⟩ htask henv

end Step

section Run

variable {config : ProxyConfig}

theorem Inv.step {g : Forwarding} (hg : g.Inv config) (e : ProxyEvent) :
    (g.step config e).Inv config := by
  obtain ⟨delay, turn⟩ := e
  cases turn with
  | start call env => exact hg.start delay call env
  | resume i env => exact (hg.resume delay i env).1

theorem inv_idle (config : ProxyConfig) (clock : Int) : (idle clock).Inv config where
  task_lt := by simp [idle]
  time_le := by simp [idle]
  justified := by simp [idle]
  unique := by simp [idle]
  phase := by simp [idle, EventLoop.idle]
  remembered := fun _ =>
    { unasked := fun _ _ hentry => nomatch hentry
      answered := fun _ _ hsome => nomatch hsome }

theorem always_inv (config : ProxyConfig) (clock : Int) (events : List ProxyEvent) :
    Runs.Always (Forwarding.step config) (Inv config) (idle clock) events :=
  Runs.Always.of_along (P := fun _ _ => True) (fun _ e hg _ => Inv.step hg e)
    (inv_idle config clock) (Runs.along_of_forall fun _ _ => trivial)

end Run

/-- Queries for one service go out a TTL apart. -/
def Spaced (g : Forwarding) : Prop :=
  g.issued.Pairwise fun x y => ∀ serviceName, x.op.service = some serviceName →
    y.op.service = some serviceName → config.discoveryTtlMs ≤ y.time - x.time

/-- Every query younger than a TTL has the last answer, which is not empty. -/
def Fresh (g : Forwarding) (now : Int) (serviceName : String) : Prop :=
  ∀ i t, g.Asks i t serviceName → now < t + config.discoveryTtlMs →
    ∃ entries, g.lastAnswer serviceName = some (i, entries) ∧ entries ≠ []

/-- A call that starts finds its service fresh. -/
def StartsFresh (g : Forwarding) (e : ProxyEvent) : Prop :=
  match e.turn with
  | .start call _ => g.Fresh config (g.clock + e.delay) call.serviceName
  | .resume _ _ => True

section Spaced

variable {config} {g g' : Forwarding} {now : Int} {serviceName : String}

theorem asks_of_service {x : Outgoing} (hx : x ∈ g.issued)
    (hservice : x.op.service = some serviceName) : g.Asks x.task x.time serviceName := by
  obtain ⟨i, t, op⟩ := x
  cases op with
  | health consulHttpAddr name =>
    obtain rfl := Option.some.inj hservice
    exact ⟨consulHttpAddr, hx⟩
  | _ => cases hservice

theorem spaced_append {ops : List Outgoing} (hissued : g'.issued = g.issued ++ ops)
    (hops : ∀ x ∈ ops, x.op.service = none) : g'.Spaced config ↔ g.Spaced config := by
  rw [Spaced, hissued, List.pairwise_append]
  constructor
  · exact fun h => h.1
  · refine fun h => ⟨h, List.pairwise_of_forall_mem_list fun x hx y _ name hname => ?_,
      fun x _ y hy name _ hname => ?_⟩
    · rw [hops x hx] at hname
      cases hname
    · rw [hops y hy] at hname
      cases hname

theorem Spaced.task_eq (h : g.Spaced config) (hg : g.Inv config) {i j : Nat} {t t' : Int}
    (hi : g.Asks i t serviceName) (hj : g.Asks j t' serviceName) (hnow : g.clock ≤ now)
    (ht : now < t + config.discoveryTtlMs) (ht' : now < t' + config.discoveryTtlMs) : i = j := by
  have hle := hg.time_le_of_asks hi
  have hle' := hg.time_le_of_asks hj
  obtain ⟨consulHttpAddr, hi⟩ := hi
  obtain ⟨consulHttpAddr', hj⟩ := hj
  obtain ⟨n, hn, hin⟩ := List.mem_iff_getElem.mp hi
  obtain ⟨m, hm, hjm⟩ := List.mem_iff_getElem.mp hj
  rcases Nat.lt_trichotomy n m with hlt | rfl | hlt
  · have hfar := List.pairwise_iff_getElem.mp h n m hn hm hlt serviceName (by rw [hin]; rfl)
      (by rw [hjm]; rfl)
    rw [hin, hjm] at hfar
    simp only at hfar
    omega
  · exact congrArg Outgoing.task (hin.symm.trans hjm)
  · have hfar := List.pairwise_iff_getElem.mp h m n hm hn hlt serviceName (by rw [hjm]; rfl)
      (by rw [hin]; rfl)
    rw [hin, hjm] at hfar
    simp only at hfar
    omega

/-- A service is fresh where its entry is usable. -/
theorem Spaced.fresh (h : g.Spaced config) (hg : g.Inv config) (hnow : g.clock ≤ now)
    {entry : DiscoveryEntry} (hentry : (g.cache serviceName).filter (·.usable now) = some entry) :
    g.Fresh config now serviceName := by
  intro i t hi ht
  obtain ⟨j, t', entries, hlast, hj, htargets, ht'⟩ := (hg.remembered serviceName).usable hentry
  obtain rfl := h.task_eq hg hi hj hnow ht ht'
  refine ⟨entries, hlast, ?_⟩
  rintro rfl
  obtain ⟨-, husable⟩ := Option.filter_eq_some_iff.mp hentry
  simp [DiscoveryEntry.usable, htargets] at husable

theorem Fresh.le (h : g.Fresh config now serviceName) (hg : g.Inv config)
    (hnone : (g.cache serviceName).filter (·.usable now) = none) {i : Nat} {t : Int}
    (hi : g.Asks i t serviceName) : config.discoveryTtlMs ≤ now - t := by
  by_contra hlt
  obtain ⟨entries, hlast, hne⟩ := h i t hi (by omega)
  obtain ⟨t', ⟨consulHttpAddr', hi'⟩, hcache⟩ :=
    (hg.remembered serviceName).answered i entries hlast
  obtain ⟨consulHttpAddr, hi⟩ := hi
  obtain rfl : t = t' := congrArg Outgoing.time
    (hg.unique _ hi _ hi' (Option.some_ne_none _) (Option.some_ne_none _) rfl)
  rw [hcache, Option.filter_some, if_pos] at hnone
  · cases hnone
  · simp only [DiscoveryEntry.usable, List.length_map, Bool.and_eq_true, decide_eq_true_eq]
    exact ⟨by omega, List.length_pos_iff.mpr hne⟩

theorem Inv.spaced_step (hg : g.Inv config) (e : ProxyEvent) :
    (g.step config e).Spaced config ↔ g.Spaced config ∧ g.StartsFresh config e := by
  obtain ⟨delay, turn⟩ := e
  cases turn with
  | resume i env =>
    obtain ⟨-, ops, hissued, hops⟩ := hg.resume delay i env
    exact (spaced_append hissued hops).trans (and_iff_left trivial).symm
  | start call env =>
    obtain ⟨rest, s', hbegins, hturned, hstate, -⟩ := exists_start config g delay call env
    have hnow : g.clock ≤ g.clock + delay := by omega
    have hquiet (hrest : ∀ op, rest.awaited = some op → op.service = none) :
        (g.step config ⟨delay, .start call env⟩).Spaced config ↔ g.Spaced config := by
      obtain ⟨ops, hissued, hops⟩ := hturned.quiet hrest
      exact spaced_append hissued hops
    cases hbegins with
    | cached entry target hentry htarget =>
      rw [hquiet (awaited_sending _ _)]
      exact ⟨fun h => ⟨h, h.fresh hg hnow hentry⟩, And.left⟩
    | unconfigured hnone haddr =>
      rw [hquiet (awaited_sending _ _)]
      exact ⟨fun h => ⟨h, fun i t hi _ => absurd haddr (hg.configured hi)⟩, And.left⟩
    | querying consulHttpAddr hnone haddr =>
      have hissued : (g.step config ⟨delay, .start call env⟩).issued = g.issued ++
          [⟨g.loop.tasks.length, g.clock + delay, .health consulHttpAddr call.serviceName⟩] := by
        rw [hturned.issued, querying_eq haddr, clock_start]
        rfl
      rw [Spaced, hissued, List.pairwise_append]
      constructor
      · rintro ⟨hspaced, -, hnew⟩
        refine ⟨hspaced, fun i t hi ht => ?_⟩
        obtain ⟨consulHttpAddr', hmem⟩ := hi
        have hfar := hnew _ hmem _ (List.mem_singleton_self _) call.serviceName rfl rfl
        simp only at hfar ht
        omega
      · rintro ⟨hspaced, hfresh⟩
        refine ⟨hspaced, List.pairwise_singleton _ _, fun x hx y hy name hxname hyname => ?_⟩
        obtain rfl := List.mem_singleton.mp hy
        obtain rfl := Option.some.inj hyname
        exact Fresh.le hfresh hg hnone (asks_of_service hx hxname)

end Spaced

end Forwarding

section Discovery

open Forwarding

/-- Discovery answers are never stale or foreign: in every state of a run, the requests that are out
have gone where the answers that are in allow. -/
theorem baseUrl_sourced (config : ProxyConfig) (clock : Int) (events : List ProxyEvent) :
    Runs.Always (Forwarding.step config)
      (fun g => ∀ i t request, ⟨i, t, .axios request⟩ ∈ g.issued →
        ∃ call p baseUrl, g.loop.tasks[i]? = some (call, p) ∧
          request = ProxyService.requestConfig call baseUrl ∧ g.Sourced config i call t baseUrl)
      (idle clock) events := by
  refine (always_inv config clock events).mono ?_
  intro g hg i t request hrequest
  exact hg.justified _ hrequest

/-- Consul is asked once per TTL exactly as far as calls find their service fresh. -/
theorem spaced_iff (config : ProxyConfig) (clock : Int) (events : List ProxyEvent) :
    (events.foldl (Forwarding.step config) (idle clock)).Spaced config ↔
      Runs.Along (Forwarding.step config) (StartsFresh config) (idle clock) events := by
  have hnext : ∀ g e, Inv config g → Inv config (Forwarding.step config g e) :=
    fun _ e hg => hg.step e
  constructor
  · intro hspaced
    have hviolation : ∀ g e, Inv config g → ¬ Spaced config g ∨ ¬ StartsFresh config g e →
        ¬ Spaced config (Forwarding.step config g e) := by
      intro g e hg h
      rwa [hg.spaced_step, not_and_or]
    exact (Runs.along_of_not hnext hviolation (inv_idle config clock) (not_not_intro hspaced)).2
  · intro hfresh
    refine (Runs.foldl_of_along (J := fun g => Inv config g ∧ Spaced config g) ?_
      ⟨inv_idle config clock, List.Pairwise.nil⟩ hfresh).2
    rintro g e ⟨hg, hspaced⟩ hstart
    exact ⟨hg.step e, (hg.spaced_step e).mpr ⟨hspaced, hstart⟩⟩

private def consul : ProxyConfig := ⟨some "http://localhost:8500", 5000⟩

private def listOrders : ForwardCall :=
  ⟨"ecommerce-order", "http://localhost:3002", "/orders", "GET", none, fun _ => none⟩

private def unanswered : Script ProxyMove := fun _ => ⟨⟨0, le_refl 0, one_pos⟩, .ok [], .ok .null⟩

/-- A second call comes a millisecond after the first, which Consul has not answered yet. -/
theorem not_spaced_overlapping :
    ¬ ([⟨0, .start listOrders unanswered⟩, ⟨1, .start listOrders unanswered⟩].foldl
      (Forwarding.step consul) (idle 0)).Spaced consul := by
  intro hspaced
  have hfar :=
    (List.pairwise_cons.mp hspaced).1 _ (List.mem_singleton_self _) "ecommerce-order" rfl rfl
  exact absurd hfar (by decide)

end Discovery

end Ecommerce
