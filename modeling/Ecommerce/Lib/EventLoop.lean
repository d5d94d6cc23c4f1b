import Ecommerce.Lib.Triple
import Mathlib.Data.List.Perm.Basic

/-! A single-threaded event loop: between two suspensions a task performs its synchronous
operations without anything else happening. -/

universe u v w x

abbrev Performed (Op : Type u) (Res : Op → Type v) (ε : Type w) := (op : Op) × Except ε (Res op)

namespace Prog

variable {Op : Type u} {Res : Op → Type v} {ε : Type w} {α β σ χ : Type x}

structure Segment (Op : Type u) (Res : Op → Type v) (ε : Type w) (α σ : Type x) where
  rest : Prog Op Res ε α
  state : σ
  performed : List (Performed Op Res ε)

def segment (sync : Op → Bool) (h : χ → Handler Op Res ε σ) (env : Script χ) :
    Prog Op Res ε α → σ → Segment Op Res ε α σ
  | .await op k, s =>
    if sync op then
      let r := segment sync h env.tail (k (h (env 0) op s).1) (h (env 0) op s).2
      { r with performed := ⟨op, (h (env 0) op s).1⟩ :: r.performed }
    else ⟨.await op k, s, []⟩
  | p, s => ⟨p, s, []⟩

/-- Performs the operation that the program awaits, and runs it up to its next suspension. -/
def resume (sync : Op → Bool) (h : χ → Handler Op Res ε σ) (env : Script χ) :
    Prog Op Res ε α → σ → Segment Op Res ε α σ
  | .await op k, s =>
    let r := segment sync h env.tail (k (h (env 0) op s).1) (h (env 0) op s).2
    { r with performed := ⟨op, (h (env 0) op s).1⟩ :: r.performed }
  | p, s => ⟨p, s, []⟩

section Segment

variable {sync : Op → Bool} (h : χ → Handler Op Res ε σ) (env : Script χ) (s : σ)

theorem segment_await_async {op : Op} (hop : sync op = false)
    (k : Except ε (Res op) → Prog Op Res ε α) :
    segment sync h env (.await op k) s = ⟨.await op k, s, []⟩ := by
  simp [segment, hop]

theorem segment_await_sync {op : Op} (hop : sync op) (k : Except ε (Res op) → Prog Op Res ε α) :
    segment sync h env (.await op k) s = (Prog.await op k).resume sync h env s := by
  simp [segment, resume, hop]

theorem segment_perform_bind {Res : Op → Type x} {h : χ → Handler Op Res ε σ} {env : Script χ}
    {s s' : σ} {op : Op} (hop : sync op) {r : Res op} (hr : h (env 0) op s = (.ok r, s'))
    (f : Res op → Prog Op Res ε α) :
    segment sync h env (perform op >>= f) s =
      { segment sync h env.tail (f r) s' with
        performed := ⟨op, .ok r⟩ :: (segment sync h env.tail (f r) s').performed } := by
  change segment sync h env (.await op fun r => (settle r).bind f) s = _
  rw [segment_await_sync h env s hop, resume, hr]
  rfl

theorem segment_settled {p : Prog Op Res ε α} (hp : p.settlement.isSome) :
    segment sync h env p s = ⟨p, s, []⟩ := by
  cases p with
  | pure a => rfl
  | throw e => rfl
  | await op k => cases hp

theorem resume_settled {p : Prog Op Res ε α} (hp : p.settlement.isSome) :
    resume sync h env p s = ⟨p, s, []⟩ := by
  cases p with
  | pure a => rfl
  | throw e => rfl
  | await op k => cases hp

end Segment

/-- However its operations settle, what the program has done by a suspension is as `Φ` says, and
so is what it has done in all when it settles. -/
def Reports (sync : Op → Bool) (E : (op : Op) → Except ε (Res op) → Prop) :
    Prog Op Res ε α → (List (Performed Op Res ε) → Option (Except ε α) → Prop) → Prop
  | .pure a, Φ => Φ [] (some (.ok a))
  | .throw e, Φ => Φ [] (some (.error e))
  | .await op k, Φ => (sync op = false → Φ [] none) ∧
      ∀ r, E op r → Reports sync E (k r) fun done o => Φ (⟨op, r⟩ :: done) o

section Reports

variable {sync : Op → Bool} {E : (op : Op) → Except ε (Res op) → Prop}

theorem Reports.mono {p : Prog Op Res ε α}
    {Φ Ψ : List (Performed Op Res ε) → Option (Except ε α) → Prop} (hp : Reports sync E p Φ)
    (hΦ : ∀ done o, Φ done o → Ψ done o) : Reports sync E p Ψ := by
  induction p generalizing Φ Ψ with
  | pure a => exact hΦ _ _ hp
  | throw e => exact hΦ _ _ hp
  | await op k ih =>
    exact ⟨fun h => hΦ _ _ (hp.1 h), fun r hr => ih r (hp.2 r hr) fun done o => hΦ _ o⟩

theorem reports_of_forall {Φ : List (Performed Op Res ε) → Option (Except ε α) → Prop}
    (hΦ : ∀ done o, Φ done o) (p : Prog Op Res ε α) : Reports sync E p Φ := by
  induction p generalizing Φ with
  | pure a => exact hΦ _ _
  | throw e => exact hΦ _ _
  | await op k ih => exact ⟨fun _ => hΦ _ _, fun r _ => ih r fun done => hΦ _⟩

@[simp] theorem reports_pure (a : α)
    {Φ : List (Performed Op Res ε) → Option (Except ε α) → Prop} :
    Reports sync E (Pure.pure a : Prog Op Res ε α) Φ ↔ Φ [] (some (.ok a)) := Iff.rfl

@[simp] theorem reports_throw (e : ε)
    {Φ : List (Performed Op Res ε) → Option (Except ε α) → Prop} :
    Reports sync E (MonadExcept.throw e : Prog Op Res ε α) Φ ↔ Φ [] (some (.error e)) := Iff.rfl

@[simp] theorem reports_await {op : Op} {k : Except ε (Res op) → Prog Op Res ε α}
    {Φ : List (Performed Op Res ε) → Option (Except ε α) → Prop} :
    Reports sync E (.await op k) Φ ↔ (sync op = false → Φ [] none) ∧
      ∀ r, E op r → Reports sync E (k r) fun done o => Φ (⟨op, r⟩ :: done) o := Iff.rfl

@[simp] theorem reports_settle {Res : Op → Type x} {E : (op : Op) → Except ε (Res op) → Prop}
    {r : Except ε α} {Φ : List (Performed Op Res ε) → Option (Except ε α) → Prop} :
    Reports sync E (settle r : Prog Op Res ε α) Φ ↔ Φ [] (some r) := by
  cases r <;> exact Iff.rfl

@[simp] theorem reports_perform {Res : Op → Type x} {E : (op : Op) → Except ε (Res op) → Prop}
    {op : Op} {Φ : List (Performed Op Res ε) → Option (Except ε (Res op)) → Prop} :
    Reports sync E (perform op) Φ ↔
      (sync op = false → Φ [] none) ∧ ∀ r, E op r → Φ [⟨op, r⟩] (some r) :=
  and_congr_right fun _ => forall_congr' fun _ => imp_congr_right fun _ => reports_settle

@[simp] theorem reports_bind {p : Prog Op Res ε α} {f : α → Prog Op Res ε β}
    {Φ : List (Performed Op Res ε) → Option (Except ε β) → Prop} :
    Reports sync E (p >>= f) Φ ↔ Reports sync E p fun done o =>
      match o with
      | none => Φ done none
      | some (.ok a) => Reports sync E (f a) fun done' o' => Φ (done ++ done') o'
      | some (.error e) => Φ done (some (.error e)) := by
  change Reports sync E (p.bind f) Φ ↔ _
  induction p generalizing Φ with
  | pure a => exact Iff.rfl
  | throw e => exact Iff.rfl
  | await op k ih =>
    exact and_congr_right fun _ => forall_congr' fun r => imp_congr_right fun _ => ih r

@[simp] theorem reports_tryCatch {p : Prog Op Res ε α} {f : ε → Prog Op Res ε α}
    {Φ : List (Performed Op Res ε) → Option (Except ε α) → Prop} :
    Reports sync E (p.tryCatch f) Φ ↔ Reports sync E p fun done o =>
      match o with
      | none => Φ done none
      | some (.ok a) => Φ done (some (.ok a))
      | some (.error e) => Reports sync E (f e) fun done' o' => Φ (done ++ done') o' := by
  induction p generalizing Φ with
  | pure a => exact Iff.rfl
  | throw e => exact Iff.rfl
  | await op k ih =>
    exact and_congr_right fun _ => forall_congr' fun r => imp_congr_right fun _ => ih r

theorem Meets.reports {P : Op → Prop} {Q : α → Prop} {p : Prog Op Res ε α} (hp : p.Meets P Q) :
    Reports sync E p fun _ o => ∀ a, o = some (.ok a) → Q a := by
  induction p with
  | pure a =>
    intro b hb
    obtain rfl := Except.ok.inj (Option.some.inj hb)
    exact hp
  | throw e =>
    intro b hb
    cases Option.some.inj hb
  | await op k ih =>
    refine ⟨fun _ b hb => ?_, fun r _ => ih r (hp.2 r)⟩
    cases hb

theorem Reports.here {p : Prog Op Res ε α}
    {Φ : List (Performed Op Res ε) → Option (Except ε α) → Prop} (hp : Reports sync E p Φ)
    (hsync : ∀ op, p.awaited = some op → sync op = false) : Φ [] p.settlement := by
  cases p with
  | pure a => exact hp
  | throw e => exact hp
  | await op k => exact hp.1 (hsync op rfl)

variable {h : χ → Handler Op Res ε σ}

theorem Reports.segment (hE : ∀ c op s, E op (h c op s).1) {env : Script χ} {p : Prog Op Res ε α}
    {s : σ} {Φ : List (Performed Op Res ε) → Option (Except ε α) → Prop} (hp : Reports sync E p Φ) :
    Reports sync E (p.segment sync h env s).rest fun done o =>
      Φ ((p.segment sync h env s).performed ++ done) o := by
  induction p generalizing env s Φ with
  | pure a => exact hp
  | throw e => exact hp
  | await op k ih =>
    cases hop : sync op with
    | false =>
      simp only [Prog.segment, hop, Bool.false_eq_true, if_false]
      exact hp
    | true =>
      simp only [Prog.segment, hop, if_true]
      exact ih _ (hp.2 _ (hE (env 0) op s))

theorem Reports.resume (hE : ∀ c op s, E op (h c op s).1) {env : Script χ} {p : Prog Op Res ε α}
    {s : σ} {Φ : List (Performed Op Res ε) → Option (Except ε α) → Prop} (hp : Reports sync E p Φ) :
    Reports sync E (p.resume sync h env s).rest fun done o =>
      Φ ((p.resume sync h env s).performed ++ done) o := by
  cases p with
  | pure a => exact hp
  | throw e => exact hp
  | await op k => exact (hp.2 _ (hE (env 0) op s)).segment hE

theorem sync_of_segment (env : Script χ) (p : Prog Op Res ε α) (s : σ) {op : Op}
    (hop : (p.segment sync h env s).rest.awaited = some op) : sync op = false := by
  induction p generalizing env s with
  | pure a => cases hop
  | throw e => cases hop
  | await op' k ih =>
    cases hsync : sync op' with
    | false =>
      simp only [Prog.segment, hsync, Bool.false_eq_true, if_false, awaited, Option.some.injEq] at hop
      rw [← hop, hsync]
    | true =>
      simp only [Prog.segment, hsync, if_true] at hop
      exact ih _ _ _ hop

theorem sync_of_resume (env : Script χ) (p : Prog Op Res ε α) (s : σ) {op : Op}
    (hop : (p.resume sync h env s).rest.awaited = some op) : sync op = false := by
  cases p with
  | pure a => cases hop
  | throw e => cases hop
  | await op' k => exact sync_of_segment _ _ _ hop

end Reports

section Meets

variable {sync : Op → Bool} {h : χ → Handler Op Res ε σ} {P : Op → Prop} {Q : α → Prop}
  {K : σ → List (Nat × Performed Op Res ε) → Prop} {env : Script χ} {p : Prog Op Res ε α} {s : σ}
  {log : List (Nat × Performed Op Res ε)} {i : Nat}

theorem Meets.segment (hp : p.Meets P Q)
    (hK : ∀ c op s log, P op → K s log → K (h c op s).2 (log ++ [(i, ⟨op, (h c op s).1⟩)]))
    (hs : K s log) : (p.segment sync h env s).rest.Meets P Q ∧
      K (p.segment sync h env s).state
        (log ++ (p.segment sync h env s).performed.map fun a => (i, a)) := by
  induction p generalizing env s log with
  | pure a => exact ⟨hp, by simpa [Prog.segment] using hs⟩
  | throw e => exact ⟨hp, by simpa [Prog.segment] using hs⟩
  | await op k ih =>
    cases hop : sync op with
    | false =>
      rw [segment_await_async h env s hop]
      exact ⟨hp, by simpa using hs⟩
    | true =>
      obtain ⟨hrest, hstate⟩ := ih (h (env 0) op s).1 (hp.2 _) (hK (env 0) op s log hp.1 hs)
      simp only [Prog.segment, hop, if_true, List.map_cons]
      rw [List.append_assoc] at hstate
      exact ⟨hrest, hstate⟩

theorem Meets.resume (hp : p.Meets P Q)
    (hK : ∀ c op s log, P op → K s log → K (h c op s).2 (log ++ [(i, ⟨op, (h c op s).1⟩)]))
    (hs : K s log) : (p.resume sync h env s).rest.Meets P Q ∧
      K (p.resume sync h env s).state
        (log ++ (p.resume sync h env s).performed.map fun a => (i, a)) := by
  cases p with
  | pure a => exact ⟨hp, by simpa [Prog.resume] using hs⟩
  | throw e => exact ⟨hp, by simpa [Prog.resume] using hs⟩
  | await op k =>
    obtain ⟨hrest, hstate⟩ := (hp.2 _).segment hK (hK (env 0) op s log hp.1 hs)
    rw [List.append_assoc] at hstate
    exact ⟨hrest, hstate⟩

end Meets

end Prog

/-- The tasks that have started, each under its label, the state they share, and everything that has
been done, with the number of the task that did it. -/
structure EventLoop (ι : Type x) (Op : Type u) (Res : Op → Type v) (ε : Type w) (α σ : Type x) where
  tasks : List (ι × Prog Op Res ε α)
  state : σ
  log : List (Nat × Performed Op Res ε)

/-- A task starts, or one that is suspended gets the answer it awaits; a script has the
environment's moves up to the next suspension. -/
inductive LoopEvent (ι χ : Type x)
  | start (label : ι) (env : Script χ)
  | resume (task : Nat) (env : Script χ)

namespace EventLoop

variable {ι : Type x} {Op : Type u} {Res : Op → Type v} {ε : Type w} {α σ χ : Type x}

def idle (s : σ) : EventLoop ι Op Res ε α σ := ⟨[], s, []⟩

/-- What the task has done. -/
def history (l : EventLoop ι Op Res ε α σ) (i : Nat) : List (Performed Op Res ε) :=
  (l.log.filter (·.1 = i)).map (·.2)

def record (l : EventLoop ι Op Res ε α σ) (i : Nat) (performed : List (Performed Op Res ε)) :
    List (Nat × Performed Op Res ε) :=
  l.log ++ performed.map fun a => (i, a)

/-- One turn of the loop. -/
def step (sync : Op → Bool) (h : ι → χ → Handler Op Res ε σ) (body : ι → Prog Op Res ε α)
    (l : EventLoop ι Op Res ε α σ) : LoopEvent ι χ → EventLoop ι Op Res ε α σ
  | .start a env =>
    let r := (body a).segment sync (h a) env l.state
    ⟨l.tasks ++ [(a, r.rest)], r.state, l.record l.tasks.length r.performed⟩
  | .resume i env =>
    match l.tasks[i]? with
    | none => l
    | some (a, p) =>
      let r := p.resume sync (h a) env l.state
      ⟨l.tasks.set i (a, r.rest), r.state, l.record i r.performed⟩

/-- What the turn leaves its task waiting for. -/
def issued (sync : Op → Bool) (h : ι → χ → Handler Op Res ε σ) (body : ι → Prog Op Res ε α)
    (l : EventLoop ι Op Res ε α σ) : LoopEvent ι χ → Option (Nat × Op)
  | .start a env =>
    ((body a).segment sync (h a) env l.state).rest.awaited.map fun op => (l.tasks.length, op)
  | .resume i env =>
    match l.tasks[i]? with
    | none => none
    | some (a, p) => (p.resume sync (h a) env l.state).rest.awaited.map fun op => (i, op)

/-- The labels of the tasks that the events start. -/
def started : List (LoopEvent ι χ) → List ι
  | [] => []
  | .start a _ :: events => a :: started events
  | .resume _ _ :: events => started events

variable {sync : Op → Bool} {h : ι → χ → Handler Op Res ε σ} {body : ι → Prog Op Res ε α}

/-- The labels of the tasks that are not settled. -/
def pending (tasks : List (ι × Prog Op Res ε α)) : List ι :=
  (tasks.filter fun t => t.2.settlement.isNone).map Prod.fst

section Set

variable {tasks : List (ι × Prog Op Res ε α)} {i : Nat} {a : ι} {p : Prog Op Res ε α}

theorem labels_set (hp : tasks[i]? = some (a, p)) (q : Prog Op Res ε α) :
    (tasks.set i (a, q)).map Prod.fst = tasks.map Prod.fst := by
  have hlabel : (tasks.map Prod.fst)[i]? = some a := by simp [hp]
  obtain ⟨hlt, rfl⟩ := List.getElem?_eq_some_iff.mp hlabel
  rw [List.map_set, List.set_getElem_self]

theorem pending_set_of_none (hp : tasks[i]? = some (a, p)) (hpending : p.settlement = none)
    {q : Prog Op Res ε α} (hq : q.settlement = none) :
    pending (tasks.set i (a, q)) = pending tasks := by
  induction tasks generalizing i with
  | nil => simp at hp
  | cons t tasks ih =>
    cases i with
    | zero =>
      obtain rfl : t = (a, p) := by simpa using hp
      simp [pending, hpending, hq]
    | succ i =>
      have ih' := ih (i := i) (by simpa using hp)
      simp only [pending, List.set_cons_succ, List.filter_cons] at ih' ⊢
      split <;> simp [ih']

theorem pending_set_of_isSome (hp : tasks[i]? = some (a, p)) (hpending : p.settlement = none)
    {q : Prog Op Res ε α} (hq : q.settlement.isSome) :
    (pending tasks).Perm (a :: pending (tasks.set i (a, q))) := by
  induction tasks generalizing i with
  | nil => simp at hp
  | cons t tasks ih =>
    cases i with
    | zero =>
      obtain rfl : t = (a, p) := by simpa using hp
      have hq' : q.settlement.isNone = false := by simpa using hq
      simp [pending, hpending, hq']
    | succ i =>
      have ih' := ih (i := i) (by simpa using hp)
      simp only [pending, List.set_cons_succ, List.filter_cons] at ih' ⊢
      split
      · exact (ih'.cons _).trans (List.Perm.swap _ _ _)
      · exact ih'

end Set

theorem step_resume_of_settled {sync : Op → Bool} {h : ι → χ → Handler Op Res ε σ}
    {body : ι → Prog Op Res ε α} {l : EventLoop ι Op Res ε α σ} {i : Nat} (env : Script χ)
    (hi : ∀ a p, l.tasks[i]? = some (a, p) → p.settlement.isSome) :
    step sync h body l (.resume i env) = l := by
  simp only [step]
  cases hp : l.tasks[i]? with
  | none => rfl
  | some task =>
    obtain ⟨a, p⟩ := task
    obtain ⟨hlt, heq⟩ := List.getElem?_eq_some_iff.mp hp
    simp only [Prog.resume_settled _ _ _ (hi a p hp), record, List.map_nil, List.append_nil]
    rw [← heq, List.set_getElem_self]

theorem labels_step (l : EventLoop ι Op Res ε α σ) (event : LoopEvent ι χ) :
    (step sync h body l event).tasks.map Prod.fst = l.tasks.map Prod.fst ++ started [event] := by
  cases event with
  | start a env => simp [step, started]
  | resume i env =>
    simp only [step, started, List.append_nil]
    cases hp : l.tasks[i]? with
    | none => rfl
    | some task => exact labels_set hp _

theorem history_record (l : EventLoop ι Op Res ε α σ) (tasks : List (ι × Prog Op Res ε α)) (s : σ)
    (i j : Nat) (performed : List (Performed Op Res ε)) :
    (EventLoop.mk tasks s (l.record i performed)).history j =
      l.history j ++ if i = j then performed else [] := by
  rw [history, record, List.filter_append, List.map_append, history, List.filter_map, List.map_map]
  congr 1
  by_cases hij : i = j <;> simp [hij, Function.comp_def]

theorem mem_history {l : EventLoop ι Op Res ε α σ} {i : Nat} {op : Performed Op Res ε} :
    op ∈ l.history i ↔ (i, op) ∈ l.log := by
  simp [history, eq_comm]

theorem history_of_log_lt {l : EventLoop ι Op Res ε α σ} {n : Nat}
    (h : ∀ entry ∈ l.log, entry.1 < n) : l.history n = [] := by
  rw [history, List.map_eq_nil_iff, List.filter_eq_nil_iff]
  intro entry hentry
  simpa using Nat.ne_of_lt (h entry hentry)

/-- Every task in the log has started, and `P` holds of every task and of what it has done. -/
structure Each (P : ι → Prog Op Res ε α → List (Performed Op Res ε) → Prop)
    (l : EventLoop ι Op Res ε α σ) : Prop where
  log_lt : ∀ entry ∈ l.log, entry.1 < l.tasks.length
  task : ∀ (i : Nat) (a : ι) (p : Prog Op Res ε α), l.tasks[i]? = some (a, p) → P a p (l.history i)

section Each

variable {P : ι → Prog Op Res ε α → List (Performed Op Res ε) → Prop} {l : EventLoop ι Op Res ε α σ}

theorem Each.idle (s : σ) : Each P (EventLoop.idle s : EventLoop ι Op Res ε α σ) where
  log_lt := by simp [EventLoop.idle]
  task := by simp [EventLoop.idle]

theorem Each.step (hl : Each P l)
    (hstart : ∀ a env s, P a ((body a).segment sync (h a) env s).rest
      ((body a).segment sync (h a) env s).performed)
    (hresume : ∀ a env s p done, P a p done → P a (p.resume sync (h a) env s).rest
      (done ++ (p.resume sync (h a) env s).performed)) (event : LoopEvent ι χ) :
    Each P (step sync h body l event) := by
  cases event with
  | start a env =>
    refine ⟨fun entry hentry => ?_, fun j b q hq => ?_⟩
    · simp only [EventLoop.step, List.length_append, List.length_singleton]
      rcases List.mem_append.mp hentry with hentry | hentry
      · exact Nat.lt_succ_of_lt (hl.log_lt entry hentry)
      · obtain ⟨_, -, rfl⟩ := List.mem_map.mp hentry
        exact Nat.lt_succ_self _
    · simp only [EventLoop.step, history_record] at hq ⊢
      by_cases hj : j = l.tasks.length
      · subst hj
        obtain ⟨rfl, rfl⟩ : a = b ∧ _ = q := by simpa using hq
        rw [history_of_log_lt hl.log_lt, if_pos rfl, List.nil_append]
        exact hstart a env l.state
      · rw [if_neg (Ne.symm hj), List.append_nil]
        rw [List.getElem?_append] at hq
        split at hq
        · exact hl.task j b q hq
        · next hlt =>
          have hout : j - l.tasks.length ≠ 0 := by omega
          simp [hout] at hq
  | resume i env =>
    simp only [EventLoop.step]
    cases hp : l.tasks[i]? with
    | none => exact hl
    | some task =>
      obtain ⟨a, p⟩ := task
      obtain ⟨hlt, -⟩ := List.getElem?_eq_some_iff.mp hp
      refine ⟨fun entry hentry => ?_, fun j b q hq => ?_⟩
      · rw [List.length_set]
        rcases List.mem_append.mp hentry with hentry | hentry
        · exact hl.log_lt entry hentry
        · obtain ⟨_, -, rfl⟩ := List.mem_map.mp hentry
          exact hlt
      · rw [history_record]
        by_cases hj : i = j
        · subst hj
          obtain ⟨rfl, rfl⟩ : a = b ∧ _ = q := by simpa [hlt] using hq
          rw [if_pos rfl]
          exact hresume a env l.state p (l.history i) (hl.task i a p hp)
        · rw [if_neg hj, List.append_nil]
          rw [List.getElem?_set_ne hj] at hq
          exact hl.task j b q hq

/-- The rule for a property of each task. -/
theorem Each.foldl (hl : Each P l)
    (hstart : ∀ a env s, P a ((body a).segment sync (h a) env s).rest
      ((body a).segment sync (h a) env s).performed)
    (hresume : ∀ a env s p done, P a p done → P a (p.resume sync (h a) env s).rest
      (done ++ (p.resume sync (h a) env s).performed)) (events : List (LoopEvent ι χ)) :
    Each P (events.foldl (EventLoop.step sync h body) l) := by
  induction events generalizing l with
  | nil => exact hl
  | cons event events ih => exact ih (hl.step hstart hresume event)

end Each

theorem mem_step_of_settled {l : EventLoop ι Op Res ε α σ} {t : ι × Prog Op Res ε α}
    (ht : t ∈ l.tasks) (hsettled : t.2.settlement.isSome) (event : LoopEvent ι χ) :
    t ∈ (step sync h body l event).tasks := by
  cases event with
  | start a env => exact List.mem_append_left _ ht
  | resume i env =>
    simp only [step]
    cases hp : l.tasks[i]? with
    | none => exact ht
    | some task =>
      obtain ⟨a, p⟩ := task
      obtain ⟨j, hj⟩ := List.mem_iff_getElem?.mp ht
      apply List.mem_iff_getElem?.mpr ⟨j, _⟩
      by_cases hij : i = j
      · subst hij
        obtain rfl : (a, p) = t := Option.some.inj (hp.symm.trans hj)
        obtain ⟨hlt, -⟩ := List.getElem?_eq_some_iff.mp hp
        rw [List.getElem?_set_self hlt, Prog.resume_settled _ _ _ hsettled]
      · rw [List.getElem?_set_ne hij, hj]

/-- Task `i` runs under the label, and these are the first things it has done. -/
def Begins (l : EventLoop ι Op Res ε α σ) (i : Nat) (a : ι) (done : List (Performed Op Res ε)) :
    Prop :=
  ∃ p, l.tasks[i]? = some (a, p) ∧ done <+: l.history i

section Begins

variable {l : EventLoop ι Op Res ε α σ} {i : Nat} {a : ι} {done : List (Performed Op Res ε)}

theorem Begins.mem_log (hi : l.Begins i a done) (op : Performed Op Res ε) (hop : op ∈ done) :
    (i, op) ∈ l.log := by
  obtain ⟨p, -, hdone⟩ := hi
  exact mem_history.mp (hdone.subset hop)

theorem begins_start (hl : ∀ entry ∈ l.log, entry.1 < l.tasks.length) (b : ι) (env : Script χ) :
    (step sync h body l (.start b env)).Begins i a done ↔ l.Begins i a done ∨
      i = l.tasks.length ∧ a = b ∧ done <+: ((body b).segment sync (h b) env l.state).performed := by
  simp only [Begins, step, history_record]
  rcases Nat.lt_trichotomy i l.tasks.length with hi | rfl | hi
  · rw [List.getElem?_append_left hi, if_neg (Nat.ne_of_gt hi), List.append_nil]
    simp [Nat.ne_of_lt hi]
  · rw [history_of_log_lt hl]
    simp [eq_comm]
  · rw [List.getElem?_eq_none (by simp; omega), List.getElem?_eq_none (by omega)]
    simp [Nat.ne_of_gt hi]

theorem begins_resume (j : Nat) (env : Script χ)
    (hj : ∀ p, l.tasks[j]? = some (a, p) →
      p.settlement.isSome ∨ done.length ≤ (l.history j).length) :
    (step sync h body l (.resume j env)).Begins i a done ↔ l.Begins i a done := by
  cases hp : l.tasks[j]? with
  | none => simp [step, hp]
  | some task =>
    obtain ⟨b, p⟩ := task
    simp only [Begins, step, hp, history_record]
    by_cases hij : j = i
    · subst hij
      obtain ⟨hlt, -⟩ := List.getElem?_eq_some_iff.mp hp
      simp only [List.getElem?_set_self hlt, hp, if_true, Option.some.injEq, Prod.mk.injEq]
      constructor
      · rintro ⟨-, ⟨rfl, -⟩, hdone⟩
        refine ⟨p, ⟨rfl, rfl⟩, ?_⟩
        rcases hj p hp with hsettled | hlength
        · simpa [Prog.resume_settled _ _ _ hsettled] using hdone
        · exact List.prefix_of_prefix_length_le hdone (List.prefix_append _ _) hlength
      · rintro ⟨-, ⟨rfl, -⟩, hdone⟩
        exact ⟨_, ⟨rfl, rfl⟩, hdone.trans (List.prefix_append _ _)⟩
    · rw [List.getElem?_set_ne hij, if_neg hij, List.append_nil]

theorem exists_log_step (l : EventLoop ι Op Res ε α σ) (event : LoopEvent ι χ) :
    ∃ entries, (step sync h body l event).log = l.log ++ entries := by
  cases event with
  | start b env => exact ⟨_, rfl⟩
  | resume j env =>
    simp only [step]
    split
    · exact ⟨[], (List.append_nil _).symm⟩
    · exact ⟨_, rfl⟩

end Begins

/-- Every program that is left meets its label's specification, and what every operation keeps of
the state and the log, the loop has kept. -/
structure Kept (P : Op → Prop) (Q : ι → α → Prop) (K : σ → List (Nat × Performed Op Res ε) → Prop)
    (l : EventLoop ι Op Res ε α σ) : Prop where
  tasks : ∀ t ∈ l.tasks, t.2.Meets P (Q t.1)
  kept : K l.state l.log

section Kept

variable {P : Op → Prop} {Q : ι → α → Prop} {K : σ → List (Nat × Performed Op Res ε) → Prop}
  {l : EventLoop ι Op Res ε α σ}

theorem Kept.step (hl : l.Kept P Q K) (hbody : ∀ a, (body a).Meets P (Q a))
    (hK : ∀ a i c op s log, P op → K s log → K (h a c op s).2 (log ++ [(i, ⟨op, (h a c op s).1⟩)]))
    (event : LoopEvent ι χ) : (EventLoop.step sync h body l event).Kept P Q K := by
  cases event with
  | start a env =>
    obtain ⟨hrest, hkept⟩ := (hbody a).segment (hK a l.tasks.length) hl.kept
    refine ⟨fun t ht => ?_, hkept⟩
    rcases List.mem_append.mp ht with ht | ht
    · exact hl.tasks t ht
    · obtain rfl := List.mem_singleton.mp ht
      exact hrest
  | resume i env =>
    simp only [EventLoop.step]
    cases hp : l.tasks[i]? with
    | none => exact hl
    | some task =>
      obtain ⟨a, p⟩ := task
      obtain ⟨hrest, hkept⟩ :=
        (hl.tasks (a, p) (List.mem_of_getElem? hp)).resume (hK a i) hl.kept
      refine ⟨fun t ht => ?_, hkept⟩
      rcases List.mem_or_eq_of_mem_set ht with ht | rfl
      · exact hl.tasks t ht
      · exact hrest

/-- The rule for an invariant of the state and the log. -/
theorem Kept.foldl (hbody : ∀ a, (body a).Meets P (Q a))
    (hK : ∀ a i c op s log, P op → K s log → K (h a c op s).2 (log ++ [(i, ⟨op, (h a c op s).1⟩)]))
    (hl : l.Kept P Q K) (events : List (LoopEvent ι χ)) :
    (events.foldl (EventLoop.step sync h body) l).Kept P Q K := by
  induction events generalizing l with
  | nil => exact hl
  | cons event events ih => exact ih (hl.step hbody hK event)

end Kept

/-- Every task, whenever it is looked at, has done what its body reports. -/
theorem reported {E : (op : Op) → Except ε (Res op) → Prop} (hE : ∀ a c op s, E op (h a c op s).1)
    {Φ : ι → List (Performed Op Res ε) → Option (Except ε α) → Prop}
    (hbody : ∀ a, (body a).Reports sync E (Φ a)) (s : σ) (events : List (LoopEvent ι χ)) {i : Nat}
    {a : ι} {p : Prog Op Res ε α}
    (hp : (events.foldl (step sync h body) (idle s)).tasks[i]? = some (a, p)) :
    Φ a ((events.foldl (step sync h body) (idle s)).history i) p.settlement := by
  have heach : (events.foldl (step sync h body) (idle s)).Each fun a p done =>
      (∀ op, p.awaited = some op → sync op = false) ∧
        p.Reports sync E fun done' o => Φ a (done ++ done') o := by
    apply (Each.idle s).foldl
    · exact fun a env s =>
        ⟨fun op hop => Prog.sync_of_segment _ _ _ hop, (hbody a).segment (hE a)⟩
    · intro a env s p done hp
      refine ⟨fun op hop => Prog.sync_of_resume _ _ _ hop, ?_⟩
      simpa only [List.append_assoc] using hp.2.resume (hE a)
  obtain ⟨hsync, hreports⟩ := heach.task i a p hp
  simpa using hreports.here hsync

theorem perm_history {l : EventLoop ι Op Res ε α σ} {n : Nat} (hl : ∀ entry ∈ l.log, entry.1 < n) :
    (l.log.map Prod.snd).Perm ((List.range n).flatMap l.history) := by
  obtain ⟨tasks, s, log⟩ := l
  induction log with
  | nil => simp [history]
  | cons entry log ih =>
    have hhead : ∀ m, entry.1 < m →
        (List.range m).flatMap (fun i => if entry.1 = i then [entry.2] else []) = [entry.2] := by
      intro m hm
      induction m with
      | zero => cases hm
      | succ m ihm =>
        rw [List.range_succ, List.flatMap_append, List.flatMap_singleton]
        by_cases hlast : entry.1 = m
        · have hnone : (List.range m).flatMap
              (fun i => if entry.1 = i then [entry.2] else []) = [] := by
            rw [List.flatMap_eq_nil_iff]
            intro i hi
            exact if_neg fun hi' => Nat.ne_of_lt (List.mem_range.mp hi) (hi'.symm.trans hlast)
          rw [hnone, if_pos hlast, List.nil_append]
        · rw [ihm (Nat.lt_of_le_of_ne (Nat.le_of_lt_succ hm) hlast), if_neg hlast, List.append_nil]
    have hcons : ∀ i, history ⟨tasks, s, entry :: log⟩ i =
        (if entry.1 = i then [entry.2] else []) ++ history ⟨tasks, s, log⟩ i := by
      intro i
      simp only [history, List.filter_cons, decide_eq_true_eq]
      split <;> rfl
    rw [show history ⟨tasks, s, entry :: log⟩ = _ from funext hcons]
    refine List.Perm.trans ?_ (List.flatMap_append_perm ..)
    rw [hhead n (hl entry List.mem_cons_self), List.map_cons]
    exact (ih fun e he => hl e (List.mem_cons_of_mem _ he)).cons entry.2

section Alone

variable {s : σ} {a : ι}

theorem exists_turns (p : Prog Op Res ε α) (env : Script χ) (s : σ) (l : EventLoop ι Op Res ε α σ)
    (htasks : l.tasks = [(a, (p.segment sync (h a) env s).rest)])
    (hstate : l.state = (p.segment sync (h a) env s).state) :
    ∃ (events : List (LoopEvent ι χ)) (q : Prog Op Res ε α),
      (events.foldl (step sync h body) l).tasks = [(a, q)] ∧
      q.settlement = some (p.play (h a) env s).1 ∧
      (events.foldl (step sync h body) l).state = (p.play (h a) env s).2 := by
  induction p generalizing env s l with
  | pure b => exact ⟨[], _, htasks, rfl, hstate⟩
  | throw e => exact ⟨[], _, htasks, rfl, hstate⟩
  | await op k ih =>
    cases hop : sync op with
    | true =>
      simp only [Prog.segment, hop, if_true] at htasks hstate
      exact ih _ env.tail _ l htasks hstate
    | false =>
      rw [Prog.segment_await_async (h a) env s hop] at htasks hstate
      have hturn : step sync h body l (.resume 0 env) =
          ⟨[(a, ((Prog.await op k).resume sync (h a) env s).rest)],
            ((Prog.await op k).resume sync (h a) env s).state,
            l.record 0 ((Prog.await op k).resume sync (h a) env s).performed⟩ := by
        simp only [step, htasks, hstate, List.getElem?_cons_zero, List.set_cons_zero]
      obtain ⟨events, q, hq⟩ := ih _ env.tail _ (step sync h body l (.resume 0 env))
        (by rw [hturn]; rfl) (by rw [hturn]; rfl)
      exact ⟨.resume 0 env :: events, q, hq⟩

/-- A task that has the loop to itself behaves as `play` says. -/
theorem exists_alone (a : ι) (env : Script χ) (s : σ) :
    ∃ (events : List (LoopEvent ι χ)) (q : Prog Op Res ε α),
      (events.foldl (step sync h body) (idle s)).tasks = [(a, q)] ∧
      q.settlement = some ((body a).play (h a) env s).1 ∧
      (events.foldl (step sync h body) (idle s)).state = ((body a).play (h a) env s).2 := by
  obtain ⟨events, q, hq⟩ := exists_turns (body a) env s
    (step sync h body (idle s) (.start a env)) rfl rfl
  exact ⟨.start a env :: events, q, hq⟩

end Alone

end EventLoop
