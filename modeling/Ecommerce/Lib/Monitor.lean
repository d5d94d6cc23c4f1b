import Ecommerce.Lib.EventLoop

/-! Tasks under a monitor, which allows an operation or forbids it by what the task has done. -/

universe u v w x

namespace Prog

variable {Op : Type u} {Res : Op → Type v} {ε : Type w} {α β σ χ ι : Type x}

/-- However its operations settle, the program performs only what is allowed after what has been
done, and settles as `Q` says. -/
def Monitored (E : (op : Op) → Except ε (Res op) → Prop)
    (A : List (Performed Op Res ε) → Op → Prop) :
    Prog Op Res ε α → (List (Performed Op Res ε) → Except ε α → Prop) →
      List (Performed Op Res ε) → Prop
  | .pure a, Q, done => Q done (.ok a)
  | .throw e, Q, done => Q done (.error e)
  | .await op k, Q, done => A done op ∧ ∀ r, E op r → Monitored E A (k r) Q (done ++ [⟨op, r⟩])

section Rules

variable {E : (op : Op) → Except ε (Res op) → Prop} {A : List (Performed Op Res ε) → Op → Prop}
  {Q Q' : List (Performed Op Res ε) → Except ε α → Prop} {done : List (Performed Op Res ε)}

@[simp] theorem monitored_pure (a : α) :
    Monitored E A (Pure.pure a : Prog Op Res ε α) Q done ↔ Q done (.ok a) := Iff.rfl

@[simp] theorem monitored_throw (e : ε) :
    Monitored E A (MonadExcept.throw e : Prog Op Res ε α) Q done ↔ Q done (.error e) := Iff.rfl

@[simp] theorem monitored_settle {Res : Op → Type x} {E : (op : Op) → Except ε (Res op) → Prop}
    {A : List (Performed Op Res ε) → Op → Prop}
    {Q : List (Performed Op Res ε) → Except ε α → Prop} {done : List (Performed Op Res ε)}
    {r : Except ε α} :
    Monitored E A (settle r : Prog Op Res ε α) Q done ↔ Q done r := by
  cases r <;> exact Iff.rfl

@[simp] theorem monitored_perform {Res : Op → Type x} {E : (op : Op) → Except ε (Res op) → Prop}
    {A : List (Performed Op Res ε) → Op → Prop} {op : Op}
    {Q : List (Performed Op Res ε) → Except ε (Res op) → Prop} {done : List (Performed Op Res ε)} :
    Monitored E A (perform op) Q done ↔
      A done op ∧ ∀ r, E op r → Q (done ++ [⟨op, r⟩]) r :=
  and_congr_right fun _ => forall_congr' fun _ => imp_congr_right fun _ => monitored_settle

@[simp] theorem monitored_bind {p : Prog Op Res ε α} {f : α → Prog Op Res ε β}
    {Q : List (Performed Op Res ε) → Except ε β → Prop} :
    Monitored E A (p >>= f) Q done ↔ Monitored E A p (fun done r =>
      match r with
      | .ok a => Monitored E A (f a) Q done
      | .error e => Q done (.error e)) done := by
  change Monitored E A (p.bind f) Q done ↔ _
  induction p generalizing done with
  | pure a => exact Iff.rfl
  | throw e => exact Iff.rfl
  | await op k ih =>
    exact and_congr_right fun _ => forall_congr' fun r => imp_congr_right fun _ => ih r

@[simp] theorem monitored_tryCatch {p : Prog Op Res ε α} {f : ε → Prog Op Res ε α} :
    Monitored E A (p.tryCatch f) Q done ↔ Monitored E A p (fun done r =>
      match r with
      | .ok a => Q done (.ok a)
      | .error e => Monitored E A (f e) Q done) done := by
  induction p generalizing done with
  | pure a => exact Iff.rfl
  | throw e => exact Iff.rfl
  | await op k ih =>
    exact and_congr_right fun _ => forall_congr' fun r => imp_congr_right fun _ => ih r

theorem Monitored.weaken {A' : List (Performed Op Res ε) → Op → Prop} {p : Prog Op Res ε α}
    (hp : Monitored E A p Q done) (hA : ∀ done op, A done op → A' done op)
    (hQ : ∀ done r, Q done r → Q' done r) : Monitored E A' p Q' done := by
  induction p generalizing done with
  | pure a => exact hQ _ _ hp
  | throw e => exact hQ _ _ hp
  | await op k ih => exact ⟨hA _ _ hp.1, fun r hr => ih r (hp.2 r hr)⟩

theorem Monitored.mono {p : Prog Op Res ε α} (hp : Monitored E A p Q done)
    (hQ : ∀ done r, Q done r → Q' done r) : Monitored E A p Q' done :=
  hp.weaken (fun _ _ => id) hQ

theorem Awaits.monitored {P : Op → Prop} {I : List (Performed Op Res ε) → Prop}
    {p : Prog Op Res ε α} (hp : p.Awaits P) (hA : ∀ done op, I done → P op → A done op)
    (hI : ∀ done op r, I done → P op → I (done ++ [⟨op, r⟩])) (hdone : I done) :
    Monitored E A p (fun done _ => I done) done := by
  induction p generalizing done with
  | pure a => exact hdone
  | throw e => exact hdone
  | await op k ih =>
    exact ⟨hA done op hdone hp.1, fun r _ => ih r (hp.2 r) (hI done op r hdone hp.1)⟩

theorem Monitored.swallow {I : List (Performed Op Res ε) → Prop} {p : Prog Op Res ε α}
    (hp : Monitored E A p (fun done _ => I done) done) (f : ε → α) :
    Monitored E A (p.tryCatch fun e => Pure.pure (f e))
      (fun done r => I done ∧ ∃ a, r = .ok a) done := by
  rw [monitored_tryCatch]
  refine hp.mono fun done r h => ?_
  cases r with
  | ok a => exact ⟨h, a, rfl⟩
  | error e => exact ⟨h, f e, rfl⟩

end Rules

end Prog

namespace EventLoop

open Prog

variable {ι : Type x} {Op : Type u} {Res : Op → Type v} {ε : Type w} {α σ χ : Type x}

def turnsOf (log : List (Nat × Performed Op Res ε)) (i : Nat) : List (Performed Op Res ε) :=
  (log.filter (·.1 = i)).map (·.2)

section TurnsOf

variable {log : List (Nat × Performed Op Res ε)} {i j : Nat} {d : Performed Op Res ε}

theorem turnsOf_snoc_self : turnsOf (log ++ [(i, d)]) i = turnsOf log i ++ [d] := by
  simp [turnsOf]

theorem turnsOf_append_of_ne (h : i ≠ j) (performed : List (Performed Op Res ε)) :
    turnsOf (log ++ performed.map fun d => (i, d)) j = turnsOf log j := by
  simp [turnsOf, List.filter_map, Function.comp_def, h]

theorem mem_turnsOf : d ∈ turnsOf log i ↔ (i, d) ∈ log := by
  simp [turnsOf, eq_comm]

theorem turnsOf_eq_nil {n : Nat} (h : ∀ entry ∈ log, entry.1 < n) : turnsOf log n = [] := by
  rw [turnsOf, List.map_eq_nil_iff, List.filter_eq_nil_iff]
  intro entry hentry
  simpa using Nat.ne_of_lt (h entry hentry)

end TurnsOf

variable {sync : Op → Bool}

section Segment

variable {h : χ → Handler Op Res ε σ} {E : (op : Op) → Except ε (Res op) → Prop}
  {A : List (Performed Op Res ε) → Op → Prop} {Q : List (Performed Op Res ε) → Except ε α → Prop}
  {K : σ → List (Nat × Performed Op Res ε) → Prop} {p : Prog Op Res ε α} {s : σ}
  {log : List (Nat × Performed Op Res ε)} {i : Nat}

theorem monitored_segment (sync : Op → Bool) (env : Script χ) (hE : ∀ c op s, E op (h c op s).1)
    (hp : Monitored E A p Q (turnsOf log i))
    (hK : ∀ c op s log, A (turnsOf log i) op → K s log →
      K (h c op s).2 (log ++ [(i, ⟨op, (h c op s).1⟩)]))
    (hs : K s log) :
    Monitored E A (p.segment sync h env s).rest Q
        (turnsOf (log ++ (p.segment sync h env s).performed.map fun d => (i, d)) i) ∧
      K (p.segment sync h env s).state
        (log ++ (p.segment sync h env s).performed.map fun d => (i, d)) := by
  induction p generalizing env s log with
  | pure a => simpa [Prog.segment] using ⟨hp, hs⟩
  | throw e => simpa [Prog.segment] using ⟨hp, hs⟩
  | await op k ih =>
    cases hop : sync op with
    | false =>
      rw [segment_await_async h env s hop]
      simpa using ⟨hp, hs⟩
    | true =>
      have hnext := hp.2 _ (hE (env 0) op s)
      rw [← turnsOf_snoc_self] at hnext
      have hrest := ih (h (env 0) op s).1 env.tail hnext (hK (env 0) op s log hp.1 hs)
      simp only [Prog.segment, hop, if_true, List.map_cons]
      simpa only [List.append_assoc, List.singleton_append] using hrest

theorem monitored_resume (sync : Op → Bool) (env : Script χ) (hE : ∀ c op s, E op (h c op s).1)
    (hp : Monitored E A p Q (turnsOf log i))
    (hK : ∀ c op s log, A (turnsOf log i) op → K s log →
      K (h c op s).2 (log ++ [(i, ⟨op, (h c op s).1⟩)]))
    (hs : K s log) :
    Monitored E A (p.resume sync h env s).rest Q
        (turnsOf (log ++ (p.resume sync h env s).performed.map fun d => (i, d)) i) ∧
      K (p.resume sync h env s).state
        (log ++ (p.resume sync h env s).performed.map fun d => (i, d)) := by
  cases p with
  | pure a => simpa [Prog.resume] using ⟨hp, hs⟩
  | throw e => simpa [Prog.resume] using ⟨hp, hs⟩
  | await op k =>
    have hnext := hp.2 _ (hE (env 0) op s)
    rw [← turnsOf_snoc_self] at hnext
    have hrest := monitored_segment sync env.tail hE hnext hK (hK (env 0) op s log hp.1 hs)
    simpa only [Prog.resume, List.map_cons, List.append_assoc, List.singleton_append] using hrest

end Segment

/-- What is left of every task is under its label's monitor, and the books that every allowed
operation keeps have been kept. -/
structure Audited (E : (op : Op) → Except ε (Res op) → Prop)
    (A : ι → List (Performed Op Res ε) → Op → Prop)
    (Q : ι → List (Performed Op Res ε) → Except ε α → Prop)
    (K : List ι → σ → List (Nat × Performed Op Res ε) → Prop) (l : EventLoop ι Op Res ε α σ) :
    Prop where
  log_lt : ∀ entry ∈ l.log, entry.1 < l.tasks.length
  tasks : ∀ (i : Nat) (a : ι) (p : Prog Op Res ε α), l.tasks[i]? = some (a, p) →
    Monitored E (A a) p (Q a) (turnsOf l.log i)
  kept : K (l.tasks.map Prod.fst) l.state l.log

section Audited

variable {h : ι → χ → Handler Op Res ε σ} {body : ι → Prog Op Res ε α}
  {E : (op : Op) → Except ε (Res op) → Prop} {A : ι → List (Performed Op Res ε) → Op → Prop}
  {Q : ι → List (Performed Op Res ε) → Except ε α → Prop}
  {K : List ι → σ → List (Nat × Performed Op Res ε) → Prop} {l : EventLoop ι Op Res ε α σ}

theorem Audited.step (hl : l.Audited E A Q K) (hE : ∀ a c op s, E op (h a c op s).1)
    (hbody : ∀ a, Monitored E (A a) (body a) (Q a) [])
    (hstart : ∀ labels a s log, K labels s log → K (labels ++ [a]) s log)
    (hK : ∀ labels i a c op s log, labels[i]? = some a → A a (turnsOf log i) op → K labels s log →
      K labels (h a c op s).2 (log ++ [(i, ⟨op, (h a c op s).1⟩)]))
    (event : LoopEvent ι χ) : (EventLoop.step sync h body l event).Audited E A Q K := by
  have hlog : (EventLoop.step sync h body l event).Each fun _ _ _ => True :=
    Each.step ⟨hl.log_lt, fun _ _ _ _ => trivial⟩ (fun _ _ _ => trivial)
      (fun _ _ _ _ _ _ => trivial) event
  cases event with
  | start a env =>
    -- a task that starts has done nothing, so the log has nothing of it
    have hlabel : (l.tasks.map Prod.fst ++ [a])[l.tasks.length]? = some a := by simp
    have hbegin : Monitored E (A a) (body a) (Q a) (turnsOf l.log l.tasks.length) := by
      rw [turnsOf_eq_nil hl.log_lt]
      exact hbody a
    obtain ⟨hrest, hkept⟩ := monitored_segment sync env (hE a) hbegin
      (fun c op s log => hK _ _ a c op s log hlabel) (hstart _ a _ _ hl.kept)
    refine ⟨hlog.log_lt, fun j b q hq => ?_, ?_⟩
    · by_cases hj : j = l.tasks.length
      · subst hj
        obtain ⟨rfl, rfl⟩ : a = b ∧ _ = q := by simpa [EventLoop.step] using hq
        exact hrest
      · have hold : l.tasks[j]? = some (b, q) := by
          simp only [EventLoop.step, List.getElem?_append] at hq
          split at hq
          · exact hq
          · next hlt =>
            have hout : j - l.tasks.length ≠ 0 := by omega
            simp [hout] at hq
        have hturns : turnsOf (EventLoop.step sync h body l (.start a env)).log j =
            turnsOf l.log j := turnsOf_append_of_ne (Ne.symm hj) _
        rw [hturns]
        exact hl.tasks j b q hold
    · simpa [EventLoop.step, record] using hkept
  | resume i env =>
    cases hp : l.tasks[i]? with
    | none => simpa only [EventLoop.step, hp] using hl
    | some task =>
      obtain ⟨a, p⟩ := task
      have hlabel : (l.tasks.map Prod.fst)[i]? = some a := by simp [hp]
      obtain ⟨hlt, -⟩ := List.getElem?_eq_some_iff.mp hp
      obtain ⟨hrest, hkept⟩ := monitored_resume sync env (hE a)
        (hl.tasks i a p hp) (fun c op s log => hK _ _ a c op s log hlabel) hl.kept
      refine ⟨hlog.log_lt, fun j b q hq => ?_, ?_⟩
      · simp only [EventLoop.step, hp] at hq ⊢
        by_cases hj : i = j
        · subst hj
          obtain ⟨rfl, rfl⟩ : a = b ∧ _ = q := by simpa [hlt] using hq
          exact hrest
        · rw [List.getElem?_set_ne hj] at hq
          have hturns : turnsOf (l.record i (p.resume sync (h a) env l.state).performed) j =
              turnsOf l.log j := turnsOf_append_of_ne hj _
          rw [hturns]
          exact hl.tasks j b q hq
      · simp only [EventLoop.step, hp]
        rw [labels_set hp]
        exact hkept

/-- The rule for books that are kept over tasks under a monitor. -/
theorem Audited.foldl (hE : ∀ a c op s, E op (h a c op s).1)
    (hbody : ∀ a, Monitored E (A a) (body a) (Q a) [])
    (hstart : ∀ labels a s log, K labels s log → K (labels ++ [a]) s log)
    (hK : ∀ labels i a c op s log, labels[i]? = some a → A a (turnsOf log i) op → K labels s log →
      K labels (h a c op s).2 (log ++ [(i, ⟨op, (h a c op s).1⟩)]))
    (hl : l.Audited E A Q K) (events : List (LoopEvent ι χ)) :
    (events.foldl (EventLoop.step sync h body) l).Audited E A Q K := by
  induction events generalizing l with
  | nil => exact hl
  | cons event events ih => exact ih (hl.step hE hbody hstart hK event)

theorem Audited.idle {s : σ} (hs : K [] s []) :
    (EventLoop.idle s : EventLoop ι Op Res ε α σ).Audited E A Q K where
  log_lt := by simp [EventLoop.idle]
  tasks := by simp [EventLoop.idle]
  kept := hs

theorem Audited.settled (hl : l.Audited E A Q K) {i : Nat} {a : ι} {p : Prog Op Res ε α}
    (hp : l.tasks[i]? = some (a, p)) {r : Except ε α} (hr : p.settlement = some r) :
    Q a (turnsOf l.log i) r := by
  have hmonitored := hl.tasks i a p hp
  cases p with
  | pure b => exact Option.some.inj hr ▸ hmonitored
  | throw e => exact Option.some.inj hr ▸ hmonitored
  | await op k => cases hr

end Audited

end EventLoop
