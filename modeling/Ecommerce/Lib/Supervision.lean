import Ecommerce.Lib.Async
import Ecommerce.Lib.Pool
import Ecommerce.Lib.Triple

universe u v w x

inductive SupervisionEvent (χ : Type u) (σ : Type v)
  | turn (process : Nat) (move : χ)
  | exit (process : Nat)
  | write (state : σ)

namespace Supervision

variable {Op : Type u} {Res : Op → Type v} {ε : Type w} {α σ χ : Type x}

def advance (start : Prog Op Res ε α) (h : χ → Handler Op Res ε σ) (c : χ) :
    Prog Op Res ε α → σ → Prog Op Res ε α × σ
  | .throw _, s => (start, s)
  | p, s => p.step (h c) s

def step (start : Prog Op Res ε α) (h : χ → Handler Op Res ε σ) (pool : Pool (Prog Op Res ε α) σ) :
    SupervisionEvent χ σ → Pool (Prog Op Res ε α) σ
  | .turn i c => Pool.turn (advance start h) pool (i, c)
  | .exit i => { pool with threads := pool.threads.set i start }
  | .write s => { pool with state := s }

/-- How many turns the process gets. -/
def turns (i : Nat) : List (SupervisionEvent χ σ) → Nat
  | [] => 0
  | .turn j _ :: events => (if j = i then 1 else 0) + turns i events
  | .exit _ :: events => turns i events
  | .write _ :: events => turns i events

/-- `R` is what everybody does to the state. -/
structure Rely (h : χ → Handler Op Res ε σ) (R : σ → σ → Prop) : Prop where
  refl : ∀ s, R s s
  trans : ∀ {s t u}, R s t → R t u → R s u
  handle : ∀ c op s, R s (h c op s).2

/-- What others write keeps to `R`. -/
def Writes (R : σ → σ → Prop) (pool : Pool (Prog Op Res ε α) σ) : SupervisionEvent χ σ → Prop
  | .turn _ _ => True
  | .exit _ => True
  | .write s => R pool.state s

section Within

variable (start : Prog Op Res ε α) (h : χ → Handler Op Res ε σ) (C : χ → σ → Prop)
  (R : σ → σ → Prop)

/-- The process resolves within `n` turns, whatever the others do in between.  `C` is what the
environment promises of its moves. -/
def Within : Nat → Prog Op Res ε α → σ → Prop
  | _, .pure _, _ => True
  | 0, _, _ => False
  | n + 1, .throw _, s => Within n start s
  | n + 1, .await op k, s => ∀ c t, R s t → C c t → Within n (k (h c op t).1) (h c op t).2

/-- The promise is kept to one process. -/
def Promised (i : Nat) (pool : Pool (Prog Op Res ε α) σ) : SupervisionEvent χ σ → Prop
  | .turn j c => j = i → C c pool.state
  | .exit _ => True
  | .write _ => True

end Within

/-- A process that resolves does so in a state of `Q`, whatever the others do in between. -/
def Safe (h : χ → Handler Op Res ε σ) (R : σ → σ → Prop) (Q : σ → Prop) :
    Prog Op Res ε α → σ → Prop
  | .pure _, s => Q s
  | .throw _, _ => True
  | .await op k, s => ∀ c t, R s t → Safe h R Q (k (h c op t).1) (h c op t).2

section Rules

variable {start : Prog Op Res ε α} {h : χ → Handler Op Res ε σ} {C : χ → σ → Prop}
  {R : σ → σ → Prop} {n m : Nat} {p : Prog Op Res ε α} {s t : σ}

@[simp] theorem within_pure (a : α) :
    Within start h C R n (Pure.pure a : Prog Op Res ε α) s := by
  change Within start h C R n (.pure a) s
  cases n <;> trivial

theorem Within.rely (hR : Rely h R) (hst : R s t) (hp : Within start h C R n p s) :
    Within start h C R n p t := by
  induction n generalizing p with
  | zero => cases p <;> exact hp
  | succ n ih =>
    cases p with
    | pure a => trivial
    | throw e => exact ih hp
    | await op k => exact fun c u htu hc => hp c u (hR.trans hst htu) hc

theorem Within.mono (hnm : n ≤ m) (hp : Within start h C R n p s) : Within start h C R m p s := by
  induction m generalizing n p s with
  | zero =>
    obtain rfl := Nat.le_zero.mp hnm
    exact hp
  | succ m ih =>
    cases p with
    | pure a => trivial
    | throw e =>
      cases n with
      | zero => exact hp.elim
      | succ n => exact ih (Nat.le_of_succ_le_succ hnm) hp
    | await op k =>
      cases n with
      | zero => exact hp.elim
      | succ n => exact fun c t hst hc => ih (Nat.le_of_succ_le_succ hnm) (hp c t hst hc)

theorem within_perform_bind {Res : Op → Type x} {h : χ → Handler Op Res ε σ}
    {start : Prog Op Res ε α} {op : Op} {f : Res op → Prog Op Res ε α}
    (hok : ∀ c t, R s t → C c t → ∀ r t', h c op t = (.ok r, t') → Within start h C R n (f r) t')
    (herror : ∀ c t, R s t → C c t → ∀ e t', h c op t = (.error e, t') →
      Within start h C R n (.throw e) t') :
    Within start h C R (n + 1) (Prog.perform op >>= f) s := by
  intro c t hst hc
  rcases hr : h c op t with ⟨e | r, t'⟩
  · exact herror c t hst hc e t' hr
  · exact hok c t hst hc r t' hr

variable {pool : Pool (Prog Op Res ε α) σ} {i : Nat} {events : List (SupervisionEvent χ σ)}

theorem writes_of_alone (halone : ∀ s, .write s ∉ events) :
    Runs.Along (step start h) (Writes R) pool events := by
  refine Runs.Along.mono (fun pool e he => ?_)
    (Runs.along_of_forall (P := fun e => ∀ s, e ≠ .write s) fun e he s hs => halone s (hs ▸ he))
  cases e with
  | turn j c => trivial
  | exit j => trivial
  | write s => exact absurd rfl (he s)

theorem Rely.step (hR : Rely h R) {e : SupervisionEvent χ σ} (he : Writes R pool e) :
    R pool.state (step start h pool e).state := by
  cases e with
  | turn j c =>
    simp only [Supervision.step]
    cases hj : pool.threads[j]? with
    | none => rw [Pool.state_turn_none hj]; exact hR.refl _
    | some q =>
      rw [Pool.state_turn hj]
      cases q with
      | pure a => exact hR.refl _
      | throw e => exact hR.refl _
      | await op k => exact hR.handle c op _
  | exit j => exact hR.refl _
  | write s => exact he

/-- The progress rule: a process that gets its turns resolves, whatever the others are promised. -/
theorem Within.resolves (hR : Rely h R) (hi : pool.threads[i]? = some p)
    (hp : Within start h C R n p pool.state)
    (hwrites : Runs.Along (step start h) (Writes R) pool events)
    (hpromised : Runs.Along (step start h) (Promised C i) pool events)
    (hexits : .exit i ∉ events) (hturns : n ≤ turns i events) :
    ∃ a, (events.foldl (step start h) pool).threads[i]? = some (.pure a) := by
  induction events generalizing pool p n with
  | nil =>
    obtain rfl := Nat.le_zero.mp hturns
    cases p with
    | pure a => exact ⟨a, hi⟩
    | throw e => exact hp.elim
    | await op k => exact hp.elim
  | cons e events ih =>
    obtain ⟨he, hwrites⟩ := hwrites
    obtain ⟨hpromise, hpromised⟩ := hpromised
    rw [List.mem_cons, not_or] at hexits
    obtain ⟨hexit, hexits⟩ := hexits
    have hstate : R pool.state (step start h pool e).state := hR.step he
    rw [List.foldl_cons]
    cases e with
    | turn j c =>
      by_cases hij : j = i
      · subst hij
        have hmoved : (step start h pool (.turn j c)).threads[j]? =
            some (advance start h c p pool.state).1 := Pool.threads_turn_self hi
        cases p with
        | pure a => exact ih hmoved (n := 0) trivial hwrites hpromised hexits (Nat.zero_le _)
        | throw e =>
          cases n with
          | zero => exact hp.elim
          | succ n =>
            exact ih hmoved (Within.rely hR hstate hp) hwrites hpromised hexits
              (by simp only [turns, if_pos] at hturns; omega)
        | await op k =>
          cases n with
          | zero => exact hp.elim
          | succ n =>
            have hnext := hp c pool.state (hR.refl _) (hpromise rfl)
            have hstate' : (step start h pool (.turn j c)).state =
                (advance start h c (.await op k) pool.state).2 := Pool.state_turn hi
            refine ih hmoved (n := n) ?_ hwrites hpromised hexits
              (by simp only [turns, if_pos] at hturns; omega)
            rw [hstate']
            exact hnext
      · have hsame : (step start h pool (.turn j c)).threads[i]? = pool.threads[i]? :=
          Pool.threads_turn_of_ne hij
        exact ih (hsame.trans hi) (hp.rely hR hstate) hwrites hpromised hexits
          (by simpa only [turns, if_neg hij, Nat.zero_add] using hturns)
    | exit j =>
      have hij : j ≠ i := fun hij => hexit (congrArg SupervisionEvent.exit hij.symm)
      exact ih ((List.getElem?_set_ne hij).trans hi) (hp.rely hR hstate) hwrites hpromised hexits
        hturns
    | write s => exact ih hi (hp.rely hR hstate) hwrites hpromised hexits hturns

section Safe

variable {Q : σ → Prop}

theorem Safe.rely (hR : Rely h R) (hQ : ∀ s t, R s t → Q s → Q t) (hst : R s t)
    (hp : Safe h R Q p s) : Safe h R Q p t := by
  cases p with
  | pure a => exact hQ s t hst hp
  | throw e => trivial
  | await op k => exact fun c u htu => hp c u (hR.trans hst htu)

theorem safe_of_now (hR : Rely h R) (hQ : ∀ s t, R s t → Q s → Q t) (hs : Q s) :
    Safe h R Q p s := by
  induction p generalizing s with
  | pure a => exact hs
  | throw e => trivial
  | await op k ih => exact fun c t hst => ih _ (hQ _ _ (hR.handle c op t) (hQ _ _ hst hs))

theorem safe_perform_bind {Res : Op → Type x} {h : χ → Handler Op Res ε σ} {op : Op}
    {f : Res op → Prog Op Res ε α}
    (hok : ∀ c t, R s t → ∀ r t', h c op t = (.ok r, t') → Safe h R Q (f r) t') :
    Safe h R Q (Prog.perform op >>= f) s := by
  intro c t hst
  rcases hr : h c op t with ⟨e | r, t'⟩
  · trivial
  · exact hok c t hst r t' hr

/-- The rule for what holds wherever a process has resolved. -/
theorem Safe.run (hR : Rely h R) (hQ : ∀ s t, R s t → Q s → Q t)
    (hstart : ∀ s, Safe h R Q start s)
    (hpool : ∀ p ∈ pool.threads, Safe h R Q p pool.state)
    (hwrites : Runs.Along (step start h) (Writes R) pool events) :
    ∀ p ∈ (events.foldl (step start h) pool).threads,
      Safe h R Q p (events.foldl (step start h) pool).state := by
  refine Runs.foldl_of_along (J := fun pool => ∀ p ∈ pool.threads, Safe h R Q p pool.state)
    (fun pool e hpool he => ?_) hpool hwrites
  have hothers : ∀ p ∈ pool.threads, Safe h R Q p (step start h pool e).state :=
    fun p hp => (hpool p hp).rely hR hQ (hR.step he)
  cases e with
  | turn j c =>
    intro p hp
    simp only [Supervision.step] at hothers hp ⊢
    cases hj : pool.threads[j]? with
    | none =>
      rw [Pool.turn, hj] at hp
      exact hothers p hp
    | some q =>
      have hturn : Pool.turn (advance start h) pool (j, c) =
          ⟨pool.threads.set j (advance start h c q pool.state).1,
            (advance start h c q pool.state).2⟩ := Pool.turn_of_some hj
      rw [hturn] at hothers hp ⊢
      rcases List.mem_or_eq_of_mem_set hp with hp | rfl
      · exact hothers p hp
      · have hq := hpool q (List.mem_of_getElem? hj)
        cases q with
        | pure a => exact hq
        | throw e => exact hstart _
        | await op k => exact hq c pool.state (hR.refl _)
  | exit j =>
    intro p hp
    rcases List.mem_or_eq_of_mem_set hp with hp | rfl
    · exact hothers p hp
    · exact hstart _
  | write s => exact hothers

end Safe

section Invariant

open Prog

variable {P : Op → Prop} {I : σ → Prop}

/-- The rule for an invariant of the state, where processes await only operations of `P`. -/
theorem invariant_run (hstart : Awaits P start) (hI : ∀ c op s, P op → I s → I (h c op s).2)
    (hpool : ∀ p ∈ pool.threads, Awaits P p) (hs : I pool.state)
    (hwrites : ∀ s, .write s ∈ events → I s) : I (events.foldl (step start h) pool).state := by
  have halong : Runs.Along (step start h) (fun _ e => ∀ s, e = .write s → I s) pool events :=
    Runs.along_of_forall fun e he s hs => hwrites s (hs ▸ he)
  refine (Runs.foldl_of_along (J := fun pool => (∀ p ∈ pool.threads, Awaits P p) ∧ I pool.state)
    (fun pool e hpool he => ?_) ⟨hpool, hs⟩ halong).2
  cases e with
  | turn j c =>
    refine Pool.turn_ind (motive := fun pool => (∀ p ∈ pool.threads, Awaits P p) ∧ I pool.state)
      hpool fun q hq => ?_
    have hawaits := hpool.1 q (List.mem_of_getElem? hq)
    have hmoved : Awaits P (advance start h c q pool.state).1 ∧
        I (advance start h c q pool.state).2 := by
      cases q with
      | pure a => exact ⟨hawaits, hpool.2⟩
      | throw e => exact ⟨hstart, hpool.2⟩
      | await op k => exact ⟨hawaits.2 _, hI c op pool.state hawaits.1 hpool.2⟩
    refine ⟨fun p hp => ?_, hmoved.2⟩
    rcases List.mem_or_eq_of_mem_set hp with hp | rfl
    · exact hpool.1 p hp
    · exact hmoved.1
  | exit j =>
    refine ⟨fun p hp => ?_, hpool.2⟩
    rcases List.mem_or_eq_of_mem_set hp with hp | rfl
    · exact hpool.1 p hp
    · exact hstart
  | write s => exact ⟨hpool.1, he s rfl⟩

end Invariant

end Rules

end Supervision
