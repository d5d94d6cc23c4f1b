import Ecommerce.Lib.Pool
import Ecommerce.Lib.Triple

/-! Programs under interference: what a thread does at its turns of a schedule, whatever the other
threads do in between. -/

universe u w

namespace Prog

variable {Op : Type u} {Res : Op → Type} {ε : Type w} {α β : Type}

/-- From time `n` on, the program awaits only what `G` allows and settles in `Q`, where an operation
performed at time `m` settles as `E` says. -/
def Under (E : Nat → (op : Op) → Except ε (Res op) → Prop) (G : Nat → Op → Prop) :
    Prog Op Res ε α → (Except ε α → Nat → Prop) → Nat → Prop
  | .pure a, Q, n => Q (.ok a) n
  | .throw e, Q, n => Q (.error e) n
  | .await op k, Q, n => ∀ m, n ≤ m → G m op ∧ ∀ r, E m op r → Under E G (k r) Q (m + 1)

variable {E : Nat → (op : Op) → Except ε (Res op) → Prop} {G : Nat → Op → Prop}
  {Q : Except ε α → Nat → Prop} {n m : Nat}

@[simp] theorem under_pure (a : α) :
    Under E G (Pure.pure a : Prog Op Res ε α) Q n ↔ Q (.ok a) n := Iff.rfl

@[simp] theorem under_settle {r : Except ε α} :
    Under E G (settle r : Prog Op Res ε α) Q n ↔ Q r n := by
  cases r <;> exact Iff.rfl

@[simp] theorem under_perform {op : Op} {Q : Except ε (Res op) → Nat → Prop} :
    Under E G (perform op) Q n ↔ ∀ m, n ≤ m → G m op ∧ ∀ r, E m op r → Q r (m + 1) := by
  refine forall_congr' fun m => imp_congr_right fun _ => and_congr_right fun _ => ?_
  exact forall_congr' fun r => imp_congr_right fun _ => under_settle

@[simp] theorem under_bind {p : Prog Op Res ε α} {f : α → Prog Op Res ε β}
    {Q : Except ε β → Nat → Prop} :
    Under E G (p >>= f) Q n ↔
      Under E G p (cont (fun a => Under E G (f a) Q) fun e => Q (.error e)) n := by
  change Under E G (p.bind f) Q n ↔ _
  induction p generalizing n with
  | pure a => exact Iff.rfl
  | throw e => exact Iff.rfl
  | await op k ih =>
    refine forall_congr' fun m => imp_congr_right fun _ => and_congr_right fun _ => ?_
    exact forall_congr' fun r => imp_congr_right fun _ => ih r

@[simp] theorem under_tryCatch {p : Prog Op Res ε α} {f : ε → Prog Op Res ε α} :
    Under E G (p.tryCatch f) Q n ↔
      Under E G p (cont (fun a => Q (.ok a)) fun e => Under E G (f e) Q) n := by
  induction p generalizing n with
  | pure a => exact Iff.rfl
  | throw e => exact Iff.rfl
  | await op k ih =>
    refine forall_congr' fun m => imp_congr_right fun _ => and_congr_right fun _ => ?_
    exact forall_congr' fun r => imp_congr_right fun _ => ih r

theorem Under.mono {p : Prog Op Res ε α} {Q' : Except ε α → Nat → Prop} (hp : Under E G p Q n)
    (hQ : ∀ r m, n ≤ m → Q r m → Q' r m) : Under E G p Q' n := by
  induction p generalizing n with
  | pure a => exact hQ _ n le_rfl hp
  | throw e => exact hQ _ n le_rfl hp
  | await op k ih =>
    intro m hm
    refine ⟨(hp m hm).1, fun r hr => ih r ((hp m hm).2 r hr) fun r' l hl => ?_⟩
    exact hQ r' l (hm.trans (m.le_succ.trans hl))

theorem Under.later {p : Prog Op Res ε α} (hQ : ∀ r n, Q r n → Q r (n + 1))
    (hp : Under E G p Q n) (hnm : n ≤ m) : Under E G p Q m := by
  cases p with
  | pure a => exact Nat.le_induction hp (fun k _ hk => hQ _ k hk) m hnm
  | throw e => exact Nat.le_induction hp (fun k _ hk => hQ _ k hk) m hnm
  | await op k => exact fun l hl => hp l (hnm.trans hl)

theorem Awaits.under {P : Op → Prop} {p : Prog Op Res ε α} (hp : Awaits P p)
    (hG : ∀ n op, P op → G n op) (hQ : ∀ r n, Q r n) : Under E G p Q n := by
  induction p generalizing n with
  | pure a => exact hQ _ _
  | throw e => exact hQ _ _
  | await op k ih => exact fun m _ => ⟨hG m op hp.1, fun r _ => ih r (hp.2 r)⟩

end Prog

namespace Pool

open Prog

variable {Op : Type u} {Res : Op → Type} {ε : Type w} {α σ χ : Type}

def race (h : χ → Handler Op Res ε σ) (pool : Pool (Prog Op Res ε α) σ)
    (sched : Nat → Nat × χ) : Nat → Pool (Prog Op Res ε α) σ :=
  after (fun c p s => p.step (h c) s) pool sched

def Performs (h : χ → Handler Op Res ε σ) (pool : Pool (Prog Op Res ε α) σ)
    (sched : Nat → Nat × χ) (i n : Nat) (op : Op) : Prop :=
  (sched n).1 = i ∧ ∃ k, (race h pool sched n).threads[i]? = some (.await op k)

def Settles (h : χ → Handler Op Res ε σ) (pool : Pool (Prog Op Res ε α) σ)
    (sched : Nat → Nat × χ) (i n : Nat) (op : Op) (r : Except ε (Res op)) : Prop :=
  Performs h pool sched i n op ∧ r = (h (sched n).2 op (race h pool sched n).state).1

variable {h : χ → Handler Op Res ε σ} {pool : Pool (Prog Op Res ε α) σ} {sched : Nat → Nat × χ}
  {i n m : Nat} {p : Prog Op Res ε α}

theorem race_succ (n : Nat) :
    race h pool sched (n + 1) =
      turn (fun c p s => p.step (h c) s) (race h pool sched n) (sched n) := rfl

theorem threads_race_of_ne (hi : (sched n).1 ≠ i) :
    (race h pool sched (n + 1)).threads[i]? = (race h pool sched n).threads[i]? :=
  threads_turn_of_ne hi

theorem settled_race {r : Except ε α} (hp : (race h pool sched n).threads[i]? = some p)
    (hr : p.settlement = some r) (hnm : n ≤ m) : (race h pool sched m).threads[i]? = some p := by
  refine Nat.le_induction hp (fun l _ hl => ?_) m hnm
  by_cases hi : (sched l).1 = i
  · subst hi
    rw [race_succ, threads_turn_self hl]
    cases p with
    | pure a => rfl
    | throw e => rfl
    | await op k => cases hr
  · rw [threads_race_of_ne hi, hl]

theorem unstarted_race (hi : ∀ l < n, (sched l).1 ≠ i) :
    (race h pool sched n).threads[i]? = pool.threads[i]? := by
  induction n with
  | zero => rfl
  | succ n ih =>
    rw [threads_race_of_ne (hi n n.lt_succ_self), ih fun l hl => hi l (hl.trans n.lt_succ_self)]

/-- A program keeps to its specification in every schedule. -/
theorem under_race {G : Nat → Op → Prop} {Q : Except ε α → Nat → Prop}
    (hQ : ∀ r n, Q r n → Q r (n + 1)) (hp : (race h pool sched n).threads[i]? = some p)
    (hunder : Under (Settles h pool sched i) G p Q n) (hnm : n ≤ m) :
    ∃ q, (race h pool sched m).threads[i]? = some q ∧ Under (Settles h pool sched i) G q Q m := by
  refine Nat.le_induction ⟨p, hp, hunder⟩ (fun l _ hl => ?_) m hnm
  obtain ⟨q, hq, hunder⟩ := hl
  by_cases hi : (sched l).1 = i
  · subst hi
    refine ⟨_, threads_turn_self hq, ?_⟩
    cases q with
    | pure a => exact hunder.later hQ l.le_succ
    | throw e => exact hunder.later hQ l.le_succ
    | await op k => exact (hunder l le_rfl).2 _ ⟨⟨rfl, k, hq⟩, rfl⟩
  · exact ⟨q, (threads_race_of_ne hi).trans hq, hunder.later hQ l.le_succ⟩

theorem length_race (n : Nat) : (race h pool sched n).threads.length = pool.threads.length := by
  induction n with
  | zero => rfl
  | succ n ih =>
    rw [race_succ, ← ih]
    refine turn_ind (motive := fun q => q.threads.length = _) rfl fun p _ => ?_
    exact List.length_set

theorem exists_start (hp : (race h pool sched n).threads[i]? = some p) :
    ∃ q, pool.threads[i]? = some q := by
  obtain ⟨hlt, -⟩ := List.getElem?_eq_some_iff.mp hp
  rw [length_race] at hlt
  exact ⟨_, List.getElem?_eq_getElem hlt⟩

theorem forall_race {P : Prog Op Res ε α → Prop}
    (hP : ∀ op k, P (.await op k) → ∀ r, P (k r)) (hpool : ∀ p ∈ pool.threads, P p) (n : Nat) :
    ∀ p ∈ (race h pool sched n).threads, P p := by
  induction n with
  | zero => exact hpool
  | succ n ih =>
    apply turn_forall ih
    intro p _ hp
    cases p with
    | pure a => exact hp
    | throw e => exact hp
    | await op k => exact hP op k hp _

end Pool
