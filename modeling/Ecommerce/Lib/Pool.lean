import Ecommerce.Lib.Runs
import Mathlib.Algebra.Order.BigOperators.Group.List
import Mathlib.Algebra.Order.Group.Nat
import Mathlib.Tactic.Abel

/-! Threads over one shared state, scheduled one step at a time in any order. -/

universe u v w x

structure Pool (T : Type u) (σ : Type v) where
  threads : List T
  state : σ

namespace Pool

variable {T : Type u} {U : Type w} {σ : Type v} {χ : Type x}

/-- One scheduling turn `(i, c)`: thread `i` takes a step, the environment moves with `c`. -/
def turn (step : χ → T → σ → T × σ) (pool : Pool T σ) (t : Nat × χ) : Pool T σ :=
  match pool.threads[t.1]? with
  | none => pool
  | some p => ⟨pool.threads.set t.1 (step t.2 p pool.state).1, (step t.2 p pool.state).2⟩

def map (f : T → U) (pool : Pool T σ) : Pool U σ := ⟨pool.threads.map f, pool.state⟩

@[simp] theorem map_state (f : T → U) (pool : Pool T σ) : (pool.map f).state = pool.state := rfl

@[simp] theorem map_threads (f : T → U) (pool : Pool T σ) :
    (pool.map f).threads = pool.threads.map f := rfl

section Turn

variable {step : χ → T → σ → T × σ} {pool : Pool T σ} {t : Nat × χ}

theorem turn_of_some {p : T} (hp : pool.threads[t.1]? = some p) :
    turn step pool t =
      ⟨pool.threads.set t.1 (step t.2 p pool.state).1, (step t.2 p pool.state).2⟩ := by
  simp only [turn, hp]

theorem turn_ind {motive : Pool T σ → Prop} (idle : motive pool)
    (move : ∀ p, pool.threads[t.1]? = some p →
      motive ⟨pool.threads.set t.1 (step t.2 p pool.state).1, (step t.2 p pool.state).2⟩) :
    motive (turn step pool t) := by
  cases hp : pool.threads[t.1]? with
  | none => simpa only [turn, hp] using idle
  | some p =>
    rw [turn_of_some hp]
    exact move p hp

theorem turn_forall {P : T → Prop} (hpool : ∀ p ∈ pool.threads, P p)
    (hstep : ∀ p ∈ pool.threads, P p → P (step t.2 p pool.state).1) :
    ∀ p ∈ (turn step pool t).threads, P p := by
  refine turn_ind (motive := fun q => ∀ p ∈ q.threads, P p) hpool ?_
  intro p hp q hq
  have hmem : p ∈ pool.threads := List.mem_of_getElem? hp
  rcases List.mem_or_eq_of_mem_set hq with hq | rfl
  · exact hpool q hq
  · exact hstep p hmem (hpool p hmem)

theorem threads_turn_of_ne {i : Nat} (h : t.1 ≠ i) :
    (turn step pool t).threads[i]? = pool.threads[i]? := by
  refine turn_ind (motive := fun q => q.threads[i]? = pool.threads[i]?) rfl ?_
  intro p _
  exact List.getElem?_set_ne h

theorem threads_turn_self {p : T} (hp : pool.threads[t.1]? = some p) :
    (turn step pool t).threads[t.1]? = some (step t.2 p pool.state).1 := by
  rw [turn_of_some hp]
  obtain ⟨hlt, -⟩ := List.getElem?_eq_some_iff.mp hp
  simp [hlt]

theorem state_turn {p : T} (hp : pool.threads[t.1]? = some p) :
    (turn step pool t).state = (step t.2 p pool.state).2 := by
  rw [turn_of_some hp]

theorem state_turn_none (hp : pool.threads[t.1]? = none) : (turn step pool t).state = pool.state := by
  simp only [turn, hp]

theorem exists_turn {P : T → Prop} {N : Prop} {p : T} (hp : pool.threads[t.1]? = some p)
    (hP : P (step t.2 p pool.state).1 ↔ P p ∨ N) :
    (∃ q ∈ (turn step pool t).threads, P q) ↔ (∃ q ∈ pool.threads, P q) ∨ N := by
  constructor
  · rintro ⟨q, hq, hPq⟩
    rw [turn_of_some hp] at hq
    rcases List.mem_or_eq_of_mem_set hq with hq | rfl
    · exact .inl ⟨q, hq, hPq⟩
    · exact (hP.mp hPq).imp_left fun h => ⟨p, List.mem_of_getElem? hp, h⟩
  · have hmoved : P p ∨ N → ∃ q ∈ (turn step pool t).threads, P q := fun h =>
      ⟨_, List.mem_of_getElem? (threads_turn_self hp), hP.mpr h⟩
    rintro (⟨q, hq, hPq⟩ | hN)
    · obtain ⟨j, hj⟩ := List.mem_iff_getElem?.mp hq
      by_cases hij : t.1 = j
      · subst hij
        obtain rfl := Option.some.inj (hp.symm.trans hj)
        exact hmoved (.inl hPq)
      · exact ⟨q, List.mem_of_getElem? ((threads_turn_of_ne hij).trans hj), hPq⟩
    · exact hmoved (.inr hN)

theorem state_filter {i : Nat} {sched : List (Nat × χ)} {pool' : Pool T σ}
    (hstate : pool'.state = pool.state)
    (hothers : ∀ j, j ≠ i → pool'.threads[j]? = pool.threads[j]?)
    (hstill : Runs.Along (turn step)
      (fun pool t => t.1 = i → (turn step pool t).state = pool.state) pool sched) :
    ((sched.filter fun t => t.1 ≠ i).foldl (turn step) pool').state =
      (sched.foldl (turn step) pool).state := by
  induction sched generalizing pool pool' with
  | nil => exact hstate
  | cons t sched ih =>
    by_cases hi : t.1 = i
    · have hkeep : ((t :: sched).filter fun t => t.1 ≠ i) = sched.filter fun t => t.1 ≠ i := by
        simp [hi]
      rw [hkeep, List.foldl_cons]
      refine ih (hstate.trans (hstill.1 hi).symm) (fun j hj => ?_) hstill.2
      rw [threads_turn_of_ne (hi ▸ Ne.symm hj), hothers j hj]
    · have hkeep : ((t :: sched).filter fun t => t.1 ≠ i) = t :: sched.filter fun t => t.1 ≠ i := by
        simp [hi]
      rw [hkeep, List.foldl_cons, List.foldl_cons]
      have hsame : (turn step pool' t).state = (turn step pool t).state ∧
          ∀ j, j ≠ i → (turn step pool' t).threads[j]? = (turn step pool t).threads[j]? := by
        cases hp : pool.threads[t.1]? with
        | none =>
          have hp' := (hothers t.1 hi).trans hp
          simp only [turn, hp, hp']
          exact ⟨hstate, hothers⟩
        | some p =>
          have hp' := (hothers t.1 hi).trans hp
          refine ⟨by rw [state_turn hp, state_turn hp', hstate], fun j hj => ?_⟩
          by_cases hjt : t.1 = j
          · subst hjt
            rw [threads_turn_self hp, threads_turn_self hp', hstate]
          · rw [threads_turn_of_ne hjt, threads_turn_of_ne hjt, hothers j hj]
      exact ih hsame.1 hsame.2 hstill.2

def after (step : χ → T → σ → T × σ) (pool : Pool T σ) (sched : Nat → Nat × χ) : Nat → Pool T σ
  | 0 => pool
  | n + 1 => turn step (after step pool sched n) (sched n)

end Turn

section Map

variable {step : χ → T → σ → T × σ} {step' : χ → U → σ → U × σ} {f : T → U}

theorem turn_map {pool : Pool T σ} {t : Nat × χ}
    (hstep : ∀ p ∈ pool.threads, step' t.2 (f p) pool.state =
      (f (step t.2 p pool.state).1, (step t.2 p pool.state).2)) :
    turn step' (pool.map f) t = (turn step pool t).map f := by
  cases hp : pool.threads[t.1]? with
  | none => simp [turn, hp]
  | some p =>
    have hp' : (pool.map f).threads[t.1]? = some (f p) := by simp [hp]
    rw [turn_of_some hp, turn_of_some hp', map_state, hstep p (List.mem_of_getElem? hp)]
    simp [map, List.map_set]

end Map

section View

variable {τ : Type v} {χ' : Type*} {step : χ → T → σ → T × σ} {step' : χ' → T → τ → T × τ}

def view (f : σ → τ) (pool : Pool T σ) : Pool T τ := ⟨pool.threads, f pool.state⟩

@[simp] theorem view_threads (f : σ → τ) (pool : Pool T σ) :
    (pool.view f).threads = pool.threads := rfl

variable {f : σ → τ} {g : χ → χ'}

end View

section Total

variable {M : Type*} [AddCommMonoid M]

def total (w : T → M) (threads : List T) : M := (threads.map w).sum

@[simp] theorem total_cons (w : T → M) (p : T) (threads : List T) :
    total w (p :: threads) = w p + total w threads := by simp [total]

theorem total_congr {w w' : T → M} {threads : List T} (h : ∀ p ∈ threads, w p = w' p) :
    total w threads = total w' threads := congrArg List.sum (List.map_congr_left h)

theorem total_map (f : T → U) (w : U → M) (threads : List T) :
    total w (threads.map f) = total (w ∘ f) threads := by simp [total]

theorem total_mono {w w' : T → Nat} (h : ∀ p, w p ≤ w' p) (threads : List T) :
    total w threads ≤ total w' threads := by
  induction threads with
  | nil => exact le_rfl
  | cons p threads ih =>
    rw [total_cons, total_cons]
    exact Nat.add_le_add (h p) ih

theorem le_total (w : T → Nat) {threads : List T} {p : T} (hp : p ∈ threads) :
    w p ≤ total w threads :=
  List.single_le_sum (fun _ _ => Nat.zero_le _) _ (List.mem_map_of_mem hp)

theorem countP_eq_total (P : T → Bool) (threads : List T) :
    threads.countP P = total (fun p => if P p then 1 else 0) threads := by
  induction threads with
  | nil => rfl
  | cons p threads ih => rw [List.countP_cons, ih, total_cons, add_comm]

theorem total_set (w : T → M) {threads : List T} {i : Nat} {p : T} (q : T)
    (hp : threads[i]? = some p) :
    total w (threads.set i q) + w p = total w threads + w q := by
  induction threads generalizing i with
  | nil => simp at hp
  | cons r threads ih =>
    cases i with
    | zero =>
      obtain rfl : r = p := by simpa using hp
      simp only [List.set_cons_zero, total_cons]
      abel
    | succ i =>
      have ih' := ih (i := i) (by simpa using hp)
      simp only [List.set_cons_succ, total_cons]
      rw [add_assoc, ih', add_assoc]

theorem total_set_add (w : T → M) {threads : List T} {i : Nat} {p q : T} {k : M}
    (hp : threads[i]? = some p) (hq : w q = w p + k) :
    total w (threads.set i q) = total w threads + k := by
  induction threads generalizing i with
  | nil => simp at hp
  | cons r threads ih =>
    cases i with
    | zero =>
      obtain rfl : r = p := by simpa using hp
      simp only [List.set_cons_zero, total_cons, hq]
      abel
    | succ i =>
      simp only [List.set_cons_succ, total_cons, ih (i := i) (by simpa using hp), add_assoc]

end Total

end Pool
