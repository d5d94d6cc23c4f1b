import Mathlib.Data.List.Basic

/-! Runs of a deterministic step function over a list of inputs, and the two rules
by which a property of every step becomes a property of every state reached. -/

universe u v

namespace Runs

variable {σ : Type u} {κ : Type v} (step : σ → κ → σ)

/-- `P` holds of every step: of the state before it and of its input. -/
def Along (P : σ → κ → Prop) : σ → List κ → Prop
  | _, [] => True
  | s, c :: cs => P s c ∧ Along P (step s c) cs

def Always (I : σ → Prop) : σ → List κ → Prop
  | _, [] => True
  | s, c :: cs => I (step s c) ∧ Always I (step s c) cs

def tally (f : σ → κ → Nat) : σ → List κ → Nat
  | _, [] => 0
  | s, c :: cs => f s c + tally f (step s c) cs

variable {step}

theorem Along.mono {P Q : σ → κ → Prop} (hPQ : ∀ s c, P s c → Q s c) {s : σ} {cs : List κ}
    (h : Along step P s cs) : Along step Q s cs := by
  induction cs generalizing s with
  | nil => trivial
  | cons c cs ih => exact ⟨hPQ s c h.1, ih h.2⟩

theorem Always.mono {I J : σ → Prop} (hIJ : ∀ s, I s → J s) {s : σ} {cs : List κ}
    (h : Always step I s cs) : Always step J s cs := by
  induction cs generalizing s with
  | nil => trivial
  | cons c cs ih => exact ⟨hIJ _ h.1, ih h.2⟩

theorem along_of_forall {P : κ → Prop} {s : σ} {cs : List κ} (h : ∀ c ∈ cs, P c) :
    Along step (fun _ c => P c) s cs := by
  induction cs generalizing s with
  | nil => trivial
  | cons c cs ih => exact ⟨h c List.mem_cons_self, ih fun d hd => h d (List.mem_cons_of_mem c hd)⟩

/-- The invariant rule, for steps that meet `P`. -/
theorem Always.of_along {I : σ → Prop} {P : σ → κ → Prop}
    (hstep : ∀ s c, I s → P s c → I (step s c)) {s : σ} {cs : List κ}
    (hs : I s) (h : Along step P s cs) : Always step I s cs := by
  induction cs generalizing s with
  | nil => trivial
  | cons c cs ih => exact ⟨hstep s c hs h.1, ih (hstep s c hs h.1) h.2⟩

theorem along_append {P : σ → κ → Prop} {s : σ} {cs ds : List κ} :
    Along step P s (cs ++ ds) ↔ Along step P s cs ∧ Along step P (cs.foldl step s) ds := by
  induction cs generalizing s with
  | nil => simp [Along]
  | cons d cs ih => simp [Along, ih, and_assoc]

theorem along_concat {P : σ → κ → Prop} {s : σ} {cs : List κ} {c : κ} :
    Along step P s (cs ++ [c]) ↔ Along step P s cs ∧ P (cs.foldl step s) c := by
  simp [along_append, Along]

theorem Always.foldl {I : σ → Prop} {s : σ} {cs : List κ} (hs : I s)
    (h : Always step I s cs) : I (cs.foldl step s) := by
  induction cs generalizing s with
  | nil => exact hs
  | cons c cs ih => exact ih h.1 h.2

theorem foldl_of_along {J : σ → Prop} {Q : σ → κ → Prop}
    (hnext : ∀ s c, J s → Q s c → J (step s c)) {s : σ} {cs : List κ} (hJ : J s)
    (hQ : Along step Q s cs) : J (cs.foldl step s) :=
  (Always.of_along hnext hJ hQ).foldl hJ

/-- A measure that every step raises by `f` ends up raised by the tally of `f`. -/
theorem tally_eq {J : σ → Prop} {Q : σ → κ → Prop} {f : σ → κ → Nat} (m : σ → Nat)
    (hstep : ∀ s c, J s → Q s c → m (step s c) = m s + f s c)
    (hnext : ∀ s c, J s → Q s c → J (step s c)) {s : σ} {cs : List κ} (hJ : J s)
    (hQ : Along step Q s cs) : m (cs.foldl step s) = m s + tally step f s cs := by
  induction cs generalizing s with
  | nil => rfl
  | cons c cs ih =>
    rw [List.foldl_cons, ih (hnext s c hJ hQ.1) hQ.2, hstep s c hJ hQ.1, tally, Nat.add_assoc]

theorem exists_step {P : σ → Prop} {s : σ} {cs : List κ} (hs : ¬ P s) (h : P (cs.foldl step s)) :
    ∃ before c after, cs = before ++ c :: after ∧ ¬ P (before.foldl step s) ∧
      P (step (before.foldl step s) c) := by
  induction cs generalizing s with
  | nil => exact absurd h hs
  | cons c cs ih =>
    by_cases hc : P (step s c)
    · exact ⟨[], c, cs, rfl, hs, hc⟩
    · obtain ⟨before, d, after, rfl, hbefore, hd⟩ := ih hc h
      exact ⟨c :: before, d, after, rfl, hbefore, hd⟩

/-- The invariant rule, for steps that all keep it. -/
theorem foldl_invariant {I : σ → Prop} (hI : ∀ s c, I s → I (step s c)) {s : σ} (hs : I s)
    (cs : List κ) : I (cs.foldl step s) := by
  induction cs generalizing s with
  | nil => exact hs
  | cons c cs ih => exact ih (hI s c hs)

theorem along_of_not {B J : σ → Prop} {P : σ → κ → Prop} (hnext : ∀ s c, J s → J (step s c))
    (hstep : ∀ s c, J s → B s ∨ ¬ P s c → B (step s c)) {s : σ} (hJ : J s) {cs : List κ}
    (h : ¬ B (cs.foldl step s)) : ¬ B s ∧ Along step P s cs := by
  induction cs generalizing s with
  | nil => exact ⟨h, trivial⟩
  | cons c cs ih =>
    obtain ⟨hnot, hrest⟩ := ih (hnext s c hJ) h
    have hstep' := mt (hstep s c hJ) hnot
    exact ⟨fun hB => hstep' (.inl hB), by_contra fun hP => hstep' (.inr hP), hrest⟩

theorem along_of_invariant {J : σ → Prop} {P Q : σ → κ → Prop}
    (hP : ∀ s c, J s → Q s c → P s c) (hnext : ∀ s c, J s → Q s c → J (step s c)) {s : σ} (hJ : J s)
    {cs : List κ} (hQ : Along step Q s cs) : Along step P s cs := by
  induction cs generalizing s with
  | nil => trivial
  | cons c cs ih => exact ⟨hP s c hJ hQ.1, ih (hnext s c hJ hQ.1) hQ.2⟩

theorem along_congr {J : σ → Prop} {P Q : σ → κ → Prop} (hPQ : ∀ s c, J s → (P s c ↔ Q s c))
    (hnext : ∀ s c, J s → Q s c → J (step s c)) {s : σ} (hJ : J s) (cs : List κ) :
    Along step P s cs ↔ Along step Q s cs := by
  induction cs generalizing s with
  | nil => exact Iff.rfl
  | cons c cs ih =>
    rw [Along, Along, hPQ s c hJ]
    exact and_congr_right fun hQ => ih (hnext s c hJ hQ)

theorem foldl_map {τ : Type u} {step' : τ → κ → τ} {g : σ → τ}
    (hg : ∀ s c, step' (g s) c = g (step s c)) (s : σ) (cs : List κ) :
    cs.foldl step' (g s) = g (cs.foldl step s) := by
  induction cs generalizing s with
  | nil => rfl
  | cons c cs ih => rw [List.foldl_cons, List.foldl_cons, hg, ih]

theorem tally_map {τ : Type u} {step' : τ → κ → τ} {g : σ → τ}
    (hg : ∀ s c, step' (g s) c = g (step s c)) (f : τ → κ → Nat) (s : σ) (cs : List κ) :
    tally step' f (g s) cs = tally step (fun s c => f (g s) c) s cs := by
  induction cs generalizing s with
  | nil => rfl
  | cons c cs ih => rw [tally, tally, hg, ih]

/-- The exact rule: where one step keeps `I` if and only if it meets `P`, a run keeps `I`
if and only if all its steps meet `P`.  `J` is what the step lemma needs besides `I`. -/
theorem always_iff_along {I J : σ → Prop} {P Q : σ → κ → Prop}
    (hkeep : ∀ s c, I s → J s → Q s c → (I (step s c) ↔ P s c))
    (hnext : ∀ s c, I s → J s → Q s c → I (step s c) → J (step s c))
    {s : σ} {cs : List κ} (hI : I s) (hJ : J s) (hQ : Along step Q s cs) :
    Always step I s cs ↔ Along step P s cs := by
  induction cs generalizing s with
  | nil => exact Iff.rfl
  | cons c cs ih =>
    have hiff := hkeep s c hI hJ hQ.1
    constructor
    · rintro ⟨h1, h⟩
      exact ⟨hiff.mp h1, (ih h1 (hnext s c hI hJ hQ.1 h1) hQ.2).mp h⟩
    · rintro ⟨h1, h⟩
      have hI' := hiff.mpr h1
      exact ⟨hI', (ih hI' (hnext s c hI hJ hQ.1 hI') hQ.2).mpr h⟩

section Unfollowed

variable {ι : Type*} (step)

/-- No step that meets `P i` has a later one that meets `Q i`. -/
def Unfollowed (P Q : σ → κ → ι → Prop) : σ → List κ → Prop
  | _, [] => True
  | s, c :: cs =>
    (∀ i, P s c i → Along step (fun s c => ¬ Q s c i) (step s c) cs) ∧
      Unfollowed P Q (step s c) cs

variable {step}

/-- Where `M i` says that a step that meets `P i` has been made, one need only look at the
state in which a step is made. -/
theorem along_iff_unfollowed {J : σ → Prop} {M : σ → ι → Prop} {P Q : σ → κ → ι → Prop}
    {R : κ → Prop} (hmark : ∀ s c i, J s → R c → (M (step s c) i ↔ M s i ∨ P s c i))
    (hnext : ∀ s c, J s → R c → J (step s c)) {s : σ} {cs : List κ} (hJ : J s)
    (hR : ∀ c ∈ cs, R c) :
    Along step (fun s c => ∀ i, M s i → ¬ Q s c i) s cs ↔
      (∀ i, M s i → Along step (fun s c => ¬ Q s c i) s cs) ∧ Unfollowed step P Q s cs := by
  induction cs generalizing s with
  | nil => exact ⟨fun _ => ⟨fun _ _ => trivial, trivial⟩, fun _ => trivial⟩
  | cons c cs ih =>
    have hc := hR c List.mem_cons_self
    rw [Along, ih (hnext s c hJ hc) fun d hd => hR d (List.mem_cons_of_mem c hd)]
    constructor
    · rintro ⟨hnow, hlater, hunfollowed⟩
      refine ⟨fun i hi => ⟨hnow i hi, ?_⟩, fun i hi => ?_, hunfollowed⟩
      · exact hlater i ((hmark s c i hJ hc).mpr (.inl hi))
      · exact hlater i ((hmark s c i hJ hc).mpr (.inr hi))
    · rintro ⟨hmarked, hfirst, hunfollowed⟩
      refine ⟨fun i hi => (hmarked i hi).1, fun i hi => ?_, hunfollowed⟩
      rcases (hmark s c i hJ hc).mp hi with hi | hi
      · exact (hmarked i hi).2
      · exact hfirst i hi

end Unfollowed

end Runs
