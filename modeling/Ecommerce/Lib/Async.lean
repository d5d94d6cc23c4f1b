import Mathlib.Logic.Function.Basic

/-! Asynchronous programs as trees of awaited operations.  A program is written once
and then run alone, run against a script of environment moves, or scheduled
against other programs one operation at a time. -/

universe u v w x

/-- `await op k` performs `op` and resumes with its settlement; a rejection that
`k` does not inspect travels on as `throw`. -/
inductive Prog (Op : Type u) (Res : Op → Type v) (ε : Type w) (α : Type x) :
    Type (max u v w x)
  | pure : α → Prog Op Res ε α
  | throw : ε → Prog Op Res ε α
  | await : (op : Op) → (Except ε (Res op) → Prog Op Res ε α) → Prog Op Res ε α

namespace Prog

variable {Op : Type u} {Res : Op → Type v} {ε : Type w} {α β γ : Type x}

def bind : Prog Op Res ε α → (α → Prog Op Res ε β) → Prog Op Res ε β
  | .pure a, f => f a
  | .throw e, _ => .throw e
  | .await op k, f => .await op fun r => (k r).bind f

def tryCatch : Prog Op Res ε α → (ε → Prog Op Res ε α) → Prog Op Res ε α
  | .pure a, _ => .pure a
  | .throw e, f => f e
  | .await op k, f => .await op fun r => (k r).tryCatch f

/-- The continuation of an `await` whose rejection is not caught. -/
def settle {A : Type v} : Except ε A → Prog Op Res ε A
  | .ok a => .pure a
  | .error e => .throw e

def perform (op : Op) : Prog Op Res ε (Res op) := .await op settle

instance : Monad (Prog Op Res ε) where
  pure := .pure
  bind := bind

instance : MonadExceptOf ε (Prog Op Res ε) where
  throw := .throw
  tryCatch := tryCatch

theorem bind_pure (p : Prog Op Res ε α) : p.bind .pure = p := by
  induction p with
  | pure a => rfl
  | throw e => rfl
  | await op k ih =>
    simp only [bind]
    congr 1
    funext r
    exact ih r

theorem bind_assoc (p : Prog Op Res ε α) (f : α → Prog Op Res ε β) (g : β → Prog Op Res ε γ) :
    (p.bind f).bind g = p.bind fun a => (f a).bind g := by
  induction p with
  | pure a => rfl
  | throw e => rfl
  | await op k ih =>
    simp only [bind]
    congr 1
    funext r
    exact ih r

theorem tryCatch_throw (p : Prog Op Res ε α) : p.tryCatch .throw = p := by
  induction p with
  | pure a => rfl
  | throw e => rfl
  | await op k ih =>
    simp only [tryCatch]
    congr 1
    funext r
    exact ih r

instance : LawfulMonad (Prog Op Res ε) :=
  LawfulMonad.mk' _ (fun p => bind_pure p) (fun _ _ => rfl) (fun p f g => bind_assoc p f g)

end Prog

abbrev Handler (Op : Type u) (Res : Op → Type v) (ε : Type w) (σ : Type x) :=
  (op : Op) → σ → Except ε (Res op) × σ

namespace Prog

variable {Op : Type u} {Res : Op → Type v} {ε : Type w} {α β σ : Type x}

/-- The whole program, with nothing else running. -/
def run (h : Handler Op Res ε σ) : Prog Op Res ε α → σ → Except ε α × σ
  | .pure a, s => (.ok a, s)
  | .throw e, s => (.error e, s)
  | .await op k, s => (k (h op s).1).run h (h op s).2

section Run

variable (h : Handler Op Res ε σ)

@[simp] theorem run_pure (a : α) (s : σ) :
    run h (Pure.pure a : Prog Op Res ε α) s = (.ok a, s) := rfl

@[simp] theorem run_throw (e : ε) (s : σ) :
    run h (MonadExcept.throw e : Prog Op Res ε α) s = (.error e, s) := rfl

@[simp] theorem run_perform {Res : Op → Type x} (h : Handler Op Res ε σ) (op : Op) (s : σ) :
    run h (perform op) s = h op s := by
  show run h (settle (h op s).1) (h op s).2 = h op s
  rcases h op s with ⟨r | r, s'⟩ <;> rfl

theorem run_bind (p : Prog Op Res ε α) (f : α → Prog Op Res ε β) (s : σ) :
    run h (p >>= f) s =
      match run h p s with
      | (.ok a, s') => run h (f a) s'
      | (.error e, s') => (.error e, s') := by
  change run h (p.bind f) s = _
  induction p generalizing s with
  | pure a => rfl
  | throw e => rfl
  | await op k ih => exact ih _ _

theorem run_bind_ok {p : Prog Op Res ε α} {f : α → Prog Op Res ε β} {s s' : σ} {a : α}
    (hp : run h p s = (.ok a, s')) : run h (p >>= f) s = run h (f a) s' := by
  rw [run_bind, hp]

theorem run_bind_error {p : Prog Op Res ε α} {f : α → Prog Op Res ε β} {s s' : σ} {e : ε}
    (hp : run h p s = (.error e, s')) : run h (p >>= f) s = (.error e, s') := by
  rw [run_bind, hp]

theorem run_tryCatch (p : Prog Op Res ε α) (f : ε → Prog Op Res ε α) (s : σ) :
    run h (p.tryCatch f) s =
      match run h p s with
      | (.ok a, s') => (.ok a, s')
      | (.error e, s') => run h (f e) s' := by
  induction p generalizing s with
  | pure a => rfl
  | throw e => rfl
  | await op k ih => exact ih _ _

theorem run_bind_state (p : Prog Op Res ε α) {f : α → Prog Op Res ε β}
    (hf : ∀ a s, (run h (f a) s).2 = s) (s : σ) : (run h (p >>= f) s).2 = (run h p s).2 := by
  rw [run_bind]
  rcases run h p s with ⟨e | a, s'⟩
  · rfl
  · exact hf a s'

theorem run_tryCatch_state (p : Prog Op Res ε α) {f : ε → Prog Op Res ε α}
    (hf : ∀ e s, (run h (f e) s).2 = s) (s : σ) : (run h (p.tryCatch f) s).2 = (run h p s).2 := by
  rw [run_tryCatch]
  rcases run h p s with ⟨e | a, s'⟩
  · exact hf e s'
  · rfl

/-- What every operation keeps, every program keeps. -/
theorem run_invariant {I : σ → Prop} (hI : ∀ op s, I s → I (h op s).2) (p : Prog Op Res ε α)
    {s : σ} (hs : I s) : I (p.run h s).2 := by
  induction p generalizing s with
  | pure a => exact hs
  | throw e => exact hs
  | await op k ih => exact ih _ (hI op s hs)

end Run

/-- One operation of the program; a settled program does not move. -/
def step (h : Handler Op Res ε σ) : Prog Op Res ε α → σ → Prog Op Res ε α × σ
  | .pure a, s => (.pure a, s)
  | .throw e, s => (.throw e, s)
  | .await op k, s => (k (h op s).1, (h op s).2)

theorem step_await (h : Handler Op Res ε σ) (op : Op) (k : Except ε (Res op) → Prog Op Res ε α)
    (s : σ) : (Prog.await op k).step h s = (k (h op s).1, (h op s).2) := rfl

def awaited : Prog Op Res ε α → Option Op
  | .await op _ => some op
  | _ => none

def settlement : Prog Op Res ε α → Option (Except ε α)
  | .pure a => some (.ok a)
  | .throw e => some (.error e)
  | .await _ _ => none

def resolved (p : Prog Op Res ε α) : Bool :=
  match p.settlement with
  | some (.ok _) => true
  | _ => false

end Prog

abbrev Script (χ : Type u) := Nat → χ

def Script.tail {χ : Type u} (env : Script χ) : Script χ := fun n => env (n + 1)

@[simp] theorem Script.tail_apply {χ : Type u} (env : Script χ) (n : Nat) :
    env.tail n = env (n + 1) := rfl

def Handler.scripted {Op : Type u} {Res : Op → Type v} {ε : Type w} {σ χ : Type x}
    (h : χ → Handler Op Res ε σ) : Handler Op Res ε (Script χ × σ) := fun op s =>
  ((h (s.1 0) op s.2).1, s.1.tail, (h (s.1 0) op s.2).2)

@[simp] theorem Handler.scripted_apply {Op : Type u} {Res : Op → Type v} {ε : Type w}
    {σ χ : Type x} (h : χ → Handler Op Res ε σ) (op : Op) (env : Script χ) (s : σ) :
    Handler.scripted h op (env, s) = ((h (env 0) op s).1, env.tail, (h (env 0) op s).2) := rfl

namespace Prog

variable {Op : Type u} {Res : Op → Type v} {ε : Type w} {α σ χ : Type x}

/-- The settlement of a program run alone against a script, and the state it leaves. -/
def play (h : χ → Handler Op Res ε σ) (env : Script χ) (p : Prog Op Res ε α) (s : σ) :
    Except ε α × σ :=
  ((p.run (Handler.scripted h) (env, s)).1, (p.run (Handler.scripted h) (env, s)).2.2)

variable (h : χ → Handler Op Res ε σ)

theorem play_await (env : Script χ) (op : Op) (k : Except ε (Res op) → Prog Op Res ε α) (s : σ) :
    play h env (.await op k) s = play h env.tail (k (h (env 0) op s).1) (h (env 0) op s).2 := rfl

theorem play_perform {Res : Op → Type x} (h : χ → Handler Op Res ε σ) (env : Script χ) (op : Op)
    (s : σ) : play h env (perform op) s = h (env 0) op s := by
  rw [play, run_perform]
  rfl

theorem play_perform_bind {Res : Op → Type x} (h : χ → Handler Op Res ε σ) (env : Script χ)
    (op : Op) (f : Res op → Prog Op Res ε α) (s : σ) :
    play h env (perform op >>= f) s =
      match h (env 0) op s with
      | (.ok r, s') => play h env.tail (f r) s'
      | (.error e, s') => (.error e, s') := by
  simp only [play, run_bind, run_perform, Handler.scripted_apply]
  rcases h (env 0) op s with ⟨e | r, s'⟩ <;> rfl

theorem play_perform_bind_ok {Res : Op → Type x} (h : χ → Handler Op Res ε σ) {env : Script χ}
    {op : Op} {f : Res op → Prog Op Res ε α} {s s' : σ} {a : α}
    (hplay : play h env (perform op >>= f) s = (.ok a, s')) :
    ∃ r, (h (env 0) op s).1 = .ok r ∧ play h env.tail (f r) (h (env 0) op s).2 = (.ok a, s') := by
  rw [play_perform_bind] at hplay
  split at hplay
  · next r s'' hr => exact ⟨r, congrArg Prod.fst hr, (congrArg Prod.snd hr) ▸ hplay⟩
  · cases hplay

theorem play_invariant {I : σ → Prop} (hI : ∀ c op s, I s → I (h c op s).2) (env : Script χ)
    (p : Prog Op Res ε α) {s : σ} (hs : I s) : I (play h env p s).2 :=
  run_invariant (I := fun s : Script χ × σ => I s.2) _ (fun op s hs => hI (s.1 0) op s.2 hs) p hs

theorem play_const (c : χ) (p : Prog Op Res ε α) (s : σ) :
    play h (fun _ => c) p s = run (h c) p s := by
  induction p generalizing s with
  | pure a => rfl
  | throw e => rfl
  | await op k ih => exact ih _ _

theorem play_map {β : Type x} (env : Script χ) (p : Prog Op Res ε α) (f : α → β) (s : σ) :
    play h env (p >>= fun a => Pure.pure (f a)) s =
      ((play h env p s).1.map f, (play h env p s).2) := by
  simp only [play, run_bind]
  rcases run (Handler.scripted h) p (env, s) with ⟨e | a, s'⟩ <;> rfl

theorem play_tryCatch_pure (env : Script χ) (p : Prog Op Res ε α) (f : ε → α) (s : σ) :
    play h env (p.tryCatch fun e => Pure.pure (f e)) s =
      (.ok (match (play h env p s).1 with | .ok a => a | .error e => f e),
        (play h env p s).2) := by
  simp only [play, run_tryCatch]
  rcases run (Handler.scripted h) p (env, s) with ⟨e | a, s'⟩ <;> rfl

theorem play_tryCatch_settled (env : Script χ) (p : Prog Op Res ε α) {f : ε → Prog Op Res ε α}
    {g : ε → Except ε α} (hf : ∀ e s, (f e).run (Handler.scripted h) s = (g e, s)) (s : σ) :
    play h env (p.tryCatch f) s =
      ((match (play h env p s).1 with | .ok a => .ok a | .error e => g e),
        (play h env p s).2) := by
  simp only [play, run_tryCatch]
  rcases run (Handler.scripted h) p (env, s) with ⟨e | a, s'⟩
  · simp only [hf]
  · rfl

theorem play_bind_settled {β : Type x} (env : Script χ) (p : Prog Op Res ε α)
    {f : α → Prog Op Res ε β} {g : α → Except ε β}
    (hf : ∀ a s, (f a).run (Handler.scripted h) s = (g a, s)) (s : σ) :
    play h env (p >>= f) s = ((play h env p s).1 >>= g, (play h env p s).2) := by
  simp only [play, run_bind]
  rcases run (Handler.scripted h) p (env, s) with ⟨e | a, s'⟩
  · rfl
  · simp only [hf]
    rfl

section View

variable {τ χ' : Type x} {h : χ → Handler Op Res ε σ} {h' : χ' → Handler Op Res ε τ} {f : σ → τ}
  {g : χ → χ'}

/-- A program does the same under a handler that only sees part of the state and of the moves. -/
theorem play_view (hf : ∀ c op s, h' (g c) op (f s) = ((h c op s).1, f (h c op s).2))
    (env : Script χ) (p : Prog Op Res ε α) (s : σ) :
    play h' (fun n => g (env n)) p (f s) = ((play h env p s).1, f (play h env p s).2) := by
  induction p generalizing env s with
  | pure a => rfl
  | throw e => rfl
  | await op k ih =>
    rw [play_await, play_await, hf]
    exact ih _ env.tail _

end View

def stop : Nat → Script χ → Prog Op Res ε α → σ → σ
  | n + 1, env, .await op k, s => stop n env.tail (k (h (env 0) op s).1) (h (env 0) op s).2
  | _, _, _, s => s

def operations : Script χ → Prog Op Res ε α → σ → Nat
  | env, .await op k, s => operations env.tail (k (h (env 0) op s).1) (h (env 0) op s).2 + 1
  | _, .pure _, _ => 0
  | _, .throw _, _ => 0

end Prog
