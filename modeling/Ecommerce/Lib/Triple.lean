import Ecommerce.Lib.Async

universe u v w x

namespace Prog

variable {Op : Type u} {Res : Op → Type v} {ε : Type w} {α β σ χ : Type x}

/-- Goes on with `f` after a value and with `g` after a rejection. -/
def cont (f : α → σ → Prop) (g : ε → σ → Prop) : Except ε α → σ → Prop
  | .ok a, s => f a s
  | .error e, s => g e s

@[simp] theorem cont_ok (f : α → σ → Prop) (g : ε → σ → Prop) (a : α) (s : σ) :
    cont f g (.ok a) s = f a s := rfl

@[simp] theorem cont_error (f : α → σ → Prop) (g : ε → σ → Prop) (e : ε) (s : σ) :
    cont f g (.error e) s = g e s := rfl

/-- `Q` holds of every settlement that moves of `M` lead to. -/
def wp (M : χ → Prop) (h : χ → Handler Op Res ε σ) :
    Prog Op Res ε α → (Except ε α → σ → Prop) → σ → Prop
  | .pure a, Q, s => Q (.ok a) s
  | .throw e, Q, s => Q (.error e) s
  | .await op k, Q, s => ∀ c, M c → wp M h (k (h c op s).1) Q (h c op s).2

variable {M : χ → Prop} {h : χ → Handler Op Res ε σ} {Q : Except ε α → σ → Prop} {s : σ}

@[simp] theorem wp_pure (a : α) : wp M h (Pure.pure a : Prog Op Res ε α) Q s ↔ Q (.ok a) s :=
  Iff.rfl

@[simp] theorem wp_throw (e : ε) :
    wp M h (MonadExcept.throw e : Prog Op Res ε α) Q s ↔ Q (.error e) s := Iff.rfl

@[simp] theorem wp_settle {Res : Op → Type x} {h : χ → Handler Op Res ε σ} {r : Except ε α} :
    wp M h (settle r : Prog Op Res ε α) Q s ↔ Q r s := by
  cases r <;> exact Iff.rfl

@[simp] theorem wp_perform {Res : Op → Type x} {h : χ → Handler Op Res ε σ} {op : Op}
    {Q : Except ε (Res op) → σ → Prop} :
    wp M h (perform op) Q s ↔ ∀ c, M c → Q (h c op s).1 (h c op s).2 := by
  refine forall_congr' fun c => imp_congr_right fun _ => ?_
  rcases h c op s with ⟨e | a, s'⟩ <;> rfl

@[simp] theorem wp_bind {p : Prog Op Res ε α} {f : α → Prog Op Res ε β}
    {Q : Except ε β → σ → Prop} :
    wp M h (p >>= f) Q s ↔
      wp M h p (cont (fun a => wp M h (f a) Q) fun e => Q (.error e)) s := by
  change wp M h (p.bind f) Q s ↔ _
  induction p generalizing s with
  | pure a => exact Iff.rfl
  | throw e => exact Iff.rfl
  | await op k ih => exact forall_congr' fun c => imp_congr_right fun _ => ih _

@[simp] theorem wp_tryCatch {p : Prog Op Res ε α} {f : ε → Prog Op Res ε α} :
    wp M h (p.tryCatch f) Q s ↔
      wp M h p (cont (fun a => Q (.ok a)) fun e => wp M h (f e) Q) s := by
  induction p generalizing s with
  | pure a => exact Iff.rfl
  | throw e => exact Iff.rfl
  | await op k ih => exact forall_congr' fun c => imp_congr_right fun _ => ih _

theorem wp.mono {p : Prog Op Res ε α} {Q' : Except ε α → σ → Prop} (hp : wp M h p Q s)
    (hQ : ∀ r s, Q r s → Q' r s) : wp M h p Q' s := by
  induction p generalizing s with
  | pure a => exact hQ _ _ hp
  | throw e => exact hQ _ _ hp
  | await op k ih => exact fun c hc => ih _ (hp c hc)

theorem wp_of_forall (hQ : ∀ r s, Q r s) (p : Prog Op Res ε α) : wp M h p Q s := by
  induction p generalizing s with
  | pure a => exact hQ _ _
  | throw e => exact hQ _ _
  | await op k ih => exact fun c _ => ih _

theorem wp.and {p : Prog Op Res ε α} {Q' : Except ε α → σ → Prop} (hp : wp M h p Q s)
    (hp' : wp M h p Q' s) : wp M h p (fun r s => Q r s ∧ Q' r s) s := by
  induction p generalizing s with
  | pure a => exact ⟨hp, hp'⟩
  | throw e => exact ⟨hp, hp'⟩
  | await op k ih => exact fun c hc => ih _ (hp c hc) (hp' c hc)

theorem wp_swallow (p : Prog Op Res ε α) (f : ε → α) :
    wp M h (p.tryCatch fun e => .pure (f e)) (fun r _ => ∃ a, r = .ok a) s := by
  rw [wp_tryCatch]
  refine wp_of_forall (fun r s => ?_) p
  cases r with
  | ok a => exact ⟨a, rfl⟩
  | error e => exact ⟨f e, rfl⟩

/-- What holds of all admitted settlements holds of each run against an admitted script. -/
theorem wp.play {p : Prog Op Res ε α} {env : Script χ} (hp : wp M h p Q s)
    (henv : ∀ n, M (env n)) : Q (p.play h env s).1 (p.play h env s).2 := by
  induction p generalizing s env with
  | pure a => exact hp
  | throw e => exact hp
  | await op k ih => exact ih _ (hp (env 0) (henv 0)) fun n => henv (n + 1)

def Awaits (P : Op → Prop) : Prog Op Res ε α → Prop
  | .pure _ => True
  | .throw _ => True
  | .await op k => P op ∧ ∀ r, Awaits P (k r)

section Awaits

variable {P : Op → Prop}

@[simp] theorem awaits_settle {A : Type v} (r : Except ε A) :
    Awaits P (settle r : Prog Op Res ε A) := by
  cases r <;> trivial

@[simp] theorem awaits_perform (op : Op) : Awaits P (perform op : Prog Op Res ε (Res op)) ↔ P op :=
  and_iff_left fun r => awaits_settle r

theorem Awaits.bind {p : Prog Op Res ε α} {f : α → Prog Op Res ε β} (hp : Awaits P p)
    (hf : ∀ a, Awaits P (f a)) : Awaits P (p >>= f) := by
  change Awaits P (p.bind f)
  induction p with
  | pure a => exact hf a
  | throw e => trivial
  | await op k ih => exact ⟨hp.1, fun r => ih r (hp.2 r)⟩

theorem Awaits.tryCatch {p : Prog Op Res ε α} {f : ε → Prog Op Res ε α} (hp : Awaits P p)
    (hf : ∀ e, Awaits P (f e)) : Awaits P (p.tryCatch f) := by
  induction p with
  | pure a => trivial
  | throw e => exact hf e
  | await op k ih => exact ⟨hp.1, fun r => ih r (hp.2 r)⟩

theorem Awaits.wp {p : Prog Op Res ε α} {I : σ → Prop} (hp : Awaits P p)
    (hI : ∀ c op s, M c → P op → I s → I (h c op s).2) (hs : I s) :
    Prog.wp M h p (fun _ s => I s) s := by
  induction p generalizing s with
  | pure a => exact hs
  | throw e => exact hs
  | await op k ih => exact fun c hc => ih _ (hp.2 _) (hI c op s hc hp.1 hs)

end Awaits

/-- However its operations settle, the program only awaits operations in `P`, and it only resolves
with values in `Q`. -/
def Meets (P : Op → Prop) (Q : α → Prop) : Prog Op Res ε α → Prop
  | .pure a => Q a
  | .throw _ => True
  | .await op k => P op ∧ ∀ r, Meets P Q (k r)

section Meets

variable {P : Op → Prop} {Q : α → Prop} {R : β → Prop}

theorem meets_pure {a : α} (ha : Q a) : Meets P Q (Pure.pure a : Prog Op Res ε α) := ha

theorem meets_throw (e : ε) : Meets P Q (MonadExcept.throw e : Prog Op Res ε α) := trivial

theorem meets_settle {A : Type v} {Q : A → Prop} {r : Except ε A} (hr : ∀ a, r = .ok a → Q a) :
    Meets P Q (settle r : Prog Op Res ε A) := by
  cases r with
  | ok a => exact hr a rfl
  | error e => trivial

theorem meets_perform {op : Op} (hop : P op) :
    Meets P (fun _ => True) (perform op : Prog Op Res ε (Res op)) :=
  ⟨hop, fun _ => meets_settle fun _ _ => trivial⟩

theorem meets_of_forall (hP : ∀ op, P op) (hQ : ∀ a, Q a) (p : Prog Op Res ε α) : Meets P Q p := by
  induction p with
  | pure a => exact hQ a
  | throw e => trivial
  | await op k ih => exact ⟨hP op, fun r => ih r⟩

theorem Meets.weaken {P' : Op → Prop} {Q' : α → Prop} {p : Prog Op Res ε α} (hp : Meets P Q p)
    (hP : ∀ op, P op → P' op) (hQ : ∀ a, Q a → Q' a) : Meets P' Q' p := by
  induction p with
  | pure a => exact hQ a hp
  | throw e => trivial
  | await op k ih => exact ⟨hP op hp.1, fun r => ih r (hp.2 r)⟩

theorem Meets.mono {p : Prog Op Res ε α} {Q' : α → Prop} (hp : Meets P Q p) (hQ : ∀ a, Q a → Q' a) :
    Meets P Q' p := hp.weaken (fun _ => id) hQ

theorem Meets.bind {p : Prog Op Res ε β} {f : β → Prog Op Res ε α} (hp : Meets P R p)
    (hf : ∀ b, R b → Meets P Q (f b)) : Meets P Q (p >>= f) := by
  change Meets P Q (p.bind f)
  induction p with
  | pure b => exact hf b hp
  | throw e => trivial
  | await op k ih => exact ⟨hp.1, fun r => ih r (hp.2 r)⟩

theorem meets_perform_bind {Res : Op → Type x} {op : Op} {f : Res op → Prog Op Res ε α}
    (hop : P op) (hf : ∀ a, Meets P Q (f a)) : Meets P Q (perform op >>= f) :=
  (meets_perform hop).bind fun a _ => hf a

theorem Meets.tryCatch {p : Prog Op Res ε α} {f : ε → Prog Op Res ε α} (hp : Meets P Q p)
    (hf : ∀ e, Meets P Q (f e)) : Meets P Q (p.tryCatch f) := by
  induction p with
  | pure a => exact hp
  | throw e => exact hf e
  | await op k ih => exact ⟨hp.1, fun r => ih r (hp.2 r)⟩

theorem Meets.settlement {p : Prog Op Res ε α} (hp : Meets P Q p) {a : α}
    (ha : p.settlement = some (.ok a)) : Q a := by
  cases p with
  | pure b =>
    obtain rfl : b = a := by simpa [Prog.settlement] using ha
    exact hp
  | throw e => simp [Prog.settlement] at ha
  | await op k => cases ha

end Meets

end Prog
