import Ecommerce.Lib.EventLoop

universe u v w x

namespace Prog

variable {Op Op' : Type u} {Res : Op → Type v} {Res' : Op' → Type v} {ε : Type w}
  {α β σ τ χ ζ : Type x}

/-- Each operation is awaited as one of the others, and answered by what `g` makes of its answer. -/
def embed (f : Op → Op') (g : ∀ op, Res' (f op) → Res op) : Prog Op Res ε α → Prog Op' Res' ε α
  | .pure a => .pure a
  | .throw e => .throw e
  | .await op k => .await (f op) fun r => (k (r.map (g op))).embed f g

variable {f : Op → Op'} {g : ∀ op, Res' (f op) → Res op}

@[simp] theorem embed_pure (a : α) :
    embed f g (Pure.pure a : Prog Op Res ε α) = Pure.pure a := rfl

@[simp] theorem embed_throw (e : ε) :
    embed f g (MonadExcept.throw e : Prog Op Res ε α) = MonadExcept.throw e := rfl

@[simp] theorem embed_bind (p : Prog Op Res ε α) (k : α → Prog Op Res ε β) :
    embed f g (p >>= k) = embed f g p >>= fun a => embed f g (k a) := by
  change embed f g (p.bind k) = (embed f g p).bind _
  induction p with
  | pure a => rfl
  | throw e => rfl
  | await op k' ih =>
    simp only [Prog.bind, embed]
    congr 1
    funext r
    exact ih _

@[simp] theorem embed_tryCatch (p : Prog Op Res ε α) (k : ε → Prog Op Res ε α) :
    embed f g (p.tryCatch k) = (embed f g p).tryCatch fun e => embed f g (k e) := by
  induction p with
  | pure a => rfl
  | throw e => rfl
  | await op k' ih =>
    simp only [Prog.tryCatch, embed]
    congr 1
    funext r
    exact ih _

theorem awaits_embed {P : Op' → Prop} {p : Prog Op Res ε α} (hp : p.Awaits fun op => P (f op)) :
    (embed f g p).Awaits P := by
  induction p with
  | pure a => trivial
  | throw e => trivial
  | await op k ih => exact ⟨hp.1, fun r => ih _ (hp.2 _)⟩

theorem awaits_part {P : Op' → Prop} (hP : ∀ op, P (f op)) (p : Prog Op Res ε α) :
    (embed f g p).Awaits P := by
  induction p with
  | pure a => trivial
  | throw e => trivial
  | await op k ih => exact ⟨hP op, fun r => ih _⟩

/-- A part of the program runs as it does alone, on its part of the state. -/
theorem wp_embed {M : χ → Prop} {N : ζ → Prop} {h : χ → Handler Op Res ε σ}
    {h' : ζ → Handler Op' Res' ε τ} (part : τ → σ) (move : ζ → χ) (hmove : ∀ c, N c → M (move c))
    (hpart : ∀ c op s, ((h' c (f op) s).1.map (g op), part (h' c (f op) s).2) =
      h (move c) op (part s))
    {p : Prog Op Res ε α} {Q : Except ε α → σ → Prop} {s : τ} (hp : wp M h p Q (part s)) :
    wp N h' (embed f g p) (fun r s => Q r (part s)) s := by
  induction p generalizing s with
  | pure a => exact hp
  | throw e => exact hp
  | await op k ih =>
    intro c hc
    have hrest := hp (move c) (hmove c hc)
    rw [← hpart c op s] at hrest
    exact ih _ hrest

theorem Reports.and {sync : Op → Bool} {E : (op : Op) → Except ε (Res op) → Prop}
    {p : Prog Op Res ε α} {Φ Ψ : List (Performed Op Res ε) → Option (Except ε α) → Prop}
    (hp : Reports sync E p Φ) (hp' : Reports sync E p Ψ) :
    Reports sync E p fun done o => Φ done o ∧ Ψ done o := by
  induction p generalizing Φ Ψ with
  | pure a => exact ⟨hp, hp'⟩
  | throw e => exact ⟨hp, hp'⟩
  | await op k ih =>
    exact ⟨fun hop => ⟨hp.1 hop, hp'.1 hop⟩, fun r hr => ih r (hp.2 r hr) (hp'.2 r hr)⟩

theorem reports_swallow {sync : Op → Bool} {E : (op : Op) → Except ε (Res op) → Prop}
    (p : Prog Op Res ε α) (k : ε → α) :
    Reports sync E (p.tryCatch fun e => Pure.pure (k e)) fun _ o => ∀ e, o ≠ some (.error e) := by
  induction p with
  | pure a => simp [Reports, tryCatch]
  | throw e =>
    change ∀ e', some (.ok (k e)) ≠ some (Except.error e')
    simp
  | await op k' ih => exact ⟨by simp, fun r _ => ih r⟩

theorem Awaits.reports {P : Op → Prop} {sync : Op → Bool}
    {E : (op : Op) → Except ε (Res op) → Prop} {p : Prog Op Res ε α} (hp : p.Awaits P) :
    Reports sync E p fun done _ => ∀ d ∈ done, P d.1 := by
  induction p with
  | pure a => simp [Reports]
  | throw e => simp [Reports]
  | await op k ih =>
    refine ⟨by simp, fun r _ => (ih r (hp.2 r)).mono fun done _ hdone d hd => ?_⟩
    rcases List.mem_cons.mp hd with rfl | hd
    · exact hp.1
    · exact hdone d hd

end Prog
