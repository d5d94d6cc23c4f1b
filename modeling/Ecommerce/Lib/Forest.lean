import Mathlib.Logic.Function.Basic
import Mathlib.Logic.Relation

universe u

namespace Forest

variable {K : Type u} (parent : K → Option K)

def Up (x y : K) : Prop := parent x = some y

/-- Following the parents from `x` arrives at `y`, perhaps at once. -/
abbrev Reaches : K → K → Prop := Relation.ReflTransGen (Up parent)

def Acyclic : Prop := ∀ x, ¬ Relation.TransGen (Up parent) x x

variable {parent} {parent' : K → Option K}

theorem Acyclic.mono (h : Acyclic parent) (hle : ∀ x y, Up parent' x y → Up parent x y) :
    Acyclic parent' := fun x hx => h x (Relation.TransGen.mono hle x x hx)

theorem reaches_congr {a : K} (hparent : ∀ x, x ≠ a → parent' x = parent x) {x : K}
    (h : Reaches parent x a) : Reaches parent' x a := by
  induction h using Relation.ReflTransGen.head_induction_on with
  | refl => exact .refl
  | @head x y hxy _ ih =>
    by_cases hx : x = a
    · rw [hx]
    · exact ih.head (by rw [Up, hparent x hx, hxy])

theorem transGen_cases {a b : K} (hparent : ∀ x, x ≠ a → parent' x = parent x)
    (ha : parent' a = some b) {x y : K} (h : Relation.TransGen (Up parent') x y) :
    Relation.TransGen (Up parent) x y ∨ (Reaches parent' x a ∧ Reaches parent' b y) := by
  induction h with
  | @single y hxy =>
    by_cases hx : x = a
    · subst hx
      obtain rfl := Option.some.inj (ha.symm.trans hxy)
      exact .inr ⟨.refl, .refl⟩
    · exact .inl (.single (by rw [Up, ← hparent x hx, hxy]))
  | @tail y z hxy hyz ih =>
    by_cases hy : y = a
    · subst hy
      obtain rfl := Option.some.inj (ha.symm.trans hyz)
      exact .inr ⟨hxy.to_reflTransGen, .refl⟩
    · rcases ih with ih | ⟨hxa, hby⟩
      · exact .inl (ih.tail (by rw [Up, ← hparent y hy, hyz]))
      · exact .inr ⟨hxa, hby.tail hyz⟩

/-- Hanging `a` under `b` closes a cycle exactly when `a` is an ancestor of `b`, or `b` itself. -/
theorem acyclic_iff_of_moved {a b : K} (hacyclic : Acyclic parent)
    (hparent : ∀ x, x ≠ a → parent' x = parent x) (ha : parent' a = some b) :
    Acyclic parent' ↔ ¬ Reaches parent b a := by
  constructor
  · intro h hba
    exact h a (Relation.TransGen.head' ha (reaches_congr hparent hba))
  · intro h x hx
    rcases transGen_cases hparent ha hx with hx | ⟨hxa, hbx⟩
    · exact hacyclic x hx
    · exact h (reaches_congr (fun x hx => (hparent x hx).symm) (hbx.trans hxa))

theorem eq_of_reaches {a b : K} (hnone : ∀ x, parent x ≠ some a) (h : Reaches parent b a) :
    b = a := by
  cases h with
  | refl => rfl
  | tail _ hlast => exact absurd hlast (hnone _)

theorem eq_or_isSome_of_reaches {a b : K} (h : Reaches parent b a) : b = a ∨ (parent b).isSome := by
  cases h using Relation.ReflTransGen.head_induction_on with
  | refl => exact .inl rfl
  | head hxy _ =>
    rw [Up] at hxy
    exact .inr (by rw [hxy]; rfl)

end Forest
