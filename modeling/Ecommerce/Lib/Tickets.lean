import Mathlib.Algebra.Order.Monoid.Defs
import Mathlib.Logic.Relation

universe u v w

/-- The deadlines of the tickets that are outstanding, and who issued and who redeemed a ticket at
what time. -/
@[ext] structure Tickets (ι : Type u) (K : Type v) (τ : Type w) where
  deadline : K → Option τ
  issued : ι → K → τ → Prop
  redeemed : ι → K → τ → Prop

namespace Tickets

variable {ι : Type u} {K : Type v} {τ : Type w} [DecidableEq K] [Add τ] [LE τ] (ttl : τ)

structure Sound (b : Tickets ι K τ) : Prop where
  outstanding : ∀ {k e}, b.deadline k = some e → ∃ i t, b.issued i k t ∧ e = t + ttl ∧
    ∀ j now, ¬ b.redeemed j k now
  fresh : ∀ {j k now}, b.redeemed j k now → ∃ i t, b.issued i k t ∧ t ≤ now ∧ now ≤ t + ttl
  once : ∀ {i j k now now'}, b.redeemed i k now → b.redeemed j k now' → i = j

/-- A ticket is issued under a key that has not been redeemed, it is withdrawn, or it is redeemed
in time. -/
inductive Step (b : Tickets ι K τ) : Tickets ι K τ → Prop
  | issue (i : ι) (k : K) (t : τ) (hk : ∀ j now, ¬ b.redeemed j k now) :
      Step b ⟨Function.update b.deadline k (some (t + ttl)),
        fun i' k' t' => b.issued i' k' t' ∨ i' = i ∧ k' = k ∧ t' = t, b.redeemed⟩
  | withdraw (k : K) : Step b ⟨Function.update b.deadline k none, b.issued, b.redeemed⟩
  | redeem (j : ι) {k : K} {e now : τ} (hk : b.deadline k = some e) (hle : now ≤ e)
      (hclock : ∀ i t, b.issued i k t → t ≤ now) :
      Step b ⟨Function.update b.deadline k none, b.issued,
        fun j' k' now' => b.redeemed j' k' now' ∨ j' = j ∧ k' = k ∧ now' = now⟩

variable {ttl} {b b' : Tickets ι K τ}

theorem Sound.step (hb : Sound ttl b) (h : Step ttl b b') : Sound ttl b' := by
  cases h with
  | issue i k t hk =>
    refine ⟨fun {k' e} he => ?_, fun hj => ?_, hb.once⟩
    · by_cases hkk : k' = k
      · subst hkk
        simp only [Function.update_self, Option.some.injEq] at he
        exact ⟨i, t, .inr ⟨rfl, rfl, rfl⟩, he.symm, hk⟩
      · simp only [Function.update_of_ne hkk] at he
        obtain ⟨i', t', hi', hrest⟩ := hb.outstanding he
        exact ⟨i', t', .inl hi', hrest⟩
    · obtain ⟨i', t', hi', hrest⟩ := hb.fresh hj
      exact ⟨i', t', .inl hi', hrest⟩
  | withdraw k =>
    refine ⟨fun {k' e} he => ?_, hb.fresh, hb.once⟩
    by_cases hkk : k' = k
    · simp [hkk] at he
    · simp only [Function.update_of_ne hkk] at he
      exact hb.outstanding he
  | @redeem j k e now hk hle hclock =>
    obtain ⟨i, t, hi, rfl, hnone⟩ := hb.outstanding hk
    refine ⟨fun {k' e'} he => ?_, ?_, ?_⟩
    · by_cases hkk : k' = k
      · simp [hkk] at he
      · simp only [Function.update_of_ne hkk] at he
        obtain ⟨i', t', hi', he', hnone'⟩ := hb.outstanding he
        refine ⟨i', t', hi', he', fun j' now' h => ?_⟩
        rcases h with h | ⟨-, h, -⟩
        · exact hnone' j' now' h
        · exact hkk h
    · rintro j' k' now' (h | ⟨rfl, rfl, rfl⟩)
      · exact hb.fresh h
      · exact ⟨i, t, hi, hclock i t hi, hle⟩
    · rintro j' j'' k' now' now'' (h | ⟨rfl, rfl, rfl⟩) (h' | ⟨rfl, h', rfl⟩)
      · exact hb.once h h'
      · exact absurd (h' ▸ h) (hnone _ _)
      · exact absurd h' (hnone _ _)
      · rfl

end Tickets
