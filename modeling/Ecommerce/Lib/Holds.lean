import Mathlib.Algebra.Order.BigOperators.Group.List
import Mathlib.Algebra.Order.Ring.Int
import Mathlib.Algebra.Order.Pi
import Mathlib.Algebra.Ring.Pi

universe u

structure Holds (P : Type u) where
  onHand : P → Int
  holds : List (P → Int) := []
  taken : List (P → Int) := []

namespace Holds

variable {P : Type u}

def held (b : Holds P) : P → Int := b.holds.sum

structure Sound (b : Holds P) : Prop where
  nonneg : ∀ d ∈ b.holds, 0 ≤ d
  covered : b.held ≤ b.onHand

def place (b : Holds P) (d : P → Int) : Holds P := { b with holds := d :: b.holds }

def giveBack (b : Holds P) (i : Nat) : Holds P := { b with holds := b.holds.eraseIdx i }

def take (b : Holds P) (i : Nat) (d : P → Int) : Holds P :=
  ⟨b.onHand - d, b.holds.eraseIdx i, d :: b.taken⟩

inductive Step : Holds P → Holds P → Prop
  | place {b d} : 0 ≤ d → d + b.held ≤ b.onHand → Step b (b.place d)
  | giveBack {b i d} : b.holds[i]? = some d → Step b (b.giveBack i)
  | take {b i d} : b.holds[i]? = some d → Step b (b.take i d)

theorem sum_eraseIdx {holds : List (P → Int)} {i : Nat} {d : P → Int} (h : holds[i]? = some d) :
    (holds.eraseIdx i).sum = holds.sum - d := by
  induction holds generalizing i with
  | nil => simp at h
  | cons e holds ih =>
    cases i with
    | zero =>
      obtain rfl : e = d := by simpa using h
      simp
    | succ i => simp [ih (by simpa using h), add_sub_assoc]

@[simp] theorem held_place (b : Holds P) (d : P → Int) : (b.place d).held = d + b.held := by
  simp [held, place]

theorem held_giveBack {b : Holds P} {i : Nat} {d : P → Int} (h : b.holds[i]? = some d) :
    (b.giveBack i).held = b.held - d := sum_eraseIdx h

theorem held_take {b : Holds P} {i : Nat} {d : P → Int} (h : b.holds[i]? = some d) :
    (b.take i d).held = b.held - d := sum_eraseIdx h

theorem Sound.held_nonneg {b : Holds P} (hb : b.Sound) : 0 ≤ b.held := List.sum_nonneg hb.nonneg

theorem Step.sound {b b' : Holds P} (h : Step b b') (hb : b.Sound) : b'.Sound := by
  cases h with
  | @place d hd hfits =>
    refine ⟨fun e he => ?_, ?_⟩
    · rcases List.mem_cons.mp he with rfl | he
      · exact hd
      · exact hb.nonneg e he
    · rw [held_place]
      exact hfits
  | @giveBack i d h =>
    refine ⟨fun e he => hb.nonneg e (List.mem_of_mem_eraseIdx he), ?_⟩
    rw [held_giveBack h]
    exact (sub_le_self _ (hb.nonneg d (List.mem_of_getElem? h))).trans hb.covered
  | @take i d h =>
    refine ⟨fun e he => hb.nonneg e (List.mem_of_mem_eraseIdx he), ?_⟩
    rw [held_take h]
    exact sub_le_sub_right hb.covered d

theorem Step.onHand_add_taken {b b' : Holds P} (h : Step b b') :
    b'.onHand + b'.taken.sum = b.onHand + b.taken.sum := by
  cases h with
  | place hd hfits => rfl
  | giveBack h => rfl
  | take h => simp [Holds.take, sub_add_eq_add_sub, add_sub_assoc]

end Holds
