import Mathlib.Data.List.Basic

universe u v

structure KeyValue (K : Type u) (V : Type v) where
  entries : List (K × V)

namespace KeyValue

variable {K : Type u} {V : Type v}

def empty : KeyValue K V := ⟨[]⟩

def keep (p : K → Bool) (s : KeyValue K V) : KeyValue K V := ⟨s.entries.filter fun e => p e.1⟩

variable [DecidableEq K]

def get (k : K) (s : KeyValue K V) : Option V := s.entries.lookup k

def set (k : K) (v : V) (s : KeyValue K V) : KeyValue K V :=
  ⟨(k, v) :: (s.keep (· ≠ k)).entries⟩

def del (ks : List K) (s : KeyValue K V) : KeyValue K V := s.keep (· ∉ ks)

def keys (p : K → Bool) (s : KeyValue K V) : List K := (s.entries.map Prod.fst).filter p

variable {s : KeyValue K V} {k k' : K} {v : V}

@[simp] theorem get_keep (p : K → Bool) : (s.keep p).get k = if p k then s.get k else none := by
  obtain ⟨entries⟩ := s
  simp only [keep, get]
  induction entries with
  | nil => simp
  | cons e entries ih =>
    obtain ⟨k', v⟩ := e
    by_cases hk : k = k'
    · subst hk
      cases hp : p k with
      | true => simp [hp]
      | false =>
        rw [hp] at ih
        simpa [hp] using ih
    · have hne : (k == k') = false := beq_false_of_ne hk
      by_cases hp : p k' <;> simp [hp, hne, List.lookup_cons, ih]

@[simp] theorem get_set : (s.set k v).get k' = if k' = k then some v else s.get k' := by
  by_cases hk : k' = k
  · subst hk
    simp [set, get]
  · have hne : (k' == k) = false := beq_false_of_ne hk
    have hkept : (s.keep (· ≠ k)).get k' = s.get k' := by simp [hk]
    rw [if_neg hk, ← hkept]
    simp [set, get, List.lookup_cons, hne]

@[simp] theorem get_del (ks : List K) : (s.del ks).get k = if k ∈ ks then none else s.get k := by
  by_cases hk : k ∈ ks <;> simp [del, hk]

theorem mem_keys {p : K → Bool} (hk : s.get k = some v) (hp : p k) : k ∈ s.keys p := by
  refine List.mem_filter.mpr ⟨?_, hp⟩
  obtain ⟨entries⟩ := s
  simp only [get] at hk
  induction entries with
  | nil => cases hk
  | cons e entries ih =>
    obtain ⟨k', v'⟩ := e
    by_cases hkk : k = k'
    · exact List.mem_cons.mpr (.inl hkk)
    · have hne : (k == k') = false := beq_false_of_ne hkk
      rw [List.lookup_cons, hne] at hk
      exact List.mem_cons_of_mem _ (ih hk)

end KeyValue
