import Mathlib.Algebra.BigOperators.Group.List.Basic
import Mathlib.Data.List.Nodup
import Mathlib.Tactic.Abel

universe u v w

structure Table {K : Type u} {R : Type v} (key : R → K) where
  rows : List R
  nodup : (rows.map key).Nodup

namespace Table

variable {K : Type u} {R : Type v} {key : R → K}

def empty : Table key := ⟨[], List.nodup_nil⟩

def sum {M : Type w} [AddCommMonoid M] (f : R → M) (t : Table key) : M := (t.rows.map f).sum

@[simp] theorem sum_empty {M : Type w} [AddCommMonoid M] (f : R → M) :
    (empty : Table key).sum f = 0 := rfl

variable [DecidableEq K]

def find? (t : Table key) (k : K) : Option R := t.rows.find? fun r => key r = k

def insert (t : Table key) (r : R) : Option (Table key) :=
  if h : key r ∈ t.rows.map key then none
  else some ⟨t.rows ++ [r], by
    rw [List.map_append]
    exact List.perm_append_comm.nodup_iff.mpr (List.nodup_cons.mpr ⟨h, t.nodup⟩)⟩

def modify (t : Table key) (k : K) (f : R → R) (hf : ∀ r, key (f r) = key r) : Table key where
  rows := t.rows.map fun r => if key r = k then f r else r
  nodup := by
    have hkeys : ((t.rows.map fun r => if key r = k then f r else r).map key) = t.rows.map key := by
      rw [List.map_map]
      apply List.map_congr_left
      intro r _
      by_cases hr : key r = k <;> simp [hr, hf]
    rw [hkeys]
    exact t.nodup

/-- Puts `r` in the place of the row with key `k`; refused when another row has the key of `r`. -/
def replace (t : Table key) (k : K) (r : R) : Option (Table key) :=
  if h : key r = k ∨ key r ∉ t.rows.map key then
    some
      { rows := t.rows.map fun x => if key x = k then r else x
        nodup := by
          rw [List.map_map]
          refine List.Nodup.map_on ?_ (List.Nodup.of_map key t.nodup)
          intro x hx y hy hxy
          have hfresh : ∀ z ∈ t.rows, key z ≠ k → key r ≠ key z := fun z hz hne hrz =>
            h.elim (fun hrk => hne (hrz.symm.trans hrk)) fun hnot =>
              hnot (hrz ▸ List.mem_map_of_mem hz)
          apply List.inj_on_of_nodup_map t.nodup hx hy
          simp only [Function.comp_apply] at hxy
          by_cases hxk : key x = k <;> by_cases hyk : key y = k
          · exact hxk.trans hyk.symm
          · rw [if_pos hxk, if_neg hyk] at hxy
            exact absurd hxy (hfresh y hy hyk)
          · rw [if_neg hxk, if_pos hyk] at hxy
            exact absurd hxy.symm (hfresh x hx hxk)
          · rw [if_neg hxk, if_neg hyk] at hxy
            exact hxy }
  else none

def filter (t : Table key) (p : R → Bool) : Table key where
  rows := t.rows.filter p
  nodup := t.nodup.sublist (List.filter_sublist.map key)

/-- Rewrites every row. -/
def map (t : Table key) (f : R → R) (hf : ∀ r, key (f r) = key r) : Table key where
  rows := t.rows.map f
  nodup := by
    rw [List.map_map, show key ∘ f = key from funext hf]
    exact t.nodup

theorem key_of_find? {t : Table key} {k : K} {r : R} (h : t.find? k = some r) : key r = k := by
  simpa using List.find?_some h

theorem mem_of_find? {t : Table key} {k : K} {r : R} (h : t.find? k = some r) : r ∈ t.rows :=
  List.mem_of_find?_eq_some h

theorem find?_eq_none {t : Table key} {k : K} : t.find? k = none ↔ k ∉ t.rows.map key := by
  simp [find?, List.find?_eq_none]

theorem find?_of_mem {t : Table key} {r : R} (h : r ∈ t.rows) : t.find? (key r) = some r := by
  cases hf : t.find? (key r) with
  | none => exact absurd (List.mem_map_of_mem h) (find?_eq_none.mp hf)
  | some r' =>
    have hinj := List.inj_on_of_nodup_map t.nodup
    exact congrArg some (hinj (mem_of_find? hf) h (key_of_find? hf))

theorem find?_eq_some {t : Table key} {k : K} {r : R} :
    t.find? k = some r ↔ r ∈ t.rows ∧ key r = k :=
  ⟨fun h => ⟨mem_of_find? h, key_of_find? h⟩, fun ⟨hmem, hkey⟩ => hkey ▸ find?_of_mem hmem⟩

theorem insert_eq_none {t : Table key} {r : R} :
    t.insert r = none ↔ t.find? (key r) ≠ none := by
  simp only [insert, ne_eq, find?_eq_none, not_not]
  split <;> simp_all

section Insert

variable {t t' : Table key} {r : R}

theorem find?_of_insert (h : t.insert r = some t') : t.find? (key r) = none := by
  by_contra hn
  simp [insert_eq_none.mpr hn] at h

theorem rows_insert (h : t.insert r = some t') : t'.rows = t.rows ++ [r] := by
  unfold insert at h
  split at h
  · simp at h
  · exact (congrArg rows (Option.some.inj h)).symm

theorem find?_insert (h : t.insert r = some t') (k : K) :
    t'.find? k = if k = key r then some r else t.find? k := by
  have hnew := find?_of_insert h
  simp only [find?, rows_insert h, List.find?_append]
  by_cases hk : k = key r
  · subst hk
    have hnone : (t.rows.find? fun r' => key r' = key r) = none := hnew
    simp [hnone]
  · have hne : key r ≠ k := fun e => hk e.symm
    simp [hk, hne]

theorem forall_insert {P : R → Prop} (h : t.insert r = some t') (ht : ∀ x ∈ t.rows, P x) (hr : P r) :
    ∀ x ∈ t'.rows, P x := by
  intro x hx
  rw [rows_insert h] at hx
  rcases List.mem_append.mp hx with hx | hx
  · exact ht x hx
  · exact List.mem_singleton.mp hx ▸ hr

theorem sum_insert {M : Type w} [AddCommMonoid M] (f : R → M) (h : t.insert r = some t') :
    t'.sum f = t.sum f + f r := by
  simp [sum, rows_insert h]

end Insert

theorem find?_replace {t t' : Table key} {k : K} {r : R} (h : t.replace k r = some t') {k' : K}
    {x : R} (hk : k' ≠ k) (hx : t.find? k' = some x) : t'.find? k' = some x := by
  obtain ⟨hmem, hkey⟩ := find?_eq_some.mp hx
  unfold replace at h
  split at h
  · obtain rfl := Option.some.inj h
    refine find?_eq_some.mpr ⟨List.mem_map.mpr ⟨x, hmem, ?_⟩, hkey⟩
    exact if_neg (hkey ▸ hk)
  · cases h

theorem find?_replace_eq {t t' : Table key} {k : K} {r : R} (h : t.replace k r = some t')
    (hk : (t.find? k).isSome) (k' : K) :
    t'.find? k' = if k' = key r then some r else if k' = k then none else t.find? k' := by
  obtain ⟨old, hold⟩ := Option.isSome_iff_exists.mp hk
  obtain ⟨hmem, hkey⟩ := find?_eq_some.mp hold
  have hrows : t'.rows = t.rows.map fun x => if key x = k then r else x := by
    unfold replace at h
    split at h
    · exact (congrArg rows (Option.some.inj h)).symm
    · cases h
  split
  · next hr =>
    refine find?_eq_some.mpr ⟨?_, hr.symm⟩
    rw [hrows]
    exact List.mem_map.mpr ⟨old, hmem, if_pos hkey⟩
  · next hr =>
    split
    · next hk' =>
      rw [find?_eq_none, hrows]
      intro hmem'
      obtain ⟨x, hx, hxk⟩ := List.mem_map.mp hmem'
      obtain ⟨y, -, rfl⟩ := List.mem_map.mp hx
      split at hxk
      · exact hr hxk.symm
      · next hy => exact hy (hxk.trans hk')
    · next hk' =>
      cases hx : t.find? k' with
      | some x => exact find?_replace h hk' hx
      | none =>
        rw [find?_eq_none] at hx ⊢
        rw [hrows]
        intro hmem'
        obtain ⟨x, hx', hxk⟩ := List.mem_map.mp hmem'
        obtain ⟨y, hy, rfl⟩ := List.mem_map.mp hx'
        split at hxk
        · exact hr hxk.symm
        · exact hx (hxk ▸ List.mem_map_of_mem hy)

theorem replace_key_ne {t t' : Table key} {k k' : K} {r x : R} (h : t.replace k r = some t')
    (hmoved : key r ≠ k) (hx : t.find? k' = some x) : k' ≠ key r := by
  rintro rfl
  unfold replace at h
  split at h
  · next hfree =>
    rw [find?_eq_none.mpr (hfree.resolve_left hmoved)] at hx
    cases hx
  · cases h

theorem find?_filter (t : Table key) (p : R → Bool) {k : K} {x : R} (hx : t.find? k = some x)
    (hp : p x) : (t.filter p).find? k = some x := by
  obtain ⟨hmem, hkey⟩ := find?_eq_some.mp hx
  exact find?_eq_some.mpr ⟨List.mem_filter.mpr ⟨hmem, hp⟩, hkey⟩

theorem find?_filter_key_ne (t : Table key) (k k' : K) :
    (t.filter fun r => key r ≠ k).find? k' = if k' = k then none else t.find? k' := by
  simp only [find?, filter, List.find?_filter]
  split
  · next hk =>
    rw [List.find?_eq_none]
    intro r _
    simp [hk]
  · next hk =>
    congr 1
    funext r
    by_cases hr : key r = k' <;> simp [hr, hk]

theorem find?_map (t : Table key) (f : R → R) (hf : ∀ r, key (f r) = key r) (k : K) :
    (t.map f hf).find? k = (t.find? k).map f := by
  have hkey : (fun r => decide (key r = k)) ∘ f = fun r => decide (key r = k) := by
    funext r
    rw [Function.comp_apply, hf]
  rw [find?, map, List.find?_map, hkey, find?]

section Modify

variable {t : Table key} {k : K} {f : R → R} {hf : ∀ r, key (f r) = key r}

theorem find?_modify (k' : K) :
    (t.modify k f hf).find? k' = if k' = k then (t.find? k).map f else t.find? k' := by
  simp only [find?, modify]
  induction t.rows with
  | nil => simp
  | cons r rows ih =>
    by_cases hr : key r = k
    · by_cases hk : k = k'
      · simp [hr, hf, hk]
      · have hk' : ¬k' = k := fun e => hk e.symm
        simp only [hk', if_false] at ih
        simp [hr, hf, hk, hk', ih]
    · by_cases hk : key r = k'
      · have hk' : ¬k' = k := fun e => hr (hk.trans e)
        simp [hk, hk']
      · simp [hr, hk, ih]

variable (hf) in
theorem forall_modify {P : R → Prop} (ht : ∀ x ∈ t.rows, P x) (hstep : ∀ x, P x → P (f x)) :
    ∀ x ∈ (t.modify k f hf).rows, P x := by
  intro x hx
  obtain ⟨y, hy, rfl⟩ := List.mem_map.mp hx
  by_cases hk : key y = k
  · simpa only [if_pos hk] using hstep y (ht y hy)
  · simpa only [if_neg hk] using ht y hy

theorem sum_modify {M : Type w} [AddCommMonoid M] (g : R → M) {r : R} (hr : t.find? k = some r) :
    (t.modify k f hf).sum g + g r = t.sum g + g (f r) := by
  obtain ⟨rows, nodup⟩ := t
  simp only [find?, sum, modify] at hr ⊢
  induction rows with
  | nil => simp at hr
  | cons r' rows ih =>
    simp only [List.map_cons, List.nodup_cons] at nodup
    by_cases hk : key r' = k
    · obtain rfl : r' = r := by simpa [hk] using hr
      have hrest : ∀ x ∈ rows, (if key x = k then f x else x) = x := by
        intro x hx
        have hne : key x ≠ k := fun e => nodup.1 (hk ▸ e ▸ List.mem_map_of_mem hx)
        simp [hne]
      have hmap : (rows.map fun x => if key x = k then f x else x) = rows := by
        rw [List.map_congr_left hrest, List.map_id']
      simp only [List.map_cons, hk, if_true, hmap, List.sum_cons]
      abel
    · have ih' := ih nodup.2 (by simpa [hk] using hr)
      simp only [List.map_cons, hk, if_false, List.sum_cons]
      rw [add_assoc, ih', add_assoc]

theorem sum_modify_of_eq {M : Type w} [AddCommMonoid M] (g : R → M) (hg : ∀ r, g (f r) = g r) :
    (t.modify k f hf).sum g = t.sum g := by
  simp only [sum, modify, List.map_map]
  congr 1
  apply List.map_congr_left
  intro r _
  by_cases hr : key r = k <;> simp [hr, hg]

end Modify

end Table

structure UniqueTable {K : Type u} {L : Type v} {R : Type w} (key : R → K) (alt : R → L) extends
    Table key where
  alt_nodup : (rows.map alt).Nodup

namespace UniqueTable

variable {K : Type u} {L : Type v} {R : Type w} {key : R → K} {alt : R → L}

def empty : UniqueTable key alt := ⟨.empty, List.nodup_nil⟩

def byAlt (t : UniqueTable key alt) : Table alt := ⟨t.rows, t.alt_nodup⟩

def filter (t : UniqueTable key alt) (p : R → Bool) : UniqueTable key alt where
  toTable := t.toTable.filter p
  alt_nodup := (t.byAlt.filter p).nodup

variable [DecidableEq K] [DecidableEq L]

def findBy? (t : UniqueTable key alt) (l : L) : Option R := t.byAlt.find? l

def insert (t : UniqueTable key alt) (r : R) : Option (UniqueTable key alt) :=
  if h : key r ∉ t.rows.map key ∧ alt r ∉ t.rows.map alt then
    some
      { rows := t.rows ++ [r]
        nodup := by
          rw [List.map_append]
          exact List.perm_append_comm.nodup_iff.mpr (List.nodup_cons.mpr ⟨h.1, t.nodup⟩)
        alt_nodup := by
          rw [List.map_append]
          exact List.perm_append_comm.nodup_iff.mpr (List.nodup_cons.mpr ⟨h.2, t.alt_nodup⟩) }
  else none

def modify (t : UniqueTable key alt) (k : K) (f : R → R) (hkey : ∀ r, key (f r) = key r)
    (halt : ∀ r, alt (f r) = alt r) : UniqueTable key alt where
  toTable := t.toTable.modify k f hkey
  alt_nodup := by
    have halts : ((t.rows.map fun r => if key r = k then f r else r).map alt) = t.rows.map alt := by
      rw [List.map_map]
      apply List.map_congr_left
      intro r _
      by_cases hr : key r = k <;> simp [hr, halt]
    exact halts ▸ t.alt_nodup

omit [DecidableEq K] in
theorem findBy?_eq_some {t : UniqueTable key alt} {l : L} {r : R} :
    t.findBy? l = some r ↔ r ∈ t.rows ∧ alt r = l := Table.find?_eq_some

theorem insert_eq_some {t t' : UniqueTable key alt} {r : R} (h : t.insert r = some t') :
    t'.rows = t.rows ++ [r] ∧ key r ∉ t.rows.map key ∧ alt r ∉ t.rows.map alt := by
  unfold insert at h
  split at h
  · next hfresh =>
    obtain rfl := Option.some.inj h
    exact ⟨rfl, hfresh⟩
  · simp at h

end UniqueTable
