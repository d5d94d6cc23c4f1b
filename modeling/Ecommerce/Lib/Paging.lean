import Mathlib.Algebra.Order.Floor.Div
import Mathlib.Data.List.Flatten
import Mathlib.Data.List.Perm.Basic
import Mathlib.Data.List.Sort
import Mathlib.Order.Basic

universe u v

namespace Paging

variable {α : Type u} {limit n total : Nat} {rows : List α}

def page (limit n : Nat) (rows : List α) : List α := (rows.drop (n * limit)).take limit

theorem length_page : (page limit n rows).length = min limit (rows.length - n * limit) := by
  rw [page, List.length_take, List.length_drop]

theorem mem_of_mem_page {a : α} (h : a ∈ page limit n rows) : a ∈ rows :=
  List.mem_of_mem_drop (List.mem_of_mem_take h)

theorem mem_page {a : α} {i : Nat} (hi : i < limit) (ha : rows[n * limit + i]? = some a) :
    a ∈ page limit n rows := by
  apply List.mem_of_getElem? (i := i)
  rw [page, List.getElem?_take_of_lt hi, List.getElem?_drop, ha]

theorem lt_ceilDiv_iff (hlimit : 0 < limit) : n < total ⌈/⌉ limit ↔ n * limit < total := by
  rw [← not_le, ceilDiv_le_iff_le_mul hlimit, not_le, Nat.mul_comm]

theorem le_ceilDiv_mul (hlimit : 0 < limit) : total ≤ total ⌈/⌉ limit * limit := by
  rw [Nat.mul_comm]
  exact (ceilDiv_le_iff_le_mul hlimit).mp le_rfl

theorem ceilDiv_eq_zero_iff (hlimit : 0 < limit) : total ⌈/⌉ limit = 0 ↔ total = 0 := by
  have hpos : 0 < total ⌈/⌉ limit ↔ 0 * limit < total := lt_ceilDiv_iff hlimit
  omega

theorem take_succ_mul : rows.take ((n + 1) * limit) = rows.take (n * limit) ++ page limit n rows := by
  rw [Nat.add_mul, Nat.one_mul, List.take_add, page]

theorem not_nodup_flatMap {pages : Nat → List α} {a : α} {i j : Nat} (hij : i < j) (hj : j < n)
    (hi : a ∈ pages i) (ha : a ∈ pages j) : ¬ ((List.range n).flatMap pages).Nodup := by
  intro hnodup
  have hdisjoint := List.pairwise_iff_getElem.mp (List.nodup_flatMap.mp hnodup).2
  have hpair := hdisjoint i j (by simp; omega) (by simp; omega) hij
  simp only [Function.onFun, List.getElem_range] at hpair
  exact hpair hi ha

theorem sum_length_page_range :
    ((List.range n).map fun k => min limit (total - k * limit)).sum = min total (n * limit) := by
  induction n with
  | zero => simp
  | succ n ih =>
    rw [List.range_succ, List.map_append, List.sum_append, ih, Nat.add_mul]
    simp only [List.map_cons, List.map_nil, List.sum_cons, List.sum_nil]
    omega

theorem sum_length_pages {lengths : Nat → Nat} (hlimit : 0 < limit)
    (hlengths : ∀ k < total ⌈/⌉ limit, lengths k = min limit (total - k * limit)) :
    ((List.range (total ⌈/⌉ limit)).map lengths).sum = total := by
  have hmap := List.map_congr_left fun k hk => hlengths k (List.mem_range.mp hk)
  rw [hmap, sum_length_page_range, min_eq_left (le_ceilDiv_mul hlimit)]

section Order

variable {κ : Type v} [LinearOrder κ] (key : α → κ) {xs rows' : List α} {a : α} {m i : Nat}

/-- `rows` is `xs` in an order that shows the greatest keys first. -/
structure Orders (xs rows : List α) : Prop where
  perm : rows.Perm xs
  desc : rows.Pairwise fun a b => key b ≤ key a

def before (xs : List α) (a : α) : Nat := xs.countP fun b => key a < key b

def upTo (xs : List α) (a : α) : Nat := xs.countP fun b => key a ≤ key b

def Splits (xs : List α) (m : Nat) : Prop := ∃ a ∈ xs, before key xs a < m ∧ m < upTo key xs a

instance : Decidable (Splits key xs m) :=
  inferInstanceAs (Decidable (∃ a ∈ xs, before key xs a < m ∧ m < upTo key xs a))

def swapAt : Nat → List α → List α
  | 0, a :: b :: rows => if key a = key b then b :: a :: rows else a :: b :: rows
  | m + 1, a :: rows => a :: swapAt m rows
  | _, rows => rows

variable {key}

theorem upTo_le_length : upTo key xs a ≤ xs.length := List.countP_le_length

theorem upTo_le_before {b : α} (h : key a < key b) : upTo key xs b ≤ before key xs a :=
  List.countP_mono_left fun c _ hc => by
    simp only [decide_eq_true_eq] at hc ⊢
    exact h.trans_le hc

namespace Orders

variable {front back : List α}

theorem before_le (h : Orders key xs (front ++ a :: back)) : before key xs a ≤ front.length := by
  have hback : (a :: back).countP (fun b => key a < key b) = 0 := by
    rw [List.countP_eq_zero]
    intro b hb
    rcases List.mem_cons.mp hb with rfl | hb
    · simp
    · have hle := (List.pairwise_cons.mp (List.pairwise_append.mp h.desc).2.1).1 b hb
      simpa using hle
  rw [before, ← h.perm.countP_eq, List.countP_append, hback, Nat.add_zero]
  exact List.countP_le_length

theorem lt_upTo (h : Orders key xs (front ++ a :: back)) : front.length < upTo key xs a := by
  have hfront : front.countP (fun b => key a ≤ key b) = front.length := by
    rw [List.countP_eq_length]
    intro b hb
    have hle := (List.pairwise_append.mp h.desc).2.2 b hb a List.mem_cons_self
    simpa using hle
  rw [upTo, ← h.perm.countP_eq, List.countP_append, List.countP_cons, hfront]
  simp only [le_refl, decide_true, if_true]
  omega

theorem key_eq {c : α} (h : Orders key xs (front ++ a :: back))
    (hle : before key xs c ≤ front.length) (hlt : front.length < upTo key xs c) :
    key a = key c := by
  have hle' := h.before_le
  have hlt' := h.lt_upTo
  by_contra hne
  rcases lt_or_gt_of_ne hne with hless | hgreater
  · have hgroup : upTo key xs c ≤ before key xs a := upTo_le_before hless
    omega
  · have hgroup : upTo key xs a ≤ before key xs c := upTo_le_before hgreater
    omega

theorem take_perm (h : Orders key xs rows) (hsplits : ¬ Splits key xs m) :
    (rows.take m).Perm (xs.filter fun a => before key xs a < m) := by
  have htake : (rows.take m).filter (fun a => before key xs a < m) = rows.take m := by
    rw [List.filter_eq_self]
    intro a ha
    obtain ⟨front, back, hrows⟩ := List.append_of_mem ha
    have hlength := List.length_take_le m rows
    have hwhole : rows = front ++ a :: (back ++ rows.drop m) := by
      rw [← List.cons_append, ← List.append_assoc, ← hrows, List.take_append_drop]
    have hle := (hwhole ▸ h).before_le
    rw [hrows, List.length_append, List.length_cons] at hlength
    simp only [decide_eq_true_eq]
    omega
  have hdrop : (rows.drop m).filter (fun a => before key xs a < m) = [] := by
    rw [List.filter_eq_nil_iff]
    intro a ha
    obtain ⟨front, back, hrows⟩ := List.append_of_mem ha
    have hm : m ≤ rows.length := by
      by_contra hm
      rw [List.drop_eq_nil_of_le (by omega)] at ha
      cases ha
    have hwhole : rows = (rows.take m ++ front) ++ a :: back := by
      rw [List.append_assoc, ← hrows, List.take_append_drop]
    have hlt := (hwhole ▸ h).lt_upTo
    rw [List.length_append, List.length_take, min_eq_left hm] at hlt
    have hmem : a ∈ xs := h.perm.mem_iff.mp (List.mem_of_mem_drop ha)
    simp only [decide_eq_true_eq]
    exact fun hbefore => hsplits ⟨a, hmem, hbefore, by omega⟩
  have hfilter : rows.filter (fun a => before key xs a < m) = rows.take m := by
    rw [← List.take_append_drop m rows, List.filter_append, htake, hdrop, List.append_nil,
      List.take_append_drop]
  exact hfilter ▸ h.perm.filter _

end Orders

/-- Pages that are cut from orders of one list hold every element once, if no cut splits a group of
equal keys: whichever order each page is cut from. -/
theorem flatMap_page_perm {order : Nat → List α} (horders : ∀ n, Orders key xs (order n))
    (hsplits : ∀ n, ¬ Splits key xs (n * limit)) (n : Nat) :
    ((List.range n).flatMap fun k => page limit k (order k)).Perm
      (xs.filter fun a => before key xs a < n * limit) := by
  induction n with
  | zero => simp
  | succ n ih =>
    rw [List.range_succ, List.flatMap_append, List.flatMap_singleton]
    have hprefix := (horders n).take_perm (hsplits n)
    have hnext := (horders n).take_perm (hsplits (n + 1))
    rw [take_succ_mul] at hnext
    exact ((ih.trans hprefix.symm).append_right _).trans hnext

theorem flatMap_pages_perm {order : Nat → List α} (hcover : xs.length ≤ n * limit)
    (horders : ∀ n, Orders key xs (order n)) (hsplits : ∀ n, ¬ Splits key xs (n * limit)) :
    ((List.range n).flatMap fun k => page limit k (order k)).Perm xs := by
  have hpages := flatMap_page_perm horders hsplits n
  have hall : xs.filter (fun a => before key xs a < n * limit) = xs := by
    rw [List.filter_eq_self]
    intro a ha
    obtain ⟨front, back, hrows⟩ := List.append_of_mem ((horders 0).perm.mem_iff.mpr ha)
    have hle := (hrows ▸ horders 0).before_le
    have hlength := (horders 0).perm.length_eq
    rw [hrows, List.length_append, List.length_cons] at hlength
    simp only [decide_eq_true_eq]
    omega
  rwa [hall] at hpages

theorem Orders.exists_of_splits (h : Orders key xs rows) (hsplits : Splits key xs m) :
    ∃ front a b back, rows = front ++ a :: b :: back ∧ front.length + 1 = m ∧ key a = key b := by
  obtain ⟨c, hc, hbefore, hupTo⟩ := hsplits
  have hm : m < rows.length := by
    rw [h.perm.length_eq]
    exact hupTo.trans_le upTo_le_length
  obtain ⟨i, rfl⟩ : ∃ i, m = i + 1 := ⟨m - 1, by omega⟩
  have hrows : rows = rows.take i ++ rows[i] :: rows[i + 1] :: rows.drop (i + 2) := by
    rw [List.getElem_cons_drop, List.getElem_cons_drop, List.take_append_drop]
  have hfront : (rows.take i).length = i := by
    rw [List.length_take]
    omega
  refine ⟨rows.take i, rows[i], rows[i + 1], rows.drop (i + 2), hrows, by omega, ?_⟩
  have hfirst : key rows[i] = key c := by
    apply (hrows ▸ h : Orders key xs (rows.take i ++ _)).key_eq <;> omega
  have hrows' : rows = (rows.take i ++ [rows[i]]) ++ rows[i + 1] :: rows.drop (i + 2) := by
    rw [List.append_assoc]
    exact hrows
  have hsecond : key rows[i + 1] = key c := by
    apply (hrows' ▸ h : Orders key xs ((rows.take i ++ [rows[i]]) ++ _)).key_eq <;>
      rw [List.length_append, hfront, List.length_singleton]
    · omega
    · exact hupTo
  exact hfirst.trans hsecond.symm

theorem Orders.swap {front back : List α} {a b : α} (hkey : key a = key b)
    (h : Orders key xs (front ++ a :: b :: back)) : Orders key xs (front ++ b :: a :: back) where
  perm := ((List.Perm.swap a b back).append_left front).trans h.perm
  desc := by
    have hdesc := h.desc
    simp only [List.pairwise_append, List.pairwise_cons, List.mem_cons, forall_eq_or_imp] at hdesc ⊢
    obtain ⟨hfront, ⟨⟨-, ha⟩, hb, hback⟩, hcross⟩ := hdesc
    exact ⟨hfront, ⟨⟨hkey.le, hb⟩, ha, hback⟩,
      fun c hc => ⟨(hcross c hc).2.1, (hcross c hc).1, (hcross c hc).2.2⟩⟩

theorem swapAt_append {front back : List α} {a b : α} (hkey : key a = key b) :
    swapAt key front.length (front ++ a :: b :: back) = front ++ b :: a :: back := by
  induction front with
  | nil => exact if_pos hkey
  | cons c front ih => exact congrArg (c :: ·) ih

variable (key) in
theorem swapAt_cases (m : Nat) (rows : List α) :
    swapAt key m rows = rows ∨ ∃ front a b back, rows = front ++ a :: b :: back ∧ key a = key b ∧
      swapAt key m rows = front ++ b :: a :: back := by
  fun_induction swapAt key m rows with
  | case1 a b rows hkey => exact .inr ⟨[], a, b, rows, rfl, hkey, rfl⟩
  | case2 a b rows hkey => exact .inl rfl
  | case3 m c rows ih =>
    rcases ih with ih | ⟨front, a, b, back, rfl, hkey, ih⟩
    · exact .inl (congrArg (c :: ·) ih)
    · exact .inr ⟨c :: front, a, b, back, rfl, hkey, congrArg (c :: ·) ih⟩
  | case4 m rows => exact .inl rfl

theorem orders_insertionSort (rows : List α) :
    Orders key rows (rows.insertionSort fun a b => key b ≤ key a) where
  perm := List.perm_insertionSort _ rows
  desc := by
    have htotal : Std.Total fun a b : α => key b ≤ key a := ⟨fun a b => le_total (key b) (key a)⟩
    have htrans : IsTrans α fun a b => key b ≤ key a := ⟨fun _ _ _ hab hbc => hbc.trans hab⟩
    exact List.pairwise_insertionSort _ rows

theorem Orders.swapAt (h : Orders key xs rows) (m : Nat) : Orders key xs (swapAt key m rows) := by
  rcases swapAt_cases key m rows with heq | ⟨front, a, b, back, rfl, hkey, heq⟩
  · exact heq.symm ▸ h
  · exact heq.symm ▸ h.swap hkey

theorem Orders.exists_mem_both (h : Orders key xs rows) (hlimit : 0 < limit)
    (hsplits : Splits key xs ((n + 1) * limit)) :
    ∃ a ∈ page limit n rows, a ∈ page limit (n + 1) (Paging.swapAt key ((n + 1) * limit - 1) rows) := by
  obtain ⟨front, a, b, back, rfl, hlength, hkey⟩ := h.exists_of_splits hsplits
  have hfront : (n + 1) * limit - 1 = front.length := by omega
  have hsucc : (n + 1) * limit = n * limit + limit := by rw [Nat.add_mul, Nat.one_mul]
  refine ⟨a, mem_page (i := limit - 1) (by omega) ?_, mem_page (i := 0) hlimit ?_⟩
  · rw [show n * limit + (limit - 1) = front.length by omega, List.getElem?_append_right le_rfl,
      Nat.sub_self, List.getElem?_cons_zero]
  · rw [hfront, swapAt_append hkey, Nat.add_zero, ← hlength,
      List.getElem?_append_right (Nat.le_add_right _ 1), Nat.add_sub_cancel_left]
    rfl

end Order

end Paging
