import Ecommerce.Inventory.Messaging

namespace Ecommerce

/-- Both counters of every product are what they were. -/
def SameCounters (s s' : Stock) : Prop :=
  ∀ p, (s' p).map (fun row => (row.quantity, row.reservedQuantity)) =
    (s p).map fun row => (row.quantity, row.reservedQuantity)

theorem sameCounters_shift_iff {s : Stock} {a b : ProductId → Int}
    (hzero : ∀ p, s p = none → a p = 0 ∧ b p = 0) :
    SameCounters s (s.shift a b) ↔ a = 0 ∧ b = 0 := by
  constructor
  · intro h
    have hp : ∀ p, a p = 0 ∧ b p = 0 := by
      intro p
      cases hrow : s p with
      | none => exact hzero p hrow
      | some row =>
        have hsame := h p
        rw [Stock.shift_of_some hrow, hrow] at hsame
        simpa using hsame
    exact ⟨funext fun p => (hp p).1, funext fun p => (hp p).2⟩
  · rintro ⟨rfl, rfl⟩ p
    rw [Stock.shift_zero]

namespace InventoryService

/-- The items that a reservation which is not granted has taken and has not put back. -/
def Pass.left (s : Stock) (p : Pass) : List Item :=
  match p.ending with
  | .granted => []
  | .refused _ => p.taken.drop (served p.rest s p.taken).length
  | .failed _ => p.taken

theorem Pass.kept_eq_left (s : Stock) {p : Pass} (hending : p.ending ≠ .granted) :
    p.kept s = demand (p.left s) := by
  cases h : p.ending with
  | granted => exact absurd h hending
  | failed e => simp only [kept, left, h]
  | refused productId =>
    obtain ⟨rest, hrest⟩ := prefix_served p.rest s p.taken
    simp only [kept, left, h]
    generalize served p.rest s p.taken = given at hrest ⊢
    rw [← hrest, List.drop_left, demand_append, add_sub_cancel_left]

end InventoryService

namespace InventoryMessaging

open InventoryService

/-- The items that a request which fails has moved and has not moved back, by the statements that
the database rejects and the rows that are there. -/
def left (db : Script DbTurn) (s : Stock) : InventoryQueue → List Item → List Item
  | .reserve, items => (pass db s items).left s
  | _, items => if served db s items = items then [] else served db s items

theorem exec_reserve_success_iff (db : Script DbTurn) (items : List Item) (s : Stock) :
    (exec db .reserve items s).1.success ↔ (pass db s items).ending = .granted := by
  have hplay := play_handler db .reserve items s
  rw [handler, answer, Prog.play_tryCatch_pure, play_reserveStock, Prod.mk.injEq] at hplay
  obtain ⟨hreply, -⟩ := hplay
  rw [← Except.ok.inj hreply]
  cases h : (pass db s items).ending with
  | granted => simp [Pass.settlement, h]
  | failed e => simp [Pass.settlement, h]
  | refused productId =>
    simp only [Pass.settlement, h]
    cases (Prog.play Stock.db (pass db s items).rest
      (forEach InventoryRepository.releaseStock (pass db s items).taken)
      (s.shift 0 (demand (pass db s items).taken))).1 <;> simp [Except.map]

theorem moved_eq_zero_iff {db : Script DbTurn} {s : Stock} {queue : InventoryQueue}
    {items : List Item} (hfails : (exec db queue items s).1.success = false) :
    (moved db s queue items).1 = 0 ∧ (moved db s queue items).2 = 0 ↔
      demand (left db s queue items) = 0 := by
  have hfailed : ¬ (exec db queue items s).1.success = true := by
    rw [hfails]
    exact Bool.false_ne_true
  cases queue with
  | reserve =>
    rw [exec_reserve_success_iff] at hfailed
    simp only [moved, left, Pass.kept_eq_left s hfailed, true_and]
  | release =>
    rw [(exec_release db items s).2] at hfailed
    simp only [moved, left, if_neg hfailed, neg_eq_zero, true_and]
  | confirm =>
    rw [(exec_confirm db items s).2] at hfailed
    simp only [moved, left, if_neg hfailed, neg_eq_zero, and_self]

theorem left_of_success {db : Script DbTurn} {s : Stock} {queue : InventoryQueue}
    {items : List Item} (hsucceeds : (exec db queue items s).1.success = true) :
    left db s queue items = [] := by
  cases queue with
  | reserve =>
    rw [exec_reserve_success_iff] at hsucceeds
    simp only [left, Pass.left, hsucceeds]
  | release =>
    rw [(exec_release db items s).2] at hsucceeds
    exact if_pos hsucceeds
  | confirm =>
    rw [(exec_confirm db items s).2] at hsucceeds
    exact if_pos hsucceeds

theorem untouched_iff_left (db : Script DbTurn) (queue : InventoryQueue) (items : List Item)
    (s : Stock) :
    ((exec db queue items s).1.success = false → SameCounters s (exec db queue items s).2) ↔
      demand (left db s queue items) = 0 := by
  cases hsuccess : (exec db queue items s).1.success with
  | true =>
    rw [left_of_success hsuccess]
    exact iff_of_true (fun h => by cases h) demand_nil
  | false =>
    have hzero : ∀ p, s p = none →
        (moved db s queue items).1 p = 0 ∧ (moved db s queue items).2 p = 0 :=
      fun p hp => moved_eq_zero hp queue items
    rw [exec_eq_shift, sameCounters_shift_iff hzero, moved_eq_zero_iff hsuccess]
    exact forall_prop_of_true rfl

theorem demand_left_iff {items : List Item} (hpos : Positive items) (db : Script DbTurn) (s : Stock)
    (queue : InventoryQueue) :
    demand (left db s queue items) = 0 ↔ left db s queue items = [] := by
  have hsub : ∀ item ∈ left db s queue items, item ∈ items := by
    cases queue with
    | reserve =>
      intro item hitem
      have htaken : item ∈ (pass db s items).taken := by
        simp only [left, Pass.left] at hitem
        split at hitem
        · cases hitem
        · exact List.mem_of_mem_drop hitem
        · exact hitem
      exact (prefix_taken db s items).subset htaken
    | release | confirm =>
      intro item hitem
      simp only [left] at hitem
      split at hitem
      · cases hitem
      · exact (prefix_served db s items).subset hitem
  have hleft : Positive (left db s queue items) := fun item hi => hpos item (hsub item hi)
  rw [← hleft.demand_eq_zero_iff, funext_iff]
  rfl

def FirstFails (db : Script DbTurn) (s : Stock) (items : List Item) : Prop :=
  ∀ item ∈ items.head?, db 0 ≠ .accept ∨ s item.productId = none

def NoneFails (db : Script DbTurn) (s : Stock) (items : List Item) : Prop :=
  s.Stocked items ∧ ∀ n < items.length, db n = .accept

/-- The request moves nothing: its first update fails, or a reservation takes nothing or puts back
what it took. -/
def Idle (db : Script DbTurn) (s : Stock) : InventoryQueue → List Item → Prop
  | .reserve, items => (pass db s items).Undone
  | _, items => FirstFails db s items

/-- The request gets to the end of its items. -/
def Granted (db : Script DbTurn) (s : Stock) : InventoryQueue → List Item → Prop
  | .reserve, items => (pass db s items).ending = .granted
  | _, items => NoneFails db s items

theorem served_eq_nil_iff {db : Script DbTurn} {s : Stock} {items : List Item} :
    served db s items = [] ↔ FirstFails db s items := by
  cases items with
  | nil => exact iff_of_true rfl (by simp [FirstFails])
  | cons item items =>
    cases hturn : db 0 with
    | reject m => simp [served, FirstFails, hturn]
    | accept => cases hrow : s item.productId <;> simp [served, FirstFails, hturn, hrow]

theorem served_eq_self_iff {db : Script DbTurn} {s : Stock} {items : List Item} :
    served db s items = items ↔ NoneFails db s items := by
  constructor
  · intro h
    have hstocked := stocked_served db s items
    rw [h] at hstocked
    exact ⟨hstocked, (served_eq_iff hstocked).mp h⟩
  · exact fun ⟨hstocked, haccept⟩ => (served_eq_iff hstocked).mpr haccept

theorem passLeft_eq_nil_iff {s : Stock} {p : Pass} (hs : s.Stocked p.taken) :
    p.left s = [] ↔ p.ending = .granted ∨ p.Undone := by
  cases hending : p.ending with
  | granted => simp [Pass.left, hending]
  | failed e => simp [Pass.left, Pass.Undone, hending]
  | refused productId =>
    have hprefix := prefix_served p.rest s p.taken
    have hall : (p.left s = []) ↔ served p.rest s p.taken = p.taken := by
      simp only [Pass.left, hending, List.drop_eq_nil_iff]
      exact ⟨fun h => hprefix.eq_of_length_le h, fun h => by rw [h]⟩
    rw [hall, served_eq_iff hs]
    constructor
    · exact fun h => .inr (.inr ⟨⟨productId, hending⟩, h⟩)
    · rintro (h | hnone | ⟨-, h⟩)
      · cases h
      · simp [hnone]
      · exact h

theorem left_eq_nil_iff (db : Script DbTurn) (s : Stock) (queue : InventoryQueue)
    (items : List Item) :
    left db s queue items = [] ↔ Granted db s queue items ∨ Idle db s queue items := by
  cases queue with
  | reserve => exact passLeft_eq_nil_iff (stocked_taken db s items)
  | release | confirm =>
    simp only [left, Granted, Idle, ← served_eq_nil_iff, ← served_eq_self_iff]
    split
    · next h => exact iff_of_true rfl (.inl h)
    · next h => exact ⟨.inr, fun h' => h'.resolve_left h⟩

/-- A request that is answered with `success: false` leaves every counter as it was exactly when it
fails before its first update or puts everything back; only amounts that are not positive can also
cancel each other. -/
theorem untouched_iff (db : Script DbTurn) (queue : InventoryQueue) (items : List Item)
    (s : Stock) :
    ((exec db queue items s).1.success = false → SameCounters s (exec db queue items s).2) ↔
      (Granted db s queue items ∨ Idle db s queue items) ∨
        ¬ Positive items ∧ ∀ p, demand (left db s queue items) p = 0 := by
  rw [untouched_iff_left, ← left_eq_nil_iff]
  constructor
  · intro hzero
    by_cases hpos : Positive items
    · exact .inl ((demand_left_iff hpos db s queue).mp hzero)
    · exact .inr ⟨hpos, congrFun hzero⟩
  · rintro (hnil | ⟨-, hzero⟩)
    · rw [hnil, demand_nil]
    · exact funext hzero

section Example

private def twoRows : Stock :=
  Function.update (Stock.single "a" ⟨10, 0, 5⟩) "b" (some ⟨10, 0, 5⟩)

/-- The increment of the second item is rejected. -/
private def cutOff : Script DbTurn := fun n => if n = 3 then .reject "timeout" else .accept

/-- The reservation is answered with `success: false`, and one unit of the first item stays
reserved. -/
theorem not_untouched_twoRows :
    ¬ ((exec cutOff .reserve [⟨"a", 1⟩, ⟨"b", 1⟩] twoRows).1.success = false →
      SameCounters twoRows (exec cutOff .reserve [⟨"a", 1⟩, ⟨"b", 1⟩] twoRows).2) := by
  intro h
  have hsame := h (by decide) "a"
  revert hsame
  decide

end Example

end InventoryMessaging

end Ecommerce
