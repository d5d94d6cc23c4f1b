import Ecommerce.Inventory.Effect

namespace Ecommerce

namespace InventoryMessaging

/-- An RPC handler answers failures instead of raising them. -/
def answer (service : List Item → InventoryM InventoryResponse) (items : List Item) :
    InventoryM InventoryResponse :=
  Prog.tryCatch (service items) fun error =>
    pure { success := false, message := some error.message }

/-- The handlers of `setupRPCServers`. -/
def handler : InventoryQueue → List Item → InventoryM InventoryResponse
  | .reserve => answer InventoryService.reserveStock
  | .release => answer InventoryService.releaseStock
  | .confirm => answer InventoryService.confirmReservation

open InventoryService

/-- The reply and the table that a request leaves, its statements meeting with `db`. -/
def exec (db : Script DbTurn) (queue : InventoryQueue) (items : List Item) (s : Stock) :
    InventoryResponse × Stock :=
  match Prog.play Stock.db db (handler queue items) s with
  | (.ok r, s') => (r, s')
  | (.error e, s') => ({ success := false, message := some e.message }, s')

theorem play_handler (db : Script DbTurn) (queue : InventoryQueue) (items : List Item)
    (s : Stock) : Prog.play Stock.db db (handler queue items) s =
      (.ok (exec db queue items s).1, (exec db queue items s).2) := by
  have hok : ∀ service : List Item → InventoryM InventoryResponse,
      ∃ r s', Prog.play Stock.db db (answer service items) s = (.ok r, s') :=
    fun service => ⟨_, _, Prog.play_tryCatch_pure Stock.db db _ _ s⟩
  obtain ⟨r, s', hplay⟩ : ∃ r s', Prog.play Stock.db db (handler queue items) s = (.ok r, s') := by
    cases queue <;> exact hok _
  simp only [exec, hplay]

theorem isSome_exec (db : Script DbTurn) (queue : InventoryQueue) (items : List Item)
    (s : Stock) (p : ProductId) : ((exec db queue items s).2 p).isSome = (s p).isSome := by
  have hplay := play_handler db queue items s
  rw [← Stock.isSome_play db (handler queue items) s p, hplay]

section Settlement

variable {act : ProductId → Int → InventoryM (Option InventoryRow)} {cq cr : Int}

/-- Both settlements are one loop under one handler: what they move is what they serve. -/
theorem play_answer_forEach (hact : Adjusts act cq cr) (db : Script DbTurn) (s : Stock)
    (items : List Item) :
    ∃ r : InventoryResponse, Prog.play Stock.db db
        (answer (fun items => do forEach act items; pure { success := true }) items) s =
      (.ok r, s.shift (cq • demand (served db s items)) (cr • demand (served db s items))) ∧
      (r.success ↔ served db s items = items) := by
  have hstate := play_forEach_state hact db s items
  have hok := play_forEach_ok hact db s items
  have hmap := Prog.play_map Stock.db db (forEach act items)
    (fun _ => ({ success := true } : InventoryResponse)) s
  rw [← hok, ← hstate]
  simp only [answer, Prog.play_tryCatch_pure, hmap]
  cases (Prog.play Stock.db db (forEach act items) s).1 with
  | ok u => exact ⟨{ success := true }, rfl, by simp⟩
  | error e => exact ⟨{ success := false, message := some e.message }, rfl, by simp⟩

end Settlement

theorem exec_release (db : Script DbTurn) (items : List Item) (s : Stock) :
    (exec db .release items s).2 = s.shift 0 (-demand (served db s items)) ∧
      ((exec db .release items s).1.success ↔ served db s items = items) := by
  obtain ⟨r, hplay, hr⟩ := play_answer_forEach adjusts_releaseStock db s items
  have hexec : Prog.play Stock.db db (handler .release items) s = _ := hplay
  simp only [exec, hexec]
  exact ⟨by simp, hr⟩

theorem exec_confirm (db : Script DbTurn) (items : List Item) (s : Stock) :
    (exec db .confirm items s).2 =
        s.shift (-demand (served db s items)) (-demand (served db s items)) ∧
      ((exec db .confirm items s).1.success ↔ served db s items = items) := by
  obtain ⟨r, hplay, hr⟩ := play_answer_forEach adjusts_confirmReservation db s items
  have hexec : Prog.play Stock.db db (handler .confirm items) s = _ := hplay
  simp only [exec, hexec]
  exact ⟨by simp, hr⟩

theorem exec_reserve_state (db : Script DbTurn) (items : List Item) (s : Stock) :
    (exec db .reserve items s).2 = s.shift 0 ((pass db s items).kept s) := by
  have hplay := play_handler db .reserve items s
  rw [handler, answer, Prog.play_tryCatch_pure, play_reserveStock, Prod.mk.injEq] at hplay
  exact hplay.2.symm

theorem exec_success_iff {queue : InventoryQueue} (hqueue : queue ≠ .reserve) (db : Script DbTurn)
    (items : List Item) (s : Stock) :
    (exec db queue items s).1.success ↔ served db s items = items := by
  cases queue with
  | reserve => exact absurd rfl hqueue
  | release => exact (exec_release db items s).2
  | confirm => exact (exec_confirm db items s).2

section Accept

variable {s : Stock} {items : List Item}

theorem exec_release_accept (hs : s.Stocked items) :
    (exec (fun _ => .accept) .release items s).2 = s.shift 0 (-demand items) ∧
      (exec (fun _ => .accept) .release items s).1.success = true := by
  have hserved : served (fun _ => .accept) s items = items :=
    (served_accept s items).trans hs.reached_eq
  obtain ⟨hstate, hsuccess⟩ := exec_release (fun _ => .accept) items s
  rw [hserved] at hstate
  exact ⟨hstate, hsuccess.mpr hserved⟩

theorem exec_confirm_accept (hs : s.Stocked items) :
    (exec (fun _ => .accept) .confirm items s).2 = s.shift (-demand items) (-demand items) ∧
      (exec (fun _ => .accept) .confirm items s).1.success = true := by
  have hserved : served (fun _ => .accept) s items = items :=
    (served_accept s items).trans hs.reached_eq
  obtain ⟨hstate, hsuccess⟩ := exec_confirm (fun _ => .accept) items s
  rw [hserved] at hstate
  exact ⟨hstate, hsuccess.mpr hserved⟩

theorem exec_reserve_accept (s : Stock) (items : List Item) :
    (exec (fun _ => .accept) .reserve items s).1.success = grants s items ∧
      (exec (fun _ => .accept) .reserve items s).2 =
        if grants s items then s.shift 0 (demand items) else s := by
  obtain ⟨r, hrun, hgrants, -⟩ := run_reserveStock s items
  have hplay : Prog.play Stock.db (fun _ => .accept) (handler .reserve items) s =
      (.ok r, if r.success then s.shift 0 (demand items) else s) := by
    rw [handler, answer, Prog.play_tryCatch_pure, Prog.play_const, hrun]
  simp only [exec, hplay, hgrants]
  simp

end Accept

/-- What a request adds to `quantity` and to `reservedQuantity`. -/
def moved (db : Script DbTurn) (s : Stock) :
    InventoryQueue → List Item → (ProductId → Int) × (ProductId → Int)
  | .reserve, items => (0, (pass db s items).kept s)
  | .release, items => (0, -demand (served db s items))
  | .confirm, items => (-demand (served db s items), -demand (served db s items))

theorem exec_eq_shift (db : Script DbTurn) (queue : InventoryQueue) (items : List Item)
    (s : Stock) : (exec db queue items s).2 =
      s.shift (moved db s queue items).1 (moved db s queue items).2 := by
  cases queue with
  | reserve => exact exec_reserve_state db items s
  | release => exact (exec_release db items s).1
  | confirm => exact (exec_confirm db items s).1

theorem stocked_served (db : Script DbTurn) (s : Stock) (items : List Item) :
    s.Stocked (served db s items) := by
  induction items generalizing db with
  | nil => simp [served, Stock.Stocked]
  | cons item items ih =>
    rw [served]
    split
    · next row hrow =>
      intro i hi
      rcases List.mem_cons.mp hi with rfl | hi
      · rw [hrow]
        rfl
      · exact ih db.tail i hi
    · simp [Stock.Stocked]

theorem moved_eq_zero {db : Script DbTurn} {s : Stock} {p : ProductId} (hp : s p = none)
    (queue : InventoryQueue) (items : List Item) :
    (moved db s queue items).1 p = 0 ∧ (moved db s queue items).2 p = 0 := by
  have hserved : demand (served db s items) p = 0 := (stocked_served db s items).demand_eq_zero hp
  cases queue with
  | reserve =>
    obtain ⟨left, hleft, hkept, -⟩ := Pass.exists_left (stocked_taken db s items)
    have hstocked : s.Stocked left := fun item hi => stocked_taken db s items item (hleft.subset hi)
    exact ⟨rfl, (congrFun hkept p).trans (hstocked.demand_eq_zero hp)⟩
  | release => simp [moved, hserved]
  | confirm => simp [moved, hserved]

end InventoryMessaging

end Ecommerce
