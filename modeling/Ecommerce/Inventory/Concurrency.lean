import Ecommerce.Inventory.Effect
import Ecommerce.Lib.Pool
import Ecommerce.Lib.Runs

/-! Concurrent `reserveStock` calls: every statement is one step, and the steps of different
calls interleave in any order. -/

namespace Ecommerce

open InventoryService

abbrev ReservePool := Pool (InventoryM InventoryResponse) Stock

def ReservePool.turn (pool : ReservePool) (t : Nat × DbTurn) : ReservePool :=
  Pool.turn (fun c p s => Prog.step (Stock.db c) p s) pool t

def ReservePool.start (s : Stock) (calls : List (List Item)) : ReservePool :=
  ⟨calls.map reserveStock, s⟩

def InventoryResponse.granted (r : InventoryResponse) : ProductId → Int :=
  if r.success then demand (r.reservations.getD []) else 0

def granted (p : InventoryM InventoryResponse) : ProductId → Int :=
  match p.settlement with
  | some (.ok r) => r.granted
  | _ => 0

def ReservePool.executes (pool : ReservePool) (t : Nat × DbTurn) : Option InventoryOp :=
  match t.2 with
  | .accept => (pool.threads[t.1]?).bind Prog.awaited
  | .reject _ => none

def InventoryOp.takes : InventoryOp → ProductId → Int
  | .update p data => demand [⟨p, data.reservedQuantity.change⟩]
  | .findUnique _ => 0

/-- A run of the calls, with what each of them saw available on its last read, and what the
statements of the other calls have added to each product's reserved quantity since. -/
structure ReserveRun where
  pool : ReservePool
  saw : Nat → Int
  since : Nat → ProductId → Int

namespace ReserveRun

def start (s : Stock) (calls : List (List Item)) : ReserveRun := ⟨.start s calls, 0, 0⟩

def turn (run : ReserveRun) (t : Nat × DbTurn) : ReserveRun :=
  match run.pool.executes t with
  | some (.findUnique p) =>
    { pool := run.pool.turn t
      saw := Function.update run.saw t.1 ((run.pool.state p).elim 0 (·.availableStock))
      since := Function.update run.since t.1 0 }
  | some (.update p data) =>
    { pool := run.pool.turn t
      saw := run.saw
      since := fun i =>
        if i = t.1 then run.since i else run.since i + (InventoryOp.update p data).takes }
  | none => { run with pool := run.pool.turn t }

end ReserveRun

inductive ReserveCall
  | checking (results : List Item) (item : Item) (items : List Item)
  | incrementing (results : List Item) (item : Item) (items : List Item)
  | undoing (item : Item) (left : List Item) (message : String)
  | resolved (r : InventoryResponse)
  | rejected (left : List Item) (e : Error)

namespace ReserveCall

def loop (results : List Item) : List Item → ReserveCall
  | [] => .resolved { success := true, reservations := some results }
  | item :: items => .checking results item items

def rollback (message : String) : List Item → ReserveCall
  | [] => .resolved { success := false, message := some message }
  | item :: left => .undoing item left message

/-- The program that is left to run. -/
def program : ReserveCall → InventoryM InventoryResponse
  | .checking results item items => reserveLoop results (item :: items)
  | .incrementing results item items => do
    match ← InventoryRepository.update item.productId
      { reservedQuantity := .increment item.quantity } with
    | none => do
      forEach InventoryRepository.releaseStock results
      pure { success := false, message := some (insufficientStock item.productId) }
    | some _ => reserveLoop (results ++ [item]) items
  | .undoing item left message => do
    forEach InventoryRepository.releaseStock (item :: left)
    pure { success := false, message := some message }
  | .resolved r => pure r
  | .rejected _ e => throw e

theorem program_loop (results items : List Item) :
    (loop results items).program = reserveLoop results items := by
  cases items <;> rfl

theorem program_rollback (message : String) (left : List Item) :
    (rollback message left).program = (do
      forEach InventoryRepository.releaseStock left
      pure { success := false, message := some message }) := by
  cases left <;> rfl

def step (c : DbTurn) (call : ReserveCall) (s : Stock) : ReserveCall × Stock :=
  match call, c with
  | .checking results _ _, .reject m => (.rejected results (.plain m), s)
  | .checking results item items, .accept =>
    match s item.productId with
    | none => (rollback (insufficientStock item.productId) results, s)
    | some row =>
      if row.availableStock < item.quantity then
        (rollback (insufficientStock item.productId) results, s)
      else (.incrementing results item items, s)
  | .incrementing results _ _, .reject m => (.rejected results (.plain m), s)
  | .incrementing results item items, .accept =>
    if (s item.productId).isSome then
      (loop (results ++ [item]) items, s.shift 0 (demand [item]))
    else (.rejected results recordNotFound, s)
  | .undoing item left _, .reject m => (.rejected (item :: left) (.plain m), s)
  | .undoing item left message, .accept =>
    if (s item.productId).isSome then (rollback message left, s.shift 0 (-demand [item]))
    else (.rejected (item :: left) recordNotFound, s)
  | .resolved r, _ => (.resolved r, s)
  | .rejected left e, _ => (.rejected left e, s)

theorem step_checking (results : List Item) (item : Item) (items : List Item) (s : Stock) :
    (reserveLoop results (item :: items)).step (Stock.db .accept) s =
      ((match s item.productId with
        | none => (rollback (insufficientStock item.productId) results).program
        | some row =>
          if row.availableStock < item.quantity then
            (rollback (insufficientStock item.productId) results).program
          else (ReserveCall.incrementing results item items).program), s) := by
  simp only [program_rollback]
  change (Prog.bind (match s item.productId with
    | none => Pure.pure none
    | some inventory =>
      if inventory.availableStock < item.quantity then Pure.pure none
      else InventoryRepository.update item.productId
        { reservedQuantity := .increment item.quantity }) _, s) = _
  cases s item.productId with
  | none => rfl
  | some row =>
    by_cases hlt : row.availableStock < item.quantity
    · simp only [hlt, if_true]
      rfl
    · simp only [hlt, if_false]
      rfl

theorem db_update_of_some {s : Stock} {item : Item} (h : (s item.productId).isSome)
    (data : InventoryUpdate) {b : ProductId → Int} (hb : ∀ p, p ≠ item.productId → b p = 0)
    (hdata : ∀ row, data.apply row =
      { row with reservedQuantity := row.reservedQuantity + b item.productId }) :
    ∃ row, Stock.db .accept (.update item.productId data) s = (.ok row, s.shift 0 b) := by
  obtain ⟨row, hrow⟩ := Option.isSome_iff_exists.mp h
  refine ⟨data.apply row, ?_⟩
  have hshift := Stock.update_eq_shift (a := 0) (b := b) hrow (fun _ _ => rfl) hb rfl
  simp only [Pi.zero_apply, add_zero] at hshift
  rw [← hshift, ← hdata]
  simp only [Stock.db, hrow]

theorem db_update_of_none {s : Stock} {p : ProductId} (h : ¬(s p).isSome) (data : InventoryUpdate) :
    Stock.db .accept (.update p data) s = (.error recordNotFound, s) := by
  have hnone : s p = none := by simpa using h
  simp only [Stock.db, hnone]

theorem step_program (c : DbTurn) (call : ReserveCall) (s : Stock) :
    call.program.step (Stock.db c) s = ((call.step c s).1.program, (call.step c s).2) := by
  cases call with
  | checking results item items =>
    cases c with
    | reject m => rfl
    | accept =>
      rw [step]
      apply (step_checking results item items s).trans
      cases s item.productId with
      | none => rfl
      | some row => by_cases hlt : row.availableStock < item.quantity <;> simp [hlt]
  | incrementing results item items =>
    cases c with
    | reject m => rfl
    | accept =>
      change Prog.step _ (.await (InventoryOp.update _ _) _) s = _
      by_cases h : (s item.productId).isSome
      · obtain ⟨row, hdb⟩ := db_update_of_some (b := demand [item]) h
          { reservedQuantity := .increment item.quantity }
          (fun p hp => demand_singleton_of_ne hp)
          (fun row => by simp [InventoryUpdate.apply, IntUpdate.apply])
        rw [Prog.step_await, hdb, step, if_pos h, program_loop]
        rfl
      · rw [Prog.step_await, db_update_of_none h, step, if_neg h]
        rfl
  | undoing item left message =>
    cases c with
    | reject m => rfl
    | accept =>
      change Prog.step _ (.await (InventoryOp.update _ _) _) s = _
      by_cases h : (s item.productId).isSome
      · obtain ⟨row, hdb⟩ := db_update_of_some (b := -demand [item]) h
          { reservedQuantity := .decrement item.quantity }
          (fun p hp => by simp [demand_singleton_of_ne hp])
          (fun row => by simp [InventoryUpdate.apply, IntUpdate.apply, sub_eq_add_neg])
        rw [Prog.step_await, hdb, step, if_pos h, program_rollback]
        rfl
      · rw [Prog.step_await, db_update_of_none h, step, if_neg h]
        rfl
  | resolved r => cases c <;> rfl
  | rejected left e => cases c <;> rfl

def held : ReserveCall → ProductId → Int
  | .checking results _ _ => demand results
  | .incrementing results _ _ => demand results
  | .undoing item left _ => demand (item :: left)
  | .resolved r => r.granted
  | .rejected left _ => demand left

def Positive : ReserveCall → Prop
  | .checking results item items => Ecommerce.Positive (results ++ item :: items)
  | .incrementing results item items => Ecommerce.Positive (results ++ item :: items)
  | .undoing item left _ => Ecommerce.Positive (item :: left)
  | .resolved r => Ecommerce.Positive (r.reservations.getD [])
  | .rejected left _ => Ecommerce.Positive left

theorem held_loop (results items : List Item) : (loop results items).held = demand results := by
  cases items <;> rfl

theorem held_rollback (message : String) (left : List Item) :
    (rollback message left).held = demand left := by
  cases left <;> rfl

theorem positive_loop {results items : List Item} (h : Ecommerce.Positive (results ++ items)) :
    (loop results items).Positive := by
  cases items with
  | nil => simpa [loop, Positive] using h
  | cons item items => exact h

theorem positive_rollback (message : String) {left : List Item} (h : Ecommerce.Positive left) :
    (rollback message left).Positive := by
  cases left with
  | nil => exact h
  | cons item left => exact h

theorem Positive.held_nonneg {call : ReserveCall} (h : call.Positive) : 0 ≤ call.held := by
  intro p
  cases call with
  | checking results item items =>
    exact Positive.demand_nonneg (fun i hi => h i (List.mem_append_left _ hi)) p
  | incrementing results item items =>
    exact Positive.demand_nonneg (fun i hi => h i (List.mem_append_left _ hi)) p
  | undoing item left message => exact Positive.demand_nonneg h p
  | resolved r =>
    simp only [held, InventoryResponse.granted]
    split
    · exact Positive.demand_nonneg h p
    · exact le_rfl
  | rejected left e => exact Positive.demand_nonneg h p

theorem positive_step {call : ReserveCall} (h : call.Positive) (c : DbTurn) (s : Stock) :
    (call.step c s).1.Positive := by
  cases call with
  | checking results item items =>
    have hresults : Ecommerce.Positive results := fun i hi => h i (List.mem_append_left _ hi)
    cases c with
    | reject m => exact hresults
    | accept =>
      rw [step]
      cases s item.productId with
      | none => exact positive_rollback _ hresults
      | some row =>
        by_cases hlt : row.availableStock < item.quantity
        · simpa only [hlt, if_true] using positive_rollback _ hresults
        · simp only [hlt, if_false]
          exact h
  | incrementing results item items =>
    have hresults : Ecommerce.Positive results := fun i hi => h i (List.mem_append_left _ hi)
    cases c with
    | reject m => exact hresults
    | accept =>
      rw [step]
      split
      · apply positive_loop
        rw [List.append_assoc]
        exact h
      · exact hresults
  | undoing item left message =>
    cases c with
    | reject m => exact h
    | accept =>
      rw [step]
      split
      · exact positive_rollback _ h.tail
      · exact h
  | resolved r => cases c <;> exact h
  | rejected left e => cases c <;> exact h

theorem state_step (c : DbTurn) (call : ReserveCall) (s : Stock) :
    (call.step c s).2 = s.shift 0 ((call.step c s).1.held - call.held) := by
  cases call with
  | checking results item items =>
    cases c with
    | reject m => simp [step, held]
    | accept =>
      have hback : s = s.shift 0
          ((rollback (insufficientStock item.productId) results).held - demand results) := by
        rw [held_rollback, sub_self, Stock.shift_zero]
      rw [step]
      cases s item.productId with
      | none => exact hback
      | some row =>
        by_cases hlt : row.availableStock < item.quantity
        · simp only [hlt, if_true]
          exact hback
        · simp [hlt, held]
  | incrementing results item items =>
    cases c with
    | reject m => simp [step, held]
    | accept =>
      rw [step]
      split
      · rw [held_loop, demand_append]
        simp [held]
      · simp [held]
  | undoing item left message =>
    cases c with
    | reject m => simp [step, held]
    | accept =>
      rw [step]
      split
      · rw [held_rollback]
        simp [held, demand_cons item left]
      · simp [held]
  | resolved r => cases c <;> simp [step]
  | rejected left e => cases c <;> simp [step]

end ReserveCall

def Within (s : Stock) : Prop := ∀ p row, s p = some row → row.reservedQuantity ≤ row.quantity

namespace ReservePool

structure Accounted (s : Stock) (calls : Pool ReserveCall Stock) : Prop where
  state_eq : calls.state = s.shift 0 (Pool.total ReserveCall.held calls.threads)
  positive : ∀ call ∈ calls.threads, call.Positive

theorem turn_program (calls : Pool ReserveCall Stock) (t : Nat × DbTurn) :
    turn (calls.map ReserveCall.program) t =
      (Pool.turn ReserveCall.step calls t).map ReserveCall.program :=
  Pool.turn_map fun call _ => ReserveCall.step_program t.2 call calls.state

theorem Accounted.turn {s : Stock} {calls : Pool ReserveCall Stock} (h : Accounted s calls)
    (t : Nat × DbTurn) : Accounted s (Pool.turn ReserveCall.step calls t) where
  state_eq := by
    refine Pool.turn_ind (motive := fun q : Pool ReserveCall Stock =>
      q.state = s.shift 0 (Pool.total ReserveCall.held q.threads)) h.state_eq ?_
    intro call hcall
    have htotal := Pool.total_set ReserveCall.held (ReserveCall.step t.2 call calls.state).1 hcall
    rw [← eq_sub_iff_add_eq] at htotal
    dsimp only
    rw [htotal, ReserveCall.state_step, h.state_eq, Stock.shift_shift, zero_add, add_sub_assoc]
  positive := Pool.turn_forall h.positive fun _ _ hcall => ReserveCall.positive_step hcall _ _

end ReservePool

namespace ReserveRun

open ReserveCall

theorem neg_demand_singleton (item : Item) :
    -demand [item] = demand [⟨item.productId, -item.quantity⟩] := by
  funext p
  by_cases hp : p = item.productId <;> simp [demand, hp]

theorem state_step_takes (call : ReserveCall) (s : Stock) :
    (call.step .accept s).2 =
      s.shift 0 ((call.program.awaited.elim 0 InventoryOp.takes)) := by
  have hnone : ∀ {p : ProductId} {n : Int}, ¬ (s p).isSome → s.shift 0 (demand [⟨p, n⟩]) = s := by
    intro p n hp
    funext q
    by_cases hq : q = p
    · subst hq
      simp [Stock.shift, Option.not_isSome_iff_eq_none.mp hp]
    · have hzero : demand [⟨p, n⟩] q = 0 := demand_singleton_of_ne hq
      cases hrow : s q <;> simp [Stock.shift, hrow, hzero]
  cases call with
  | checking results item items =>
    have htakes : ((checking results item items).program.awaited.elim 0 InventoryOp.takes) = 0 :=
      rfl
    rw [htakes, Stock.shift_zero, ReserveCall.step]
    cases s item.productId with
    | none => rfl
    | some row =>
      dsimp only
      split <;> rfl
  | incrementing results item items =>
    change _ = s.shift 0 (demand [⟨item.productId, item.quantity⟩])
    rw [ReserveCall.step]
    split
    · rfl
    · next h => exact (hnone h).symm
  | undoing item left message =>
    change _ = s.shift 0 (demand [⟨item.productId, -item.quantity⟩])
    rw [ReserveCall.step]
    split
    · rw [← neg_demand_singleton]
    · next h => exact (hnone h).symm
  | resolved r => exact (Stock.shift_zero s).symm
  | rejected left e => exact (Stock.shift_zero s).symm

/-- What is available to a call that is about to increment is what it saw, less what the others
have taken since. -/
structure Tracks (s : Stock) (run : ReserveRun) (calls : Pool ReserveCall Stock) : Prop where
  accounted : ReservePool.Accounted s calls
  pool_eq : run.pool = calls.map program
  available : ∀ i results item items, calls.threads[i]? = some (.incrementing results item items) →
    ∀ row, calls.state item.productId = some row →
      row.availableStock = run.saw i - run.since i item.productId

theorem pool_turn (run : ReserveRun) (t : Nat × DbTurn) :
    (run.turn t).pool = run.pool.turn t := by
  unfold turn
  split <;> rfl

theorem state_step_reject (call : ReserveCall) (m : String) (s : Stock) :
    (call.step (.reject m) s).2 = s := by
  cases call <;> rfl

theorem checking_of_step {c : DbTurn} {call : ReserveCall} {s : Stock} {results items : List Item}
    {item : Item} (h : (call.step c s).1 = .incrementing results item items) :
    c = .accept ∧ call = .checking results item items ∧ (call.step c s).2 = s := by
  have hloop : ∀ results' items', loop results' items' ≠ .incrementing results item items := by
    intro results' items'
    cases items' <;> nofun
  have hrollback : ∀ message left, rollback message left ≠ .incrementing results item items := by
    intro message left
    cases left <;> nofun
  cases call with
  | checking results' item' items' =>
    cases c with
    | reject m => cases h
    | accept =>
      rw [ReserveCall.step] at h ⊢
      cases hrow : s item'.productId with
      | none =>
        rw [hrow] at h
        exact absurd h (hrollback _ _)
      | some row =>
        rw [hrow] at h
        dsimp only at h ⊢
        split at h
        · exact absurd h (hrollback _ _)
        · next hlt =>
          rw [if_neg hlt]
          obtain ⟨rfl, rfl, rfl⟩ := ReserveCall.incrementing.inj h
          exact ⟨rfl, rfl, rfl⟩
  | incrementing results' item' items' =>
    cases c with
    | reject m => cases h
    | accept =>
      rw [ReserveCall.step] at h
      split at h
      · exact absurd h (hloop _ _)
      · cases h
  | undoing item' left message =>
    cases c with
    | reject m => cases h
    | accept =>
      rw [ReserveCall.step] at h
      split at h
      · exact absurd h (hrollback _ _)
      · cases h
  | resolved r => cases c <;> cases h
  | rejected left e => cases c <;> cases h

section Tracks

variable {s : Stock} {run : ReserveRun} {calls : Pool ReserveCall Stock}

theorem Tracks.executes (h : Tracks s run calls) {i : Nat} {call : ReserveCall}
    (hcall : calls.threads[i]? = some call) :
    run.pool.executes (i, .accept) = call.program.awaited := by
  simp [ReservePool.executes, h.pool_eq, hcall]

theorem Tracks.available_turn (h : Tracks s run calls) {t : Nat × DbTurn} {i : Nat}
    {results items : List Item} {item : Item}
    (hi : (Pool.turn ReserveCall.step calls t).threads[i]? =
      some (.incrementing results item items)) {row : InventoryRow}
    (hrow : (Pool.turn ReserveCall.step calls t).state item.productId = some row) :
    row.availableStock = (run.turn t).saw i - (run.turn t).since i item.productId := by
  obtain ⟨j, c⟩ := t
  cases hcall : calls.threads[j]? with
  | none =>
    have hexecutes : run.pool.executes (j, c) = none := by
      cases c <;> simp [ReservePool.executes, h.pool_eq, hcall]
    simp only [Pool.turn, hcall] at hi hrow
    simp only [turn, hexecutes]
    exact h.available i results item items hi row hrow
  | some call =>
    by_cases hij : j = i
    · subst hij
      rw [Pool.threads_turn_self hcall] at hi
      obtain ⟨rfl, rfl, hstate⟩ := checking_of_step (Option.some.inj hi)
      have hexecutes : run.pool.executes (j, .accept) = some (.findUnique item.productId) :=
        h.executes hcall
      rw [Pool.state_turn hcall] at hrow
      rw [hstate] at hrow
      simp only [turn, hexecutes]
      simp [h.pool_eq, hrow]
    · rw [Pool.threads_turn_of_ne hij] at hi
      rw [Pool.state_turn hcall] at hrow
      cases c with
      | reject m =>
        rw [state_step_reject] at hrow
        exact h.available i results item items hi row hrow
      | accept =>
        rw [state_step_takes] at hrow
        obtain ⟨row₀, hrow₀, hquantity, hreserved⟩ := Stock.exists_of_shift hrow
        have havailable := h.available i results item items hi row₀ hrow₀
        have hne : i ≠ j := Ne.symm hij
        have hexecutes := h.executes hcall
        cases hop : call.program.awaited with
        | none =>
          rw [hop] at hexecutes hreserved
          simp only [turn, hexecutes]
          simp only [InventoryRow.availableStock, Option.elim_none, Pi.zero_apply] at *
          omega
        | some op =>
          rw [hop] at hexecutes hreserved
          cases op with
          | findUnique p =>
            simp only [turn, hexecutes, Function.update_of_ne hne]
            simp only [InventoryRow.availableStock, Option.elim_some, InventoryOp.takes,
              Pi.zero_apply] at *
            omega
          | update p data =>
            simp only [turn, hexecutes, if_neg hne, Pi.add_apply]
            simp only [InventoryRow.availableStock, Option.elim_some, Pi.zero_apply] at *
            omega

theorem Tracks.turn (h : Tracks s run calls) (t : Nat × DbTurn) :
    Tracks s (run.turn t) (Pool.turn ReserveCall.step calls t) where
  accounted := h.accounted.turn t
  pool_eq := by rw [pool_turn, h.pool_eq, ReservePool.turn_program]
  available _ _ _ _ hi _ hrow := h.available_turn hi hrow

end Tracks

end ReserveRun

section Example

end Example

end Ecommerce
