import Ecommerce.Inventory.Service
import Mathlib.Algebra.Module.Pi
import Mathlib.Algebra.Ring.Int.Defs
import Mathlib.Data.List.TakeWhile

namespace Ecommerce

namespace Stock

/-- A table of one row. -/
def single (p : ProductId) (row : InventoryRow) : Stock :=
  Function.update (fun _ => none) p (some row)

theorem isSome_db (c : DbTurn) (op : InventoryOp) (s : Stock) (p : ProductId) :
    ((db c op s).2 p).isSome = (s p).isSome := by
  cases c with
  | reject m => rfl
  | accept =>
    cases op with
    | findUnique q => rfl
    | update q data =>
      cases hq : s q with
      | none => simp only [db, hq]
      | some row =>
        by_cases hp : p = q
        · subst hp
          simp [db, hq]
        · simp [db, hq, hp]

theorem isSome_play {α : Type} (env : Script DbTurn) (prog : InventoryM α) (s : Stock)
    (p : ProductId) : ((Prog.play db env prog s).2 p).isSome = (s p).isSome :=
  Prog.run_invariant (I := fun s' : Script DbTurn × Stock => (s'.2 p).isSome = (s p).isSome) _
    (fun op s' hs' => (isSome_db (s'.1 0) op s'.2 p).trans hs') prog rfl

theorem isSome_run {α : Type} (prog : InventoryM α) (s : Stock) (p : ProductId) :
    ((prog.run (db .accept) s).2 p).isSome = (s p).isSome := by
  rw [← Prog.play_const]
  exact isSome_play _ prog s p

def shift (s : Stock) (dq dr : ProductId → Int) : Stock := fun p =>
  (s p).map fun row =>
    { row with
      quantity := row.quantity + dq p
      reservedQuantity := row.reservedQuantity + dr p }

@[simp] theorem shift_zero (s : Stock) : s.shift 0 0 = s := by
  funext p
  cases hp : s p <;> simp [shift, hp]

@[simp] theorem shift_shift (s : Stock) (a b c d : ProductId → Int) :
    (s.shift a b).shift c d = s.shift (a + c) (b + d) := by
  funext p
  cases hp : s p <;> simp [shift, hp, add_assoc]

@[simp] theorem isSome_shift (s : Stock) (a b : ProductId → Int) (p : ProductId) :
    (s.shift a b p).isSome = (s p).isSome := by simp [shift]

theorem shift_of_some {s : Stock} {p : ProductId} {row : InventoryRow} (hrow : s p = some row)
    (a b : ProductId → Int) :
    s.shift a b p = some { row with
      quantity := row.quantity + a p
      reservedQuantity := row.reservedQuantity + b p } := by simp [shift, hrow]

theorem exists_of_shift {s : Stock} {a b : ProductId → Int} {p : ProductId} {row : InventoryRow}
    (h : s.shift a b p = some row) : ∃ row₀, s p = some row₀ ∧
      row.quantity = row₀.quantity + a p ∧ row.reservedQuantity = row₀.reservedQuantity + b p := by
  obtain ⟨row₀, h₀, rfl⟩ := Option.map_eq_some_iff.mp h
  exact ⟨row₀, h₀, rfl, rfl⟩

def onHand (s : Stock) (p : ProductId) : Int := (s p).elim 0 (·.quantity)

def reserved (s : Stock) (p : ProductId) : Int := (s p).elim 0 (·.reservedQuantity)

theorem onHand_of_some {s : Stock} {p : ProductId} {row : InventoryRow} (h : s p = some row) :
    s.onHand p = row.quantity := by simp [onHand, h]

theorem reserved_of_some {s : Stock} {p : ProductId} {row : InventoryRow} (h : s p = some row) :
    s.reserved p = row.reservedQuantity := by simp [reserved, h]

theorem onHand_shift {s : Stock} {a b : ProductId → Int} (ha : ∀ p, s p = none → a p = 0) :
    (s.shift a b).onHand = s.onHand + a := by
  funext p
  cases hp : s p <;> simp [onHand, shift, hp, ha p]

@[simp] theorem onHand_shift_zero (s : Stock) (b : ProductId → Int) :
    (s.shift 0 b).onHand = s.onHand := by
  funext p
  cases hp : s p <;> simp [onHand, shift, hp]

theorem reserved_shift {s : Stock} {a b : ProductId → Int} (hb : ∀ p, s p = none → b p = 0) :
    (s.shift a b).reserved = s.reserved + b := by
  funext p
  cases hp : s p <;> simp [reserved, shift, hp, hb p]

theorem update_eq_shift {s : Stock} {item : Item} {row row' : InventoryRow} {a b : ProductId → Int}
    (hrow : s item.productId = some row)
    (ha : ∀ p, p ≠ item.productId → a p = 0) (hb : ∀ p, p ≠ item.productId → b p = 0)
    (hrow' : row' = { row with
      quantity := row.quantity + a item.productId
      reservedQuantity := row.reservedQuantity + b item.productId }) :
    Function.update s item.productId (some row') = s.shift a b := by
  funext p
  by_cases hp : p = item.productId
  · subst hp
    rw [Function.update_self, shift_of_some hrow, hrow']
  · rw [Function.update_of_ne hp]
    cases hs : s p <;> simp [shift, hs, ha p hp, hb p hp]

/-- Every listed product has a row. -/
def Stocked (s : Stock) (items : List Item) : Prop := ∀ item ∈ items, (s item.productId).isSome

instance (s : Stock) (items : List Item) : Decidable (s.Stocked items) :=
  inferInstanceAs (Decidable (∀ item ∈ items, (s item.productId).isSome))

theorem Stocked.demand_eq_zero {s : Stock} {items : List Item} (h : s.Stocked items)
    {p : ProductId} (hp : s p = none) : demand items p = 0 :=
  demand_eq_zero_of_notMem fun item hi heq => by
    have hsome := h item hi
    rw [heq, hp] at hsome
    simp at hsome

def reached (s : Stock) (items : List Item) : List Item :=
  items.takeWhile fun item => (s item.productId).isSome

theorem Stocked.reached_eq {s : Stock} {items : List Item} (h : s.Stocked items) :
    s.reached items = items := List.takeWhile_eq_self_iff.mpr h

@[simp] theorem stocked_shift {s : Stock} {a b : ProductId → Int} {items : List Item} :
    (s.shift a b).Stocked items ↔ s.Stocked items := by simp [Stocked]

end Stock

theorem Positive.reached {items : List Item} (h : Positive items) (s : Stock) :
    Positive (s.reached items) := fun item hi => h item ((List.takeWhile_sublist _).subset hi)

/-- A repository update that adds `cq` and `cr` times its argument to the two counters. -/
def Adjusts (act : ProductId → Int → InventoryM (Option InventoryRow)) (cq cr : Int) : Prop :=
  ∀ p n, ∃ data : InventoryUpdate, act p n = InventoryRepository.update p data ∧
    ∀ row, data.apply row = { row with
      quantity := row.quantity + cq * n
      reservedQuantity := row.reservedQuantity + cr * n }

theorem adjusts_releaseStock : Adjusts InventoryRepository.releaseStock 0 (-1) := by
  intro p n
  refine ⟨_, rfl, fun row => ?_⟩
  simp [InventoryUpdate.apply, IntUpdate.apply, sub_eq_add_neg]

theorem adjusts_confirmReservation : Adjusts InventoryRepository.confirmReservation (-1) (-1) := by
  intro p n
  refine ⟨_, rfl, fun row => ?_⟩
  simp [InventoryUpdate.apply, IntUpdate.apply, sub_eq_add_neg]

theorem smul_demand_cons (c : Int) (item : Item) (items : List Item) :
    c • demand (item :: items) = c • demand [item] + c • demand items := by
  rw [demand_cons, zsmul_add]

namespace InventoryService

/-- The items a loop gets through: it stops at the first update that the database rejects
or that finds no row. -/
def served (env : Script DbTurn) (s : Stock) : List Item → List Item
  | [] => []
  | item :: items =>
    match env 0, s item.productId with
    | .accept, some _ => item :: served env.tail s items
    | _, _ => []

theorem served_congr {s s' : Stock} (h : ∀ p, (s p).isSome = (s' p).isSome) (env : Script DbTurn)
    (items : List Item) : served env s items = served env s' items := by
  induction items generalizing env with
  | nil => rfl
  | cons item items ih =>
    have hitem := h item.productId
    cases hs : s item.productId with
    | none => simp_all [served]
    | some row =>
      rw [hs] at hitem
      obtain ⟨row', hs'⟩ := Option.isSome_iff_exists.mp hitem.symm
      simp only [served, hs, hs', ih]
      cases env 0 <;> rfl

theorem served_shift (env : Script DbTurn) (s : Stock) (a b : ProductId → Int)
    (items : List Item) : served env (s.shift a b) items = served env s items :=
  served_congr (Stock.isSome_shift s a b) env items

theorem served_accept (s : Stock) (items : List Item) :
    served (fun _ => .accept) s items = s.reached items := by
  have htail : Script.tail (fun _ => DbTurn.accept) = fun _ => DbTurn.accept := rfl
  induction items with
  | nil => rfl
  | cons item items ih =>
    cases hs : s item.productId <;> simp [served, Stock.reached, hs, htail, ih]

theorem prefix_served (env : Script DbTurn) (s : Stock) (items : List Item) :
    served env s items <+: items := by
  induction items generalizing env with
  | nil => exact List.prefix_rfl
  | cons item items ih =>
    rw [served]
    split
    · exact (List.prefix_cons_inj item).mpr (ih env.tail)
    · exact List.nil_prefix

theorem served_eq_iff {env : Script DbTurn} {s : Stock} {items : List Item} (hs : s.Stocked items) :
    served env s items = items ↔ ∀ n < items.length, env n = .accept := by
  induction items generalizing env with
  | nil => simp [served]
  | cons item items ih =>
    obtain ⟨row, hrow⟩ := Option.isSome_iff_exists.mp (hs item List.mem_cons_self)
    have ih : served env.tail s items = items ↔ _ :=
      ih fun i hi => hs i (List.mem_cons_of_mem item hi)
    cases hturn : env 0 with
    | reject m =>
      simp only [served, hturn, List.nil_eq, reduceCtorEq, false_iff]
      intro hall
      rw [hall 0 (Nat.succ_pos _)] at hturn
      cases hturn
    | accept =>
      simp only [served, hturn, hrow, List.cons.injEq, true_and, ih, Script.tail_apply]
      constructor
      · rintro hall (_ | n) hn
        · exact hturn
        · exact hall n (Nat.lt_of_succ_lt_succ hn)
      · exact fun hall n hn => hall (n + 1) (Nat.succ_lt_succ hn)

section ForEach

variable {act : ProductId → Int → InventoryM (Option InventoryRow)} {cq cr : Int}

theorem forEach_cons (item : Item) (items : List Item) :
    forEach act (item :: items) = (act item.productId item.quantity).bind fun _ =>
      forEach act items := rfl

theorem update_eq_shift_demand {s : Stock} {item : Item} {row : InventoryRow}
    {data : InventoryUpdate} (hrow : s item.productId = some row)
    (happly : ∀ row, data.apply row = { row with
      quantity := row.quantity + cq * item.quantity
      reservedQuantity := row.reservedQuantity + cr * item.quantity }) :
    Function.update s item.productId (some (data.apply row)) =
      s.shift (cq • demand [item]) (cr • demand [item]) := by
  apply Stock.update_eq_shift hrow
  · intro p hp
    simp [demand_singleton_of_ne hp]
  · intro p hp
    simp [demand_singleton_of_ne hp]
  · simp [happly]

theorem play_forEach_cons (hact : Adjusts act cq cr) (env : Script DbTurn) (s : Stock)
    (item : Item) (items : List Item) :
    Prog.play Stock.db env (forEach act (item :: items)) s =
      match env 0, s item.productId with
      | .accept, some _ => Prog.play Stock.db env.tail (forEach act items)
          (s.shift (cq • demand [item]) (cr • demand [item]))
      | .accept, none => (.error recordNotFound, s)
      | .reject m, _ => (.error (.plain m), s) := by
  obtain ⟨data, hdata, happly⟩ := hact item.productId item.quantity
  rw [forEach_cons, hdata]
  change Prog.play Stock.db env (.await (.update item.productId data) _) s = _
  rw [Prog.play_await]
  cases hturn : env 0 with
  | reject m => rfl
  | accept =>
    cases hrow : s item.productId with
    | none =>
      simp only [Stock.db, hrow]
      rfl
    | some row =>
      simp only [Stock.db, hrow, update_eq_shift_demand hrow happly]
      rfl

theorem play_forEach_state (hact : Adjusts act cq cr) (env : Script DbTurn) (s : Stock)
    (items : List Item) :
    (Prog.play Stock.db env (forEach act items) s).2 =
      s.shift (cq • demand (served env s items)) (cr • demand (served env s items)) := by
  induction items generalizing env s with
  | nil =>
    change s = _
    simp [served]
  | cons item items ih =>
    rw [play_forEach_cons hact]
    cases hturn : env 0 with
    | reject m => simp [served, hturn]
    | accept =>
      cases hrow : s item.productId with
      | none => simp [served, hturn, hrow]
      | some row =>
        simp only [served, hturn, hrow]
        rw [ih, served_shift, Stock.shift_shift, smul_demand_cons cq item (served env.tail s items),
          smul_demand_cons cr item (served env.tail s items)]

theorem play_forEach_ok (hact : Adjusts act cq cr) (env : Script DbTurn) (s : Stock)
    (items : List Item) :
    (Prog.play Stock.db env (forEach act items) s).1 = .ok () ↔ served env s items = items := by
  induction items generalizing env s with
  | nil => exact ⟨fun _ => rfl, fun _ => rfl⟩
  | cons item items ih =>
    rw [play_forEach_cons hact]
    cases hturn : env 0 with
    | reject m => simp [served, hturn]
    | accept =>
      cases hrow : s item.productId with
      | none => simp [served, hturn, hrow]
      | some row => simp only [served, hturn, hrow, ih, served_shift, List.cons.injEq, true_and]

theorem run_forEach_state (hact : Adjusts act cq cr) (s : Stock) (items : List Item) :
    ((forEach act items).run (Stock.db .accept) s).2 =
      s.shift (cq • demand (s.reached items)) (cr • demand (s.reached items)) := by
  rw [← Prog.play_const, play_forEach_state hact, served_accept]

theorem run_forEach (hact : Adjusts act cq cr) {s : Stock} {items : List Item}
    (hs : s.Stocked items) :
    (forEach act items).run (Stock.db .accept) s =
      (.ok (), s.shift (cq • demand items) (cr • demand items)) := by
  have hstate := run_forEach_state hact s items
  have hserved := (served_accept s items).trans hs.reached_eq
  have hok := (play_forEach_ok hact (fun _ => .accept) s items).mpr hserved
  rw [Prog.play_const] at hok
  rw [hs.reached_eq] at hstate
  exact Prod.ext hok hstate

end ForEach

def refuses (s : Stock) (item : Item) : Bool :=
  match s item.productId with
  | none => true
  | some row => decide (row.availableStock < item.quantity)

theorem refuses_eq_false_iff {s : Stock} {item : Item} : refuses s item = false ↔
    ∃ row, s item.productId = some row ∧ item.quantity ≤ row.availableStock := by
  cases hrow : s item.productId <;> simp [refuses, hrow]

theorem isSome_of_not_refuses {s : Stock} {item : Item} (h : refuses s item = false) :
    (s item.productId).isSome := by
  obtain ⟨row, hrow, -⟩ := refuses_eq_false_iff.mp h
  rw [hrow]
  rfl

/-- Whether the greedy pass over the items finds enough stock each time. -/
def grants (s : Stock) : List Item → Bool
  | [] => true
  | item :: items => !refuses s item && grants (s.shift 0 (demand [item])) items

theorem stocked_of_grants {s : Stock} {items : List Item} (h : grants s items) :
    s.Stocked items := by
  induction items generalizing s with
  | nil => simp [Stock.Stocked]
  | cons item items ih =>
    rw [grants, Bool.and_eq_true, Bool.not_eq_true'] at h
    intro i hi
    rcases List.mem_cons.mp hi with rfl | hi
    · exact isSome_of_not_refuses h.1
    · exact Stock.stocked_shift.mp (ih h.2) i hi

inductive PassEnd
  | granted
  | refused (productId : ProductId)
  | failed (error : Error)

/-- The items that a pass took out, how it ended, and what the database does with the statements
that come after it. -/
structure Pass where
  taken : List Item
  ending : PassEnd
  rest : Script DbTurn

def Pass.after (results : List Item) (pass : Pass) : Pass :=
  { pass with taken := results ++ pass.taken }

@[simp] theorem Pass.after_nil (p : Pass) : p.after [] = p := rfl

/-- Each item costs a read and, unless it is refused, an increment. -/
def pass (env : Script DbTurn) (s : Stock) : List Item → Pass
  | [] => ⟨[], .granted, env⟩
  | item :: items =>
    match env 0 with
    | .reject m => ⟨[], .failed (.plain m), env.tail⟩
    | .accept =>
      if refuses s item then ⟨[], .refused item.productId, env.tail⟩
      else
        match env 1 with
        | .reject m => ⟨[], .failed (.plain m), env.tail.tail⟩
        | .accept => (pass env.tail.tail (s.shift 0 (demand [item])) items).after [item]

def Pass.kept (s : Stock) (p : Pass) : ProductId → Int :=
  match p.ending with
  | .refused _ => demand p.taken - demand (served p.rest s p.taken)
  | _ => demand p.taken

def Pass.settlement (s : Stock) (p : Pass) : Except Error InventoryResponse :=
  match p.ending with
  | .granted => .ok { success := true, reservations := some p.taken }
  | .refused productId =>
    (Prog.play Stock.db p.rest (forEach InventoryRepository.releaseStock p.taken)
      (s.shift 0 (demand p.taken))).1.map fun _ =>
        { success := false, message := some (insufficientStock productId) }
  | .failed e => .error e

section Pass

variable (env : Script DbTurn)

theorem play_reserveLoop_cons (s : Stock) (results : List Item) (item : Item)
    (items : List Item) :
    Prog.play Stock.db env (reserveLoop results (item :: items)) s =
      match env 0 with
      | .reject m => (.error (.plain m), s)
      | .accept =>
        if refuses s item then
          Prog.play Stock.db env.tail (do
            forEach InventoryRepository.releaseStock results
            pure { success := false, message := some (insufficientStock item.productId) }) s
        else
          match env 1 with
          | .reject m => (.error (.plain m), s)
          | .accept => Prog.play Stock.db env.tail.tail (reserveLoop (results ++ [item]) items)
              (s.shift 0 (demand [item])) := by
  change Prog.play Stock.db env (.await (.findUnique item.productId) _) s = _
  rw [Prog.play_await]
  cases hread : env 0 with
  | reject m => rfl
  | accept =>
    cases hrow : s item.productId with
    | none =>
      simp only [Stock.db, hrow, refuses]
      rfl
    | some row =>
      by_cases hlt : row.availableStock < item.quantity
      · simp only [Stock.db, hrow, refuses, hlt, decide_true, if_true, bind, Prog.bind, Prog.settle]
        rfl
      · simp only [Stock.db, hrow, refuses, hlt, decide_false, if_false, bind, Prog.bind,
          Prog.settle, InventoryRepository.update, Bool.false_eq_true]
        rw [Prog.play_await, Script.tail_apply]
        cases hwrite : env 1 with
        | reject m => rfl
        | accept =>
          have hshift := Stock.update_eq_shift (a := 0) (b := demand [item]) hrow (fun _ _ => rfl)
            (fun p hp => demand_singleton_of_ne hp) rfl
          rw [← hshift]
          simp only [Stock.db, hrow]
          simp [InventoryUpdate.apply, IntUpdate.apply, Except.map, Prog.bind]

theorem play_reserveLoop {s : Stock} (results items : List Item) :
    Prog.play Stock.db env (reserveLoop results items) (s.shift 0 (demand results)) =
      (((pass env (s.shift 0 (demand results)) items).after results).settlement s,
        s.shift 0 (((pass env (s.shift 0 (demand results)) items).after results).kept s)) := by
  induction items generalizing env results with
  | nil => simp [reserveLoop, pass, Pass.after, Pass.settlement, Pass.kept, Prog.play]
  | cons item items ih =>
    rw [play_reserveLoop_cons, pass]
    cases env 0 with
    | reject m => simp [Pass.after, Pass.settlement, Pass.kept]
    | accept =>
      by_cases hrefused : refuses (s.shift 0 (demand results)) item
      · simp only [hrefused, if_true, Prog.play_map, Pass.after, Pass.settlement, Pass.kept,
          List.append_nil, play_forEach_state adjusts_releaseStock, served_shift, Stock.shift_shift]
        simp [sub_eq_add_neg]
      · simp only [hrefused, if_false, Bool.false_eq_true]
        cases env 1 with
        | reject m => simp [Pass.after, Pass.settlement, Pass.kept]
        | accept =>
          have hnext := ih env.tail.tail (results ++ [item])
          simp only [Stock.shift_shift, add_zero, ← demand_append]
          rw [hnext]
          simp [Pass.after]

theorem stocked_taken (s : Stock) (items : List Item) : s.Stocked (pass env s items).taken := by
  induction items generalizing env s with
  | nil => simp [pass, Stock.Stocked]
  | cons item items ih =>
    rw [pass]
    cases env 0 with
    | reject m => simp [Stock.Stocked]
    | accept =>
      cases hrefused : refuses s item with
      | true => simp [Stock.Stocked]
      | false =>
        cases env 1 with
        | reject m => simp [Stock.Stocked]
        | accept =>
          intro i hi
          rcases List.mem_cons.mp hi with rfl | hi
          · exact isSome_of_not_refuses hrefused
          · exact Stock.stocked_shift.mp (ih env.tail.tail (s.shift 0 (demand [item]))) i hi

theorem prefix_taken (s : Stock) (items : List Item) : (pass env s items).taken <+: items := by
  induction items generalizing env s with
  | nil => exact List.prefix_rfl
  | cons item items ih =>
    rw [pass]
    cases env 0 with
    | reject m => exact List.nil_prefix
    | accept =>
      cases refuses s item with
      | true => exact List.nil_prefix
      | false =>
        cases env 1 with
        | reject m => exact List.nil_prefix
        | accept => exact (List.prefix_cons_inj item).mpr (ih env.tail.tail _)

end Pass

/-- A pass that leaves nothing taken out: it took nothing, or it was refused and the database
accepts the decrement of each item that it had taken. -/
def Pass.Undone (p : Pass) : Prop :=
  p.taken = [] ∨ (∃ productId, p.ending = .refused productId) ∧
    ∀ n < p.taken.length, p.rest n = .accept

/-- What a pass leaves taken out are the last of the items that it took. -/
theorem Pass.exists_left {s : Stock} {p : Pass} (hs : s.Stocked p.taken) :
    ∃ left, left <:+ p.taken ∧ p.kept s = demand left ∧ (left = [] ↔ p.Undone) := by
  cases hending : p.ending with
  | granted => exact ⟨p.taken, List.suffix_rfl, by simp [kept, hending], by simp [Undone, hending]⟩
  | failed e => exact ⟨p.taken, List.suffix_rfl, by simp [kept, hending], by simp [Undone, hending]⟩
  | refused productId =>
    obtain ⟨left, hleft⟩ := prefix_served p.rest s p.taken
    have hnil : left = [] ↔ served p.rest s p.taken = p.taken := by
      have h : served p.rest s p.taken ++ left = served p.rest s p.taken ↔ left = [] :=
        List.append_right_eq_self
      rw [← h, hleft, eq_comm]
    have hdemand : demand p.taken = demand (served p.rest s p.taken) + demand left := by
      rw [← demand_append, hleft]
    refine ⟨left, ⟨_, hleft⟩, ?_, ?_⟩
    · simp only [kept, hending]
      rw [sub_eq_iff_eq_add', ← hdemand]
    · rw [hnil, served_eq_iff hs]
      constructor
      · exact fun haccept => .inr ⟨⟨productId, hending⟩, haccept⟩
      · rintro (hnone | ⟨-, haccept⟩)
        · simp [hnone]
        · exact haccept

theorem pass_accept (s : Stock) (items : List Item) :
    ∃ taken ending, pass (fun _ => .accept) s items = ⟨taken, ending, fun _ => .accept⟩ ∧
      (grants s items = true ∧ ending = .granted ∧ taken = items ∨
        grants s items = false ∧ ∃ p, ending = .refused p) := by
  have htail : Script.tail (fun _ => DbTurn.accept) = fun _ => DbTurn.accept := rfl
  induction items generalizing s with
  | nil => exact ⟨[], .granted, rfl, .inl ⟨rfl, rfl, rfl⟩⟩
  | cons item items ih =>
    cases hrefused : refuses s item with
    | true =>
      refine ⟨[], .refused item.productId, ?_, ?_⟩
      · simp [pass, hrefused, htail]
      · simp [grants, hrefused]
    | false =>
      obtain ⟨taken, ending, hpass, hending⟩ := ih (s.shift 0 (demand [item]))
      refine ⟨item :: taken, ending, by simp [pass, hrefused, htail, hpass, Pass.after], ?_⟩
      simpa [grants, hrefused] using hending

theorem play_reserveStock (env : Script DbTurn) (s : Stock) (items : List Item) :
    Prog.play Stock.db env (reserveStock items) s =
      ((pass env s items).settlement s, s.shift 0 ((pass env s items).kept s)) := by
  rw [reserveStock]
  simpa using play_reserveLoop env (s := s) [] items

/-- A reservation run alone takes out all of its items or nothing. -/
theorem run_reserveStock (s : Stock) (items : List Item) :
    ∃ r : InventoryResponse,
      (reserveStock items).run (Stock.db .accept) s =
        (.ok r, if r.success then s.shift 0 (demand items) else s) ∧
      r.success = grants s items ∧ (r.success → r.reservations = some items) := by
  have hstocked := stocked_taken (fun _ => .accept) s items
  obtain ⟨taken, ending, hpass, ⟨hgrants, rfl, rfl⟩ | ⟨hgrants, p, rfl⟩⟩ := pass_accept s items
  · refine ⟨{ success := true, reservations := some taken }, ?_, hgrants.symm, fun _ => rfl⟩
    rw [← Prog.play_const, play_reserveStock, hpass]
    simp [Pass.settlement, Pass.kept]
  · rw [hpass] at hstocked
    refine ⟨{ success := false, message := some (insufficientStock p) }, ?_, hgrants.symm, by simp⟩
    rw [← Prog.play_const, play_reserveStock, hpass]
    simp only [Pass.settlement, Pass.kept, Prog.play_const,
      run_forEach adjusts_releaseStock (Stock.stocked_shift.mpr hstocked), served_accept,
      hstocked.reached_eq, sub_self, Stock.shift_zero, Except.map]
    simp

theorem run_releaseStock_state (s : Stock) (items : List Item) :
    ((releaseStock items).run (Stock.db .accept) s).2 = s.shift 0 (-demand (s.reached items)) := by
  rw [releaseStock, Prog.run_bind_state _ _ (fun _ _ => rfl),
    run_forEach_state adjusts_releaseStock]
  simp

theorem run_confirmReservation_state (s : Stock) (items : List Item) :
    ((confirmReservation items).run (Stock.db .accept) s).2 =
      s.shift (-demand (s.reached items)) (-demand (s.reached items)) := by
  rw [confirmReservation, Prog.run_bind_state _ _ (fun _ _ => rfl),
    run_forEach_state adjusts_confirmReservation]
  simp

theorem run_releaseStock {s : Stock} {items : List Item} (hs : s.Stocked items) :
    (releaseStock items).run (Stock.db .accept) s =
      (.ok { success := true }, s.shift 0 (-demand items)) := by
  rw [releaseStock, Prog.run_bind_ok _ (run_forEach adjusts_releaseStock hs)]
  simp

theorem run_confirmReservation {s : Stock} {items : List Item} (hs : s.Stocked items) :
    (confirmReservation items).run (Stock.db .accept) s =
      (.ok { success := true }, s.shift (-demand items) (-demand items)) := by
  rw [confirmReservation, Prog.run_bind_ok _ (run_forEach adjusts_confirmReservation hs)]
  simp

def Reservable (s : Stock) (items : List Item) : Prop :=
  ∀ item ∈ items, ∃ row, s item.productId = some row ∧
    demand items item.productId ≤ row.availableStock

/-- For positive quantities the greedy pass amounts to a condition on totals. -/
theorem grants_iff {s : Stock} {items : List Item} (hpos : Positive items) :
    grants s items ↔ Reservable s items := by
  induction items generalizing s with
  | nil => simp [grants, Reservable]
  | cons item items ih =>
    rw [grants, Bool.and_eq_true, Bool.not_eq_true', refuses_eq_false_iff, ih hpos.tail]
    constructor
    · rintro ⟨⟨row, hrow, hhead⟩, htail⟩
      have hmem : ∀ i ∈ items, ∃ row, s i.productId = some row ∧
          demand (item :: items) i.productId ≤ row.availableStock := by
        intro i hi
        obtain ⟨row', hrow', hle⟩ := htail i hi
        obtain ⟨row₀, hrow₀, hq, hr⟩ := Stock.exists_of_shift hrow'
        refine ⟨row₀, hrow₀, ?_⟩
        rw [demand_cons]
        simp only [InventoryRow.availableStock, Pi.add_apply, Pi.zero_apply] at hle hq ⊢
        omega
      intro i hi
      rcases List.mem_cons.mp hi with rfl | hi
      · by_cases hagain : ∃ j ∈ items, j.productId = i.productId
        · obtain ⟨j, hj, heq⟩ := hagain
          exact heq ▸ hmem j hj
        · have hzero : demand items i.productId = 0 :=
            demand_eq_zero_of_notMem fun j hj heq => hagain ⟨j, hj, heq⟩
          refine ⟨row, hrow, ?_⟩
          rw [demand_cons, Pi.add_apply, hzero, demand_singleton_self]
          omega
      · exact hmem i hi
    · intro h
      obtain ⟨row, hrow, hle⟩ := h item List.mem_cons_self
      have hnonneg := hpos.tail.demand_nonneg item.productId
      rw [demand_cons, Pi.add_apply, demand_singleton_self] at hle
      refine ⟨⟨row, hrow, by omega⟩, fun i hi => ?_⟩
      obtain ⟨row', hrow', hle'⟩ := h i (List.mem_cons_of_mem item hi)
      refine ⟨_, Stock.shift_of_some hrow' _ _, ?_⟩
      rw [demand_cons] at hle'
      simp only [InventoryRow.availableStock, Pi.add_apply, Pi.zero_apply] at hle' ⊢
      omega

end InventoryService

end Ecommerce
