import Ecommerce.Inventory.Effect
import Ecommerce.Lib.Holds
import Ecommerce.Lib.Runs
import Mathlib.Data.List.InsertIdx
import Mathlib.Logic.Relation

namespace Ecommerce

open InventoryService

/-- A client call; `release` and `confirm` name an open reservation. -/
inductive ClientCall
  | reserve (items : List Item)
  | release (i : Nat)
  | confirm (i : Nat)

/-- The table, the item lists of the open reservations and those of the confirmed ones. -/
structure ClientState where
  stock : Stock
  opened : List (List Item) := []
  confirmed : List (List Item) := []

namespace ClientState

def reserve (st : ClientState) (items : List Item) : ClientState :=
  let r := (reserveStock items).run (Stock.db .accept) st.stock
  { st with
    stock := r.2
    opened := match r.1 with
      | .ok { success := true, .. } => items :: st.opened
      | _ => st.opened }

def release (st : ClientState) (i : Nat) : ClientState :=
  match st.opened[i]? with
  | none => st
  | some items => { st with
      stock := ((releaseStock items).run (Stock.db .accept) st.stock).2
      opened := st.opened.eraseIdx i }

def confirm (st : ClientState) (i : Nat) : ClientState :=
  match st.opened[i]? with
  | none => st
  | some items =>
    { stock := ((confirmReservation items).run (Stock.db .accept) st.stock).2
      opened := st.opened.eraseIdx i
      confirmed := items :: st.confirmed }

def call (st : ClientState) : ClientCall → ClientState
  | .reserve items => st.reserve items
  | .release i => st.release i
  | .confirm i => st.confirm i

def openDemand (st : ClientState) (p : ProductId) : Int := (st.opened.map demand).sum p

def confirmedDemand (st : ClientState) (p : ProductId) : Int := (st.confirmed.map demand).sum p

structure Represents (st : ClientState) (b : Holds ProductId) : Prop where
  onHand : st.stock.onHand = b.onHand
  reserved : st.stock.reserved = b.held
  holds : b.holds = st.opened.map demand
  taken : b.taken = st.confirmed.map demand
  stocked : ∀ items ∈ st.opened, st.stock.Stocked items

section Refinement

variable {st : ClientState} {b : Holds ProductId}

theorem Represents.getElem? (h : st.Represents b) {i : Nat} {items : List Item}
    (hi : st.opened[i]? = some items) : b.holds[i]? = some (demand items) := by
  rw [h.holds, List.getElem?_map, hi]
  rfl

theorem Represents.stocked_of_getElem? (h : st.Represents b) {i : Nat} {items : List Item}
    (hi : st.opened[i]? = some items) : st.stock.Stocked items :=
  h.stocked items (List.mem_of_getElem? hi)

theorem fits_of_grants {s : Stock} {items : List Item} (hpos : Positive items)
    (h : grants s items) (hs : s.reserved ≤ s.onHand) :
    s.Stocked items ∧ demand items + s.reserved ≤ s.onHand := by
  have hreservable := (grants_iff hpos).mp h
  refine ⟨fun item hi => ?_, fun p => ?_⟩
  · obtain ⟨row, hrow, -⟩ := hreservable item hi
    rw [hrow]
    rfl
  · by_cases hp : ∃ item ∈ items, item.productId = p
    · obtain ⟨item, hi, rfl⟩ := hp
      obtain ⟨row, hrow, hle⟩ := hreservable item hi
      rw [Pi.add_apply, Stock.reserved_of_some hrow, Stock.onHand_of_some hrow]
      exact le_sub_iff_add_le.mp hle
    · have hzero : demand items p = 0 :=
        demand_eq_zero_of_notMem fun item hi heq => hp ⟨item, hi, heq⟩
      rw [Pi.add_apply, hzero, zero_add]
      exact hs p

theorem refines_reserve (h : st.Represents b) (hb : b.Sound) {items : List Item}
    (hpos : Positive items) :
    ∃ b', Relation.ReflGen Holds.Step b b' ∧ (st.reserve items).Represents b' := by
  obtain ⟨r, hrun, hgrants, -⟩ := run_reserveStock st.stock items
  obtain ⟨success, message, reservations⟩ := r
  cases success with
  | false =>
    refine ⟨b, .refl, ?_⟩
    simpa [reserve, hrun] using h
  | true =>
    have hcovered : st.stock.reserved ≤ st.stock.onHand := by
      rw [h.reserved, h.onHand]
      exact hb.covered
    obtain ⟨hstocked, hfits⟩ := fits_of_grants hpos hgrants.symm hcovered
    rw [h.reserved, h.onHand] at hfits
    refine ⟨b.place (demand items), .single (.place (fun p => hpos.demand_nonneg p) hfits), ?_⟩
    have hzero : ∀ p, st.stock p = none → demand items p = 0 :=
      fun p hp => hstocked.demand_eq_zero hp
    simp only [reserve, hrun, if_true]
    constructor
    · exact (Stock.onHand_shift_zero _ _).trans h.onHand
    · rw [Stock.reserved_shift hzero, Holds.held_place, h.reserved, add_comm]
    · simp [Holds.place, h.holds]
    · exact h.taken
    · intro items' hi
      rw [Stock.stocked_shift]
      rcases List.mem_cons.mp hi with rfl | hi
      · exact hstocked
      · exact h.stocked items' hi

theorem refines_release (h : st.Represents b) (i : Nat) :
    ∃ b', Relation.ReflGen Holds.Step b b' ∧ (st.release i).Represents b' := by
  cases hi : st.opened[i]? with
  | none =>
    refine ⟨b, .refl, ?_⟩
    simpa only [release, hi] using h
  | some items =>
    have hstocked := h.stocked_of_getElem? hi
    have hzero : ∀ p, st.stock p = none → (-demand items) p = 0 := fun p hp => by
      simp [hstocked.demand_eq_zero hp]
    refine ⟨b.giveBack i, .single (.giveBack (h.getElem? hi)), ?_⟩
    simp only [release, hi, run_releaseStock hstocked]
    constructor
    · exact (Stock.onHand_shift_zero _ _).trans h.onHand
    · rw [Stock.reserved_shift hzero, Holds.held_giveBack (h.getElem? hi), h.reserved,
        sub_eq_add_neg]
    · simp [Holds.giveBack, h.holds, List.eraseIdx_map]
    · exact h.taken
    · intro items' hi'
      rw [Stock.stocked_shift]
      exact h.stocked items' (List.mem_of_mem_eraseIdx hi')

theorem refines_confirm (h : st.Represents b) (i : Nat) :
    ∃ b', Relation.ReflGen Holds.Step b b' ∧ (st.confirm i).Represents b' := by
  cases hi : st.opened[i]? with
  | none =>
    refine ⟨b, .refl, ?_⟩
    simpa only [confirm, hi] using h
  | some items =>
    have hstocked := h.stocked_of_getElem? hi
    have hzero : ∀ p, st.stock p = none → (-demand items) p = 0 := fun p hp => by
      simp [hstocked.demand_eq_zero hp]
    refine ⟨b.take i (demand items), .single (.take (h.getElem? hi)), ?_⟩
    simp only [confirm, hi, run_confirmReservation hstocked]
    constructor
    · rw [Stock.onHand_shift hzero, h.onHand, ← sub_eq_add_neg]
      rfl
    · rw [Stock.reserved_shift hzero, Holds.held_take (h.getElem? hi), h.reserved, sub_eq_add_neg]
    · simp [Holds.take, h.holds, List.eraseIdx_map]
    · simp [Holds.take, h.taken]
    · intro items' hi'
      rw [Stock.stocked_shift]
      exact h.stocked items' (List.mem_of_mem_eraseIdx hi')

/-- Every client call is a step of the books or leaves them alone. -/
theorem refines_call (h : st.Represents b) (hb : b.Sound) {c : ClientCall}
    (hpos : ∀ items, c = .reserve items → Positive items) :
    ∃ b', Relation.ReflGen Holds.Step b b' ∧ (st.call c).Represents b' := by
  cases c with
  | reserve items => exact refines_reserve h hb (hpos items rfl)
  | release i => exact refines_release h i
  | confirm i => exact refines_confirm h i

end Refinement

theorem isSome_call (st : ClientState) (c : ClientCall) (p : ProductId) :
    ((st.call c).stock p).isSome = (st.stock p).isSome := by
  cases c with
  | reserve items => exact Stock.isSome_run _ _ p
  | release i =>
    simp only [call, release]
    cases st.opened[i]? with
    | none => rfl
    | some items => exact Stock.isSome_run _ _ p
  | confirm i =>
    simp only [call, confirm]
    cases st.opened[i]? with
    | none => rfl
    | some items => exact Stock.isSome_run _ _ p

structure Kept (s₀ : Stock) (st : ClientState) (b : Holds ProductId) : Prop where
  represents : st.Represents b
  sound : b.Sound
  accounted : b.onHand + b.taken.sum = s₀.onHand
  isSome_eq : ∀ p, (st.stock p).isSome = (s₀ p).isSome

end ClientState

def ClientCall.Positive : ClientCall → Prop
  | .reserve items => Ecommerce.Positive items
  | _ => True

/-- The books of every product, read off the table: what is reserved is what is open, what is
gone is what was confirmed, and the two counters are in bounds. -/
def ExactBooks (s₀ : Stock) (st : ClientState) : Prop :=
  ∀ p, match s₀ p with
    | none => st.stock p = none ∧ st.openDemand p = 0
    | some row₀ => ∃ row, st.stock p = some row ∧
        row.reservedQuantity = st.openDemand p ∧
        row.quantity = row₀.quantity - st.confirmedDemand p ∧
        0 ≤ row.reservedQuantity ∧ row.reservedQuantity ≤ row.quantity

namespace ClientState

theorem Kept.exactBooks {s₀ : Stock} {st : ClientState} {b : Holds ProductId}
    (h : st.Kept s₀ b) : ExactBooks s₀ st := by
  intro p
  have hopen : st.stock.reserved p = st.openDemand p := by
    rw [h.represents.reserved, Holds.held, h.represents.holds]
    rfl
  have hgone : st.stock.onHand p + st.confirmedDemand p = s₀.onHand p := by
    rw [← h.accounted, h.represents.onHand, h.represents.taken]
    rfl
  have hlow : 0 ≤ st.stock.reserved p := h.represents.reserved ▸ h.sound.held_nonneg p
  have hhigh : st.stock.reserved p ≤ st.stock.onHand p := by
    rw [h.represents.reserved, h.represents.onHand]
    exact h.sound.covered p
  have hsome := h.isSome_eq p
  cases hs₀ : s₀ p with
  | none =>
    have hnone : st.stock p = none := by simpa [hs₀] using hsome
    exact ⟨hnone, by rw [← hopen]; simp [Stock.reserved, hnone]⟩
  | some row₀ =>
    obtain ⟨row, hrow⟩ := Option.isSome_iff_exists.mp (hsome.trans (by simp [hs₀]))
    rw [Stock.reserved_of_some hrow] at hopen hlow hhigh
    rw [Stock.onHand_of_some hrow] at hgone hhigh
    rw [Stock.onHand_of_some hs₀] at hgone
    exact ⟨row, hrow, hopen, by omega, hlow, hhigh⟩

theorem Kept.call {s₀ : Stock} {st : ClientState} {b : Holds ProductId} (h : st.Kept s₀ b)
    {c : ClientCall} (hc : c.Positive) : ∃ b', (st.call c).Kept s₀ b' := by
  obtain ⟨b', hstep, hrep⟩ := refines_call h.represents h.sound (c := c) fun items hitems => by
    subst hitems
    exact hc
  refine ⟨b', hrep, ?_, ?_, fun p => (isSome_call st c p).trans (h.isSome_eq p)⟩
  · cases hstep with
    | refl => exact h.sound
    | single hstep => exact hstep.sound h.sound
  · cases hstep with
    | refl => exact h.accounted
    | single hstep => exact hstep.onHand_add_taken.trans h.accounted

/-- Nothing is reserved and nothing is short. -/
def Fresh (s₀ : Stock) : Prop :=
  ∀ p row, s₀ p = some row → row.reservedQuantity = 0 ∧ 0 ≤ row.quantity

theorem kept_start {s₀ : Stock} (hs₀ : Fresh s₀) :
    (ClientState.mk s₀ [] []).Kept s₀ ⟨s₀.onHand, [], []⟩ where
  represents := by
    refine ⟨rfl, ?_, rfl, rfl, fun _ h => by simp at h⟩
    funext p
    cases hp : s₀ p with
    | none => simp [Stock.reserved, hp, Holds.held]
    | some row => simpa [Stock.reserved, hp, Holds.held] using (hs₀ p row hp).1
  sound := by
    refine ⟨fun _ h => by simp at h, fun p => ?_⟩
    cases hp : s₀ p with
    | none => simp [Stock.onHand, hp, Holds.held]
    | some row => simpa [Stock.onHand, hp, Holds.held] using (hs₀ p row hp).2
  accounted := by simp
  isSome_eq := fun _ => rfl

end ClientState

/-- Exact books after every call of every sequence of client calls. -/
theorem exactBooks_always {s₀ : Stock} (hs₀ : ClientState.Fresh s₀) {calls : List ClientCall}
    (hpos : ∀ c ∈ calls, c.Positive) :
    Runs.Always ClientState.call (ExactBooks s₀) ⟨s₀, [], []⟩ calls := by
  have hkept : Runs.Always ClientState.call (fun st => ∃ b, st.Kept s₀ b) ⟨s₀, [], []⟩ calls := by
    refine Runs.Always.of_along ?_ ⟨_, ClientState.kept_start hs₀⟩ (Runs.along_of_forall hpos)
    rintro st c ⟨b, hb⟩ hc
    exact hb.call hc
  exact hkept.mono fun st ⟨b, hb⟩ => hb.exactBooks

theorem exactBooks_always_single :
    Runs.Always ClientState.call (ExactBooks (.single "a" ⟨5, 0, 10⟩))
      ⟨.single "a" ⟨5, 0, 10⟩, [], []⟩
      [.reserve [⟨"a", 2⟩, ⟨"a", 1⟩], .reserve [⟨"a", 3⟩], .reserve [⟨"a", 2⟩], .confirm 1,
        .release 0] := by
  apply exactBooks_always
  · intro p row h
    by_cases hp : p = "a"
    · subst hp
      obtain rfl : ⟨5, 0, 10⟩ = row := by simpa [Stock.single] using h
      decide
    · simp [Stock.single, hp] at h
  · simp [ClientCall.Positive, Positive]

end Ecommerce
