import Ecommerce.Inventory.Repository
import Ecommerce.Lib.Calendar
import Ecommerce.Lib.Table

namespace Ecommerce

structure ErrorRow where
  id : String
  createdAt : Int
  deriving DecidableEq

abbrev ErrorTable := Table ErrorRow.id

structure CleanupResult where
  success : Bool
  deletedCount : Nat
  cutoffDate : Int

namespace ErrorCleanupWorker

-- How far the server's clock is ahead of UTC.
variable (zone : Int)

def threeMonthsAgo (now : Int) : Int := Ecma.setMonth zone now (Ecma.getMonth zone now - 3)

/-- The job. -/
def run (now : Int) (turn : DbTurn) (errors : ErrorTable) :
    Except Error CleanupResult × ErrorTable :=
  match turn with
  | .accept =>
    (.ok
      { success := true
        deletedCount := errors.rows.countP (·.createdAt < threeMonthsAgo zone now)
        cutoffDate := threeMonthsAgo zone now },
      errors.filter fun row => ¬ row.createdAt < threeMonthsAgo zone now)
  | .reject m => (.error (.plain m), errors)

/-- Three calendar months before; a day that the month does not have becomes its last. -/
def threeMonthsBefore (now : Int) : Int :=
  Ecma.utc zone (Ecma.calendar.backClampedAt Ecma.msPerDay 3 (Ecma.localTime zone now))

/-- A job that starts at `now` deletes rows that are more than three months old only, and later jobs
have no earlier cut-off. -/
structure Spares (now : Int) : Prop where
  old : ∀ turn errors, ∀ row ∈ errors.rows, row ∉ (run zone now turn errors).2.rows →
    row.createdAt < threeMonthsBefore zone now
  monotone : ∀ now', now ≤ now' → threeMonthsAgo zone now ≤ threeMonthsAgo zone now'

variable {zone} {now : Int}

theorem not_mem_run_iff {errors : ErrorTable} {row : ErrorRow} (hrow : row ∈ errors.rows) :
    row ∉ (run zone now .accept errors).2.rows ↔ row.createdAt < threeMonthsAgo zone now := by
  simp [run, Table.filter, hrow]

theorem old_iff :
    (∀ turn errors, ∀ row ∈ errors.rows, row ∉ (run zone now turn errors).2.rows →
      row.createdAt < threeMonthsBefore zone now) ↔
      threeMonthsAgo zone now ≤ threeMonthsBefore zone now := by
  constructor
  · intro hold
    by_contra hlt
    let row : ErrorRow := ⟨"", threeMonthsBefore zone now⟩
    let errors : ErrorTable := ⟨[row], List.nodup_singleton _⟩
    have hrow : row ∈ errors.rows := List.mem_singleton_self row
    exact lt_irrefl _ (hold .accept errors row hrow ((not_mem_run_iff hrow).mpr (not_le.mp hlt)))
  · intro hle turn errors row hrow hdeleted
    cases turn with
    | accept => exact ((not_mem_run_iff hrow).mp hdeleted).trans_le hle
    | reject m => exact absurd hrow hdeleted

theorem threeMonthsAgo_eq (now : Int) : threeMonthsAgo zone now =
    Ecma.utc zone (Ecma.calendar.backAt Ecma.msPerDay 3 (Ecma.localTime zone now)) :=
  Ecma.setMonth_getMonth_sub zone now 3

end ErrorCleanupWorker

open ErrorCleanupWorker in
/-- The clean-up keeps what is younger than three months exactly when the month three months before
has the day. -/
theorem spares_iff (zone now : Int) :
    Spares zone now ↔ Ecma.calendar.HasDay 3 (Ecma.localTime zone now / Ecma.msPerDay) := by
  have hday : (0 : Int) < Ecma.msPerDay := by decide
  have hold : threeMonthsAgo zone now ≤ threeMonthsBefore zone now ↔
      Ecma.calendar.HasDay 3 (Ecma.localTime zone now / Ecma.msPerDay) := by
    rw [threeMonthsAgo_eq, threeMonthsBefore, Ecma.utc, Ecma.utc, sub_le_sub_iff_right,
      Calendar.backAt_le_backClampedAt_iff hday]
  constructor
  · intro h
    exact hold.mp (old_iff.mp h.old)
  · intro h
    refine ⟨old_iff.mpr (hold.mpr h), fun now' hnow => ?_⟩
    rw [threeMonthsAgo_eq, threeMonthsAgo_eq]
    exact sub_le_sub_right (Calendar.backAt_le_backAt hday h (add_le_add_left hnow zone)) zone

section Example

-- 02:00 on 31 May and on 1 June 2026, and noon on 1 March.
private def lastOfMay : Int := 1780192800000

private def firstOfJune : Int := 1780279200000

private def firstOfMarch : Int := 1772366400000

open ErrorCleanupWorker in
/-- 31 February is 3 March: the row of 1 March is deleted, which the next night keeps. -/
theorem not_spares_lastOfMay :
    ¬ Spares 0 lastOfMay ∧ threeMonthsBefore 0 lastOfMay < firstOfMarch ∧
      (run 0 lastOfMay .accept ⟨[⟨"e", firstOfMarch⟩], List.nodup_singleton _⟩).2.rows = [] ∧
      threeMonthsAgo 0 firstOfJune < threeMonthsAgo 0 lastOfMay := by
  have hearlier : threeMonthsAgo 0 firstOfJune < threeMonthsAgo 0 lastOfMay := by decide
  refine ⟨fun h => ?_, by decide, by decide, hearlier⟩
  exact absurd (h.monotone firstOfJune (by decide)) (not_le.mpr hearlier)

end Example

end Ecommerce
