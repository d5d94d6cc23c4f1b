import Mathlib.Algebra.Order.Ring.Int
import Mathlib.Order.Monotone.Basic
import Mathlib.Tactic.IntervalCases

/-- `start m` is the first day of month `m`, `month d` the month of day `d`. -/
structure Calendar where
  start : Int → Int
  month : Int → Int
  start_lt_succ : ∀ m, start m < start (m + 1)
  start_month_le : ∀ d, start (month d) ≤ d
  lt_start_month_succ : ∀ d, d < start (month d + 1)

namespace Calendar

variable (C : Calendar) {d d' k m m' t t' u : Int}

def length (m : Int) : Int := C.start (m + 1) - C.start m

def dayOfMonth (d : Int) : Int := d - C.start (C.month d)

/-- `k` months before: a day that the month does not have runs over into the next one. -/
def back (k d : Int) : Int := C.start (C.month d - k) + C.dayOfMonth d

/-- `k` months before: a day that the month does not have becomes its last. -/
def backClamped (k d : Int) : Int :=
  C.start (C.month d - k) + min (C.dayOfMonth d) (C.length (C.month d - k) - 1)

def HasDay (k d : Int) : Prop := C.dayOfMonth d < C.length (C.month d - k)

theorem start_lt_start_iff {n : Int} : C.start m < C.start n ↔ m < n :=
  (strictMono_int_of_lt_succ C.start_lt_succ).lt_iff_lt

theorem month_mono (hle : d ≤ d') : C.month d ≤ C.month d' := by
  have hlt := (C.start_month_le d).trans_lt (hle.trans_lt (C.lt_start_month_succ d'))
  exact Int.lt_add_one_iff.mp (C.start_lt_start_iff.mp hlt)

theorem back_le_backClamped_iff : C.back k d ≤ C.backClamped k d ↔ C.HasDay k d := by
  unfold back backClamped HasDay
  omega

theorem back_lt_back (h : C.HasDay k d) (hlt : d < d') : C.back k d < C.back k d' := by
  have hmonth := C.month_mono hlt.le
  unfold HasDay dayOfMonth length at h
  unfold back dayOfMonth
  rcases hmonth.eq_or_lt with hsame | hlater
  · rw [← hsame]
    omega
  · have hstart : C.start (C.month d - k + 1) ≤ C.start (C.month d' - k) :=
      not_lt.mp (mt C.start_lt_start_iff.mp (by omega))
    have hfirst := C.start_month_le d'
    omega

section Clock

/-- `k` months before at the same time of the day, when a day lasts `u`. -/
def backAt (u k t : Int) : Int := C.back k (t / u) * u + t % u

def backClampedAt (u k t : Int) : Int := C.backClamped k (t / u) * u + t % u

variable {C}

theorem backAt_le_backClampedAt_iff (hu : 0 < u) :
    C.backAt u k t ≤ C.backClampedAt u k t ↔ C.HasDay k (t / u) := by
  rw [backAt, backClampedAt, add_le_add_iff_right, mul_le_mul_iff_of_pos_right hu,
    back_le_backClamped_iff]

theorem backAt_le_backAt (hu : 0 < u) (h : C.HasDay k (t / u)) (hle : t ≤ t') :
    C.backAt u k t ≤ C.backAt u k t' := by
  have hday : t / u ≤ t' / u := Int.ediv_le_ediv hu hle
  unfold backAt
  rcases hday.eq_or_lt with hsame | hlater
  · have ht := Int.emod_def t u
    have ht' := Int.emod_def t' u
    rw [← hsame] at ht' ⊢
    omega
  · have hback := C.back_lt_back h hlater
    have hmul : (C.back k (t / u) + 1) * u ≤ C.back k (t' / u) * u :=
      mul_le_mul_of_nonneg_right hback hu.le
    have htime := Int.emod_lt_of_pos t hu
    have htime' := Int.emod_nonneg t' hu.ne'
    rw [add_mul, one_mul] at hmul
    omega

end Clock

end Calendar

namespace Ecma

/-- `DayFromYear`: the day that a year begins with, counted from the one of 1970. -/
def dayFromYear (y : Int) : Int :=
  365 * (y - 1970) + (y - 1969) / 4 - (y - 1901) / 100 + (y - 1601) / 400

def inLeapYear (y : Int) : Int := if y % 4 = 0 ∧ (y % 100 ≠ 0 ∨ y % 400 = 0) then 1 else 0

/-- `YearFromTime`: the last year that has begun. -/
def yearFromDay (d : Int) : Int :=
  let y := 1970 + 400 * d / 146097
  if d < dayFromYear y then y - 1 else if dayFromYear (y + 1) ≤ d then y + 1 else y

/-- The days of a year before month `m`, January being `0`. -/
def daysBefore (leap m : Int) : Int :=
  if m = 0 then 0
  else if m = 1 then 31
  else if m = 2 then 59 + leap
  else if m = 3 then 90 + leap
  else if m = 4 then 120 + leap
  else if m = 5 then 151 + leap
  else if m = 6 then 181 + leap
  else if m = 7 then 212 + leap
  else if m = 8 then 243 + leap
  else if m = 9 then 273 + leap
  else if m = 10 then 304 + leap
  else if m = 11 then 334 + leap
  else 365 + leap

/-- `MonthFromTime`, from the day of the year. -/
def monthInYear (leap n : Int) : Int :=
  if n < 31 then 0
  else if n < 59 + leap then 1
  else if n < 90 + leap then 2
  else if n < 120 + leap then 3
  else if n < 151 + leap then 4
  else if n < 181 + leap then 5
  else if n < 212 + leap then 6
  else if n < 243 + leap then 7
  else if n < 273 + leap then 8
  else if n < 304 + leap then 9
  else if n < 334 + leap then 10
  else 11

variable {y d m n leap : Int}

theorem inLeapYear_cases (y : Int) : inLeapYear y = 0 ∨ inLeapYear y = 1 := by
  unfold inLeapYear
  split
  · exact .inr rfl
  · exact .inl rfl

theorem dayFromYear_succ (y : Int) : dayFromYear (y + 1) = dayFromYear y + (365 + inLeapYear y) := by
  unfold dayFromYear inLeapYear
  split <;> omega

/-- A year has 146097 / 400 days on the average, so the estimate is at most one year off. -/
theorem dayFromYear_estimate (d : Int) :
    dayFromYear (1970 + 400 * d / 146097 - 1) ≤ d ∧ d < dayFromYear (1970 + 400 * d / 146097 + 2) := by
  unfold dayFromYear
  omega

theorem yearFromDay_bounds (d : Int) :
    dayFromYear (yearFromDay d) ≤ d ∧ d < dayFromYear (yearFromDay d + 1) := by
  obtain ⟨hfirst, hlast⟩ := dayFromYear_estimate d
  unfold yearFromDay
  simp only
  split
  · next hearly => exact ⟨hfirst, by rwa [sub_add_cancel]⟩
  · next hearly =>
    split
    · next hlate => exact ⟨hlate, by rwa [add_assoc]⟩
    · next hlate => exact ⟨not_lt.mp hearly, not_le.mp hlate⟩

theorem daysBefore_months (leap : Int) :
    daysBefore leap 0 = 0 ∧ daysBefore leap 1 = 31 ∧ daysBefore leap 2 = 59 + leap ∧
      daysBefore leap 3 = 90 + leap ∧ daysBefore leap 4 = 120 + leap ∧
      daysBefore leap 5 = 151 + leap ∧ daysBefore leap 6 = 181 + leap ∧
      daysBefore leap 7 = 212 + leap ∧ daysBefore leap 8 = 243 + leap ∧
      daysBefore leap 9 = 273 + leap ∧ daysBefore leap 10 = 304 + leap ∧
      daysBefore leap 11 = 334 + leap ∧ daysBefore leap 12 = 365 + leap :=
  ⟨rfl, rfl, rfl, rfl, rfl, rfl, rfl, rfl, rfl, rfl, rfl, rfl, rfl⟩

theorem daysBefore_lt_succ (hm : 0 ≤ m) (hm' : m < 12) (hleap : leap = 0 ∨ leap = 1) :
    daysBefore leap m < daysBefore leap (m + 1) := by
  interval_cases m
  all_goals
    simp only [Int.reduceAdd, daysBefore_months leap]
    omega

theorem monthInYear_bounds (leap n : Int) : 0 ≤ monthInYear leap n ∧ monthInYear leap n < 12 := by
  unfold monthInYear
  repeat' refine iteInduction (motive := fun m => 0 ≤ m ∧ m < 12) (fun _ => ?_) fun _ => ?_
  all_goals decide

theorem daysBefore_monthInYear (hn : 0 ≤ n) (hn' : n < 365 + leap) :
    daysBefore leap (monthInYear leap n) ≤ n ∧
      n < daysBefore leap (monthInYear leap n + 1) := by
  let P (m : Int) := daysBefore leap m ≤ n ∧ n < daysBefore leap (m + 1)
  change P (monthInYear leap n)
  unfold monthInYear
  repeat' refine iteInduction (motive := P) (fun _ => ?_) fun _ => ?_
  all_goals
    simp only [P, Int.reduceAdd, daysBefore_months leap]
    omega

def monthStart (m : Int) : Int := dayFromYear (m / 12) + daysBefore (inLeapYear (m / 12)) (m % 12)

def monthFromDay (d : Int) : Int :=
  12 * yearFromDay d + monthInYear (inLeapYear (yearFromDay d)) (d - dayFromYear (yearFromDay d))

theorem monthStart_eq (hm : 0 ≤ m) (hm' : m < 12) :
    monthStart (12 * y + m) = dayFromYear y + daysBefore (inLeapYear y) m := by
  have hyear : (12 * y + m) / 12 = y := by omega
  have hmonth : (12 * y + m) % 12 = m := by omega
  rw [monthStart, hyear, hmonth]

theorem monthStart_succ_eq (hm : 0 ≤ m) (hm' : m < 12) :
    monthStart (12 * y + m + 1) = dayFromYear y + daysBefore (inLeapYear y) (m + 1) := by
  rcases (show m < 11 ∨ m = 11 by omega) with hless | rfl
  · rw [add_assoc]
    exact monthStart_eq (by omega) (by omega)
  · have hnext : 12 * y + 11 + 1 = 12 * (y + 1) + 0 := by omega
    rw [hnext, monthStart_eq le_rfl (by decide), dayFromYear_succ]
    simp only [Int.reduceAdd, daysBefore_months]
    omega

theorem monthFromDay_bounds (d : Int) :
    monthStart (monthFromDay d) ≤ d ∧ d < monthStart (monthFromDay d + 1) := by
  obtain ⟨hfirst, hlast⟩ := yearFromDay_bounds d
  rw [dayFromYear_succ] at hlast
  obtain ⟨hle, hlt⟩ := daysBefore_monthInYear (sub_nonneg.mpr hfirst)
    (show d - dayFromYear (yearFromDay d) < 365 + inLeapYear (yearFromDay d) by omega)
  obtain ⟨hm, hm'⟩ := monthInYear_bounds (inLeapYear (yearFromDay d))
    (d - dayFromYear (yearFromDay d))
  rw [monthFromDay, monthStart_eq hm hm', monthStart_succ_eq hm hm']
  omega

/-- The proleptic Gregorian calendar; month `0` is January of year `0`. -/
def calendar : Calendar where
  start := monthStart
  month := monthFromDay
  start_lt_succ m := by
    have hm := Int.emod_nonneg m (show (12 : Int) ≠ 0 by decide)
    have hm' := Int.emod_lt_of_pos m (show (0 : Int) < 12 by decide)
    have hsplit : m = 12 * (m / 12) + m % 12 := (Int.mul_ediv_add_emod m 12).symm
    rw [hsplit, monthStart_eq hm hm', monthStart_succ_eq hm hm', add_lt_add_iff_left]
    exact daysBefore_lt_succ hm hm' (inLeapYear_cases _)
  start_month_le d := (monthFromDay_bounds d).1
  lt_start_month_succ d := (monthFromDay_bounds d).2

section Date

-- How far local time is ahead of UTC.
variable (zone : Int)

def msPerDay : Int := 86400000

def localTime (t : Int) : Int := t + zone

def utc (t : Int) : Int := t - zone

def yearFromTime (t : Int) : Int := yearFromDay (t / msPerDay)

def monthFromTime (t : Int) : Int :=
  monthInYear (inLeapYear (yearFromTime t)) (t / msPerDay - dayFromYear (yearFromTime t))

def dateFromTime (t : Int) : Int :=
  t / msPerDay - dayFromYear (yearFromTime t) -
    daysBefore (inLeapYear (yearFromTime t)) (monthFromTime t) + 1

def makeDay (year month date : Int) : Int :=
  dayFromYear (year + month / 12) + daysBefore (inLeapYear (year + month / 12)) (month % 12) +
    (date - 1)

/-- `Date.prototype.getMonth`. -/
def getMonth (t : Int) : Int := monthFromTime (localTime zone t)

/-- `Date.prototype.setMonth`. -/
def setMonth (t month : Int) : Int :=
  let t := localTime zone t
  utc zone (makeDay (yearFromTime t) month (dateFromTime t) * msPerDay + t % msPerDay)

theorem makeDay_eq (year month date : Int) :
    makeDay year month date = monthStart (12 * year + month) + (date - 1) := by
  have hyear : (12 * year + month) / 12 = year + month / 12 := by omega
  have hmonth : (12 * year + month) % 12 = month % 12 := by omega
  rw [makeDay, monthStart, hyear, hmonth]

/-- Setting the month to an earlier one moves back by whole months. -/
theorem setMonth_getMonth_sub (t k : Int) :
    setMonth zone t (getMonth zone t - k) =
      utc zone (calendar.backAt msPerDay k (localTime zone t)) := by
  have hdate : ∀ t, dateFromTime t - 1 = calendar.dayOfMonth (t / msPerDay) := by
    intro t
    obtain ⟨hm, hm'⟩ := monthInYear_bounds (inLeapYear (yearFromTime t))
      (t / msPerDay - dayFromYear (yearFromTime t))
    have hstart : calendar.start (calendar.month (t / msPerDay)) = dayFromYear (yearFromTime t) +
        daysBefore (inLeapYear (yearFromTime t)) (monthFromTime t) := monthStart_eq hm hm'
    rw [Calendar.dayOfMonth, hstart, dateFromTime]
    omega
  have hmonth : ∀ t, 12 * yearFromTime t + (monthFromTime t - k) =
      calendar.month (t / msPerDay) - k := fun t => (add_sub_assoc _ _ _).symm
  simp only [setMonth, getMonth, makeDay_eq, hdate, hmonth]
  rfl

end Date

end Ecma
