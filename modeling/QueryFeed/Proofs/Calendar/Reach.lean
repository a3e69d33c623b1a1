import Mathlib.Tactic.ByContra
import QueryFeed.Calendar.Date

/-!
**The days that the calendar reaches.**

A day number is split into an era of 400 years, a year of the era, and a day of the year, where years
begin in March.  The year of the era is found by a division that makes up for the leap days before.  It
is the right one on each of the 146097 days of an era, so what comes out is always a date of the month,
and only the range of the years decides whether there is a date.

Main definitions:

* `Date.first`, `Date.last`, `Date.IsReached` — the ends of the calendar, and the days between them;
* `yearStart`, `adjusted` — the first day of a year of an era, and the days without the leap days.

Main results:

* `yearOfEra_spec` — **a day of an era lies in the year that is found for it**;
* `Date.isSome_ofDayNumber?_iff` — **a day number has a date if and only if it lies between the first
  and the last day of the calendar**.
-/

set_option autoImplicit false

namespace QueryFeed

namespace Date

/-- The first date of the calendar. -/
def first : Date := ⟨-262143, 1, 1, by decide⟩

/-- The last date of the calendar. -/
def last : Date := ⟨262142, 12, 31, by decide⟩

/-- The days that the calendar reaches. -/
def IsReached (number : Int) : Prop := first.dayNumber ≤ number ∧ number ≤ last.dayNumber

end Date

/-! ### Years of an era -/

/-- The days of an era before a year of it. -/
def yearStart (year : Int) : Int := 365 * year + year / 4 - year / 100 + year / 400

/-- A day of an era, less the leap days before it. -/
def adjusted (day : Int) : Int := day - day / 1460 + day / 36524 - day / 146096

theorem adjusted_mono {day later : Int} (h : day ≤ later) : adjusted day ≤ adjusted later := by
  have hstep : ∀ day : Int, adjusted day ≤ adjusted (day + 1) := by
    intro day
    unfold adjusted
    omega
  obtain ⟨distance, rfl⟩ := Int.le.dest h
  induction distance with
  | zero => simp
  | succ distance ih =>
      have hnext := hstep (day + distance)
      have hprevious := ih (by omega)
      push_cast
      rw [← Int.add_assoc]
      exact Int.le_trans hprevious hnext

/-- At both ends of each year of an era, the division gives this year. -/
theorem adjusted_ends : ∀ year : Fin 400,
    365 * (year : Int) ≤ adjusted (yearStart year) ∧
      adjusted (yearStart (year + 1) - 1) < 365 * ((year : Int) + 1) := by
  decide +kernel

/-- **A day of an era lies in the year that is found for it.** -/
theorem yearOfEra_spec {day year : Int} (nonneg : 0 ≤ day) (le : day ≤ 146096)
    (found : adjusted day / 365 = year) :
    0 ≤ year ∧ year ≤ 399 ∧ yearStart year ≤ day ∧ day < yearStart (year + 1) := by
  have hlow : adjusted 0 ≤ adjusted day := adjusted_mono nonneg
  have hhigh : adjusted day ≤ adjusted 146096 := adjusted_mono le
  have hzero : adjusted 0 = 0 := by decide
  have hlast : adjusted 146096 = 145999 := by decide
  have hyear : 0 ≤ year ∧ year ≤ 399 := by omega
  refine ⟨hyear.1, hyear.2, ?_, ?_⟩
  · -- a day before the year would be adjusted to one of the year before
    by_contra hbefore
    rcases Int.lt_or_le 0 year with hpositive | hnone
    · obtain ⟨-, hend⟩ := adjusted_ends ⟨(year - 1).toNat, by omega⟩
      have hcast : (((year - 1).toNat : Nat) : Int) = year - 1 := by omega
      simp only [hcast, Int.sub_add_cancel] at hend
      have hle := adjusted_mono (show day ≤ yearStart year - 1 by omega)
      omega
    · have hstart : yearStart year = 0 := by
        obtain rfl : year = 0 := by omega
        decide
      omega
  · by_contra hbehind
    rcases Int.lt_or_le year 399 with hless | hlastYear
    · obtain ⟨hbegin, -⟩ := adjusted_ends ⟨(year + 1).toNat, by omega⟩
      have hcast : (((year + 1).toNat : Nat) : Int) = year + 1 := by omega
      simp only [hcast] at hbegin
      have hle := adjusted_mono (show yearStart (year + 1) ≤ day by omega)
      omega
    · have hstart : yearStart (year + 1) = 146097 := by
        obtain rfl : year = 399 := by omega
        decide
      omega

/-- A year has 366 days, counted from March on, only if the leap day is the last of them. -/
theorem leap_of_lastDay {year : Int} (long : yearStart year + 365 < yearStart (year + 1)) :
    (year + 1) % 4 = 0 ∧ ((year + 1) % 100 ≠ 0 ∨ (year + 1) % 400 = 0) := by
  unfold yearStart at long
  omega

theorem yearStart_mono {year later : Int} (h : year ≤ later) : yearStart year ≤ yearStart later := by
  unfold yearStart
  omega

theorem yearStart_succ_le (year : Int) : yearStart (year + 1) ≤ yearStart year + 366 := by
  unfold yearStart
  omega

/-! ### Days of a year -/

/-- The number of the month in which a day of a year lies, March being the month 0. -/
def monthOfYear (day : Int) : Int := (5 * day + 2) / 153

/-- The day of its month. -/
def dayOfMonth (day : Int) : Int := day - (153 * monthOfYear day + 2) / 5 + 1

/-- The number of a month in the calendar. -/
def calendarMonth (month : Int) : Int := if month < 10 then month + 3 else month - 9

/-- A day of a year, counted from March on, is a day of its month. -/
def IsDayOfMonth (year day : Int) : Prop :=
  1 ≤ (dayOfMonth day).toNat ∧
    (dayOfMonth day).toNat ≤ daysInMonth year (calendarMonth (monthOfYear day)).toNat

instance (year day : Int) : Decidable (IsDayOfMonth year day) := inferInstanceAs (Decidable (_ ∧ _))

/-- Only the length of February differs from year to year. -/
theorem daysInMonth_congr {year other : Int} (same : isLeapYear year = isLeapYear other)
    (month : Nat) : daysInMonth year month = daysInMonth other month := by
  unfold daysInMonth
  rw [same]

theorem isDayOfMonth_common : ∀ day : Fin 365, IsDayOfMonth 2001 day := by
  decide +kernel

theorem isDayOfMonth_leap : ∀ day : Fin 366, IsDayOfMonth 2000 day := by
  decide +kernel

/-- **Each day of a year is a day of its month**; the last one has to be a leap day. -/
theorem isDayOfMonth {year day : Int} (nonneg : 0 ≤ day) (le : day ≤ 365)
    (leap : day = 365 → isLeapYear year = true) : IsDayOfMonth year day := by
  have hcast : ((day.toNat : Nat) : Int) = day := Int.toNat_of_nonneg nonneg
  unfold IsDayOfMonth
  cases hyear : isLeapYear year with
  | true =>
      have hday : IsDayOfMonth 2000 (day.toNat : Nat) := isDayOfMonth_leap ⟨day.toNat, by omega⟩
      rw [hcast] at hday
      rwa [daysInMonth_congr (hyear.trans (by decide : true = isLeapYear 2000))]
  | false =>
      have hnot : day ≠ 365 := by
        intro h
        rw [leap h] at hyear
        cases hyear
      have hday : IsDayOfMonth 2001 (day.toNat : Nat) := isDayOfMonth_common ⟨day.toNat, by omega⟩
      rw [hcast] at hday
      rwa [daysInMonth_congr (hyear.trans (by decide : false = isLeapYear 2001))]

/-! ### The ends of the calendar -/

namespace Date

/-- The parts of a date with a day number, in terms of its era, its year and its day. -/
theorem ofDayNumber?_eq {number era dayOfEra year day : Int}
    (hera : (number + 719468) / 146097 = era) (hdayOfEra : (number + 719468) % 146097 = dayOfEra)
    (hyear : adjusted dayOfEra / 365 = year) (hday : dayOfEra - yearStart year = day)
    (within : year ≤ 399) (nonneg : 0 ≤ year) :
    ofDayNumber? number =
      of? (year + era * 400 + (if calendarMonth (monthOfYear day) ≤ 2 then 1 else 0))
        (calendarMonth (monthOfYear day)).toNat (dayOfMonth day).toNat := by
  have hstart : dayOfEra - (365 * year + year / 4 - year / 100) = day := by
    rw [← hday, yearStart]
    omega
  subst hera hdayOfEra
  unfold ofDayNumber?
  simp only
  rw [← adjusted, hyear, hstart]
  rfl

/-- January and February belong to the next year of the calendar. -/
theorem calendarMonth_le_two_iff {day : Int} (nonneg : 0 ≤ day) (le : day ≤ 365) :
    calendarMonth (monthOfYear day) ≤ 2 ↔ 306 ≤ day := by
  unfold calendarMonth monthOfYear
  split <;> omega

theorem isLeapYear_of_dvd {year : Int} (four : year % 4 = 0)
    (century : year % 100 ≠ 0 ∨ year % 400 = 0) : isLeapYear year = true := by
  rcases century with h | h <;> simp [isLeapYear, four, h]

theorem isSome_of?_iff {year : Int} {month day : Nat} :
    (of? year month day).isSome = true ↔ IsDate year month day := by
  unfold of?
  split <;> simp_all

/-- The calendar begins on day 306 of the year 256 of an era, and ends on day 305 of a year 142. -/
theorem isReached_iff (era : Int) {year day : Int} (nonneg : 0 ≤ year) (le : year ≤ 399) (first : 0 ≤ day)
    (last : yearStart year + day < yearStart (year + 1)) :
    IsReached (era * 146097 + (yearStart year + day) - 719468) ↔
      -262143 ≤ year + era * 400 + (if 306 ≤ day then 1 else 0) ∧
        year + era * 400 + (if 306 ≤ day then 1 else 0) ≤ 262142 := by
  have hfirst : Date.first.dayNumber = -96465292 := by decide
  have hlast : Date.last.dayNumber = 95026236 := by decide
  have hbegin : yearStart 0 ≤ yearStart year := yearStart_mono nonneg
  have hend : yearStart (year + 1) ≤ yearStart 400 := yearStart_mono (by omega)
  have hstarts : yearStart 0 = 0 ∧ yearStart 142 = 51864 ∧ yearStart 143 = 52229 ∧
      yearStart 256 = 93502 ∧ yearStart 257 = 93867 ∧ yearStart 400 = 146097 := by decide
  -- where a year begins, compared with the two years in which the calendar ends
  have hless : ∀ other, year < other → yearStart (year + 1) ≤ yearStart other :=
    fun other h => yearStart_mono (by omega)
  have hatMost : ∀ other, year ≤ other → yearStart year ≤ yearStart other :=
    fun other h => yearStart_mono h
  have hatLeast : ∀ other, other ≤ year → yearStart other ≤ yearStart year :=
    fun other h => yearStart_mono h
  have hfirstYear := And.intro (hless 256) (And.intro (hatMost 256) (hatLeast 256))
  have hlastYear := And.intro (hless 142) (And.intro (hatMost 142) (hatLeast 142))
  have hlaterYears := And.intro (hatLeast 257) (hatLeast 143)
  rw [IsReached, hfirst, hlast]
  split
  · omega
  · omega

/-- **A day number has a date if and only if it lies between the first and the last day of the
calendar.** -/
theorem isSome_ofDayNumber?_iff {number : Int} :
    (ofDayNumber? number).isSome = true ↔ IsReached number := by
  obtain ⟨era, hera⟩ : ∃ era, (number + 719468) / 146097 = era := ⟨_, rfl⟩
  obtain ⟨dayOfEra, hdayOfEra⟩ : ∃ day, (number + 719468) % 146097 = day := ⟨_, rfl⟩
  obtain ⟨year, hyear⟩ : ∃ year, adjusted dayOfEra / 365 = year := ⟨_, rfl⟩
  obtain ⟨day, hday⟩ : ∃ day, dayOfEra - yearStart year = day := ⟨_, rfl⟩
  obtain ⟨hnonneg, hle, hstart, hend⟩ := yearOfEra_spec (by omega) (by omega) hyear
  have hlength := yearStart_succ_le year
  have hnumber : number = era * 146097 + (yearStart year + day) - 719468 := by omega
  have hreached := isReached_iff era hnonneg hle (show 0 ≤ day by omega) (by omega)
  rw [ofDayNumber?_eq hera hdayOfEra hyear hday hle hnonneg, isSome_of?_iff, hnumber, hreached]
  simp only [calendarMonth_le_two_iff (show 0 ≤ day by omega) (show day ≤ 365 by omega)]
  have hleap : day = 365 →
      isLeapYear (year + era * 400 + (if 306 ≤ day then 1 else 0)) = true := by
    intro hlong
    have hlast : yearStart year + 365 < yearStart (year + 1) := by omega
    obtain ⟨hfour, hcentury⟩ := leap_of_lastDay hlast
    rw [if_pos (by omega)]
    exact isLeapYear_of_dvd (by omega) (by omega)
  have hdate := isDayOfMonth (show 0 ≤ day by omega) (by omega) hleap
  constructor
  · rintro ⟨hlow, hhigh, -⟩
    exact ⟨hlow, hhigh⟩
  · rintro ⟨hlow, hhigh⟩
    exact ⟨hlow, hhigh, hdate⟩

end Date

end QueryFeed
