import DruidPanels.Proofs.Months
import DruidPanels.Time.Steps

/-! # Starts of units

Where the units of the UTC calendar start is said on the whole time line, before and
after 1970 and outside the calendar too (`StartsAt`). The starts of a unit can be
numbered on without a gap, so around each second there are a last start and a next one
(`isGreatest_startSecond`, `isLeast_startSecond`). -/

namespace DruidPanels.TimeUnit

open Instant (secondsPerDay)

/-- A unit of the calendar starts at this second, counted from 1970: a day at midnight, a
week on a Monday, a month on its first day and a year on its first of January. -/
def StartsAt (second : Int) : TimeUnit → Prop
  | .second => True
  | .minute => second % 60 = 0
  | .hour => second % 3600 = 0
  | .day => second % secondsPerDay = 0
  | .week => second % secondsPerDay = 0 ∧ daysSinceMonday (second / secondsPerDay) = 0
  | .month => second % secondsPerDay = 0 ∧ (Date.ofEpochDay (second / secondsPerDay)).day = 1
  | .year => second % secondsPerDay = 0 ∧
      (Date.ofEpochDay (second / secondsPerDay)).day = 1 ∧
      (Date.ofEpochDay (second / secondsPerDay)).month = 1

instance (second : Int) : (unit : TimeUnit) → Decidable (unit.StartsAt second)
  | .second => inferInstanceAs (Decidable True)
  | .minute => inferInstanceAs (Decidable (_ = _))
  | .hour => inferInstanceAs (Decidable (_ = _))
  | .day => inferInstanceAs (Decidable (_ = _))
  | .week => inferInstanceAs (Decidable (_ ∧ _))
  | .month => inferInstanceAs (Decidable (_ ∧ _))
  | .year => inferInstanceAs (Decidable (_ ∧ _ ∧ _))

/-- The second at which the unit of this number starts. Seconds, minutes, hours and days
are numbered from 1970, weeks from the one in which 1970 starts, months and years from
the first of year 0. -/
def startSecond (number : Int) : TimeUnit → Int
  | .second => number
  | .minute => number * 60
  | .hour => number * 3600
  | .day => number * secondsPerDay
  | .week => (number * 7 - 3) * secondsPerDay
  | .month => Date.monthStart number * secondsPerDay
  | .year => Date.monthStart (12 * number) * secondsPerDay

/-- The number of the unit in which a second falls. -/
def numberAt (second : Int) : TimeUnit → Int
  | .second => second
  | .minute => second / 60
  | .hour => second / 3600
  | .day => second / secondsPerDay
  | .week => (second / secondsPerDay + 3) / 7
  | .month => (Date.ofEpochDay (second / secondsPerDay)).monthNumber
  | .year => (Date.ofEpochDay (second / secondsPerDay)).year

theorem strictMono_startSecond (unit : TimeUnit) : StrictMono fun n => unit.startSecond n := by
  intro m n h
  have hmonth := Date.strictMono_monthStart h
  have hyear := Date.strictMono_monthStart (show 12 * m < 12 * n by omega)
  cases unit <;> simp only [startSecond, secondsPerDay] <;> omega

theorem startSecond_lt_succ (number : Int) (unit : TimeUnit) :
    unit.startSecond number < unit.startSecond (number + 1) :=
  unit.strictMono_startSecond (Int.lt_succ_self number)

/-! ## The unit of a second -/

theorem startSecond_numberAt_le (second : Int) (unit : TimeUnit) :
    unit.startSecond (unit.numberAt second) ≤ second := by
  have hvalid := Date.valid_ofEpochDay (second / secondsPerDay)
  have hmonth := Date.monthStart_le_toEpochDay hvalid
  rw [Date.toEpochDay_ofEpochDay] at hmonth
  cases unit with
  | year =>
    have hyear := Date.strictMono_monthStart.monotone (Date.year_le_monthNumber
      (Date.ofEpochDay (second / secondsPerDay)))
    simp only [startSecond, numberAt, secondsPerDay] at *
    omega
  | second | minute | hour | day | week | month =>
    simp only [startSecond, numberAt, secondsPerDay] at *
    omega

theorem lt_startSecond_numberAt_succ (second : Int) (unit : TimeUnit) :
    second < unit.startSecond (unit.numberAt second + 1) := by
  have hvalid := Date.valid_ofEpochDay (second / secondsPerDay)
  have hmonth := Date.toEpochDay_lt_monthStart hvalid
  rw [Date.toEpochDay_ofEpochDay] at hmonth
  cases unit with
  | year =>
    have hyear := Date.strictMono_monthStart.monotone
      (Int.add_one_le_of_lt (Date.monthNumber_lt_year_succ hvalid))
    simp only [startSecond, numberAt, secondsPerDay] at *
    omega
  | second | minute | hour | day | week | month =>
    simp only [startSecond, numberAt, secondsPerDay] at *
    omega

theorem numberAt_eq {second number : Int} {unit : TimeUnit}
    (hle : unit.startSecond number ≤ second) (hlt : second < unit.startSecond (number + 1)) :
    unit.numberAt second = number := by
  have hbefore : number < unit.numberAt second + 1 := unit.strictMono_startSecond.lt_iff_lt.mp
    (hle.trans_lt (unit.lt_startSecond_numberAt_succ second))
  have hafter : unit.numberAt second < number + 1 := unit.strictMono_startSecond.lt_iff_lt.mp
    ((unit.startSecond_numberAt_le second).trans_lt hlt)
  omega

theorem numberAt_startSecond (number : Int) (unit : TimeUnit) :
    unit.numberAt (unit.startSecond number) = number :=
  numberAt_eq le_rfl (unit.startSecond_lt_succ number)

/-! ## Starts and numbers -/

theorem date_startSecond_month (n : Int) :
    Date.ofEpochDay (Date.monthStart n * secondsPerDay / secondsPerDay) = Date.ofMonthNumber n := by
  rw [Int.mul_ediv_cancel _ (by decide), Date.monthStart,
    Date.ofEpochDay_toEpochDay (Date.valid_ofMonthNumber n)]

theorem startsAt_startSecond (n : Int) (unit : TimeUnit) :
    unit.StartsAt (unit.startSecond n) := by
  cases unit with
  | second => trivial
  | month =>
    refine ⟨Int.mul_emod_left _ _, ?_⟩
    rw [startSecond, date_startSecond_month, Date.ofMonthNumber]
  | year =>
    refine ⟨Int.mul_emod_left _ _, ?_⟩
    rw [startSecond, date_startSecond_month, Date.ofMonthNumber]
    exact ⟨rfl, by simp⟩
  | minute | hour | day | week =>
    simp only [StartsAt, startSecond, daysSinceMonday, secondsPerDay]
    omega

/-- A start is the start of its own unit. -/
theorem startSecond_numberAt {second : Int} {unit : TimeUnit} (h : unit.StartsAt second) :
    unit.startSecond (unit.numberAt second) = second := by
  have hvalid := Date.valid_ofEpochDay (second / secondsPerDay)
  have hday := Date.toEpochDay_eq hvalid
  rw [Date.toEpochDay_ofEpochDay] at hday
  cases unit with
  | second => rfl
  | month =>
    obtain ⟨hmidnight, hfirst⟩ := h
    rw [hfirst] at hday
    simp only [startSecond, numberAt, secondsPerDay] at *
    omega
  | year =>
    obtain ⟨hmidnight, hfirst, hjanuary⟩ := h
    have hnumber : (Date.ofEpochDay (second / secondsPerDay)).monthNumber =
        12 * (Date.ofEpochDay (second / secondsPerDay)).year := by
      simp [Date.monthNumber, hjanuary]
    rw [hfirst, hnumber] at hday
    simp only [startSecond, numberAt, secondsPerDay] at *
    omega
  | minute | hour | day | week =>
    simp only [StartsAt, startSecond, numberAt, daysSinceMonday, secondsPerDay] at *
    omega

theorem isGreatest_startSecond (second : Int) (unit : TimeUnit) :
    IsGreatest {n | unit.StartsAt n ∧ n ≤ second} (unit.startSecond (unit.numberAt second)) := by
  refine ⟨⟨unit.startsAt_startSecond _, unit.startSecond_numberAt_le second⟩, ?_⟩
  rintro n ⟨hstart, hle⟩
  have hn := startSecond_numberAt hstart
  have hlt := unit.lt_startSecond_numberAt_succ second
  have hnumber : unit.numberAt n < unit.numberAt second + 1 :=
    unit.strictMono_startSecond.lt_iff_lt.mp (by omega)
  have := unit.strictMono_startSecond.monotone (Int.le_of_lt_add_one hnumber)
  omega

theorem isLeast_startSecond (second : Int) (unit : TimeUnit) :
    IsLeast {n | unit.StartsAt n ∧ second < n}
      (unit.startSecond (unit.numberAt second + 1)) := by
  refine ⟨⟨unit.startsAt_startSecond _, unit.lt_startSecond_numberAt_succ second⟩, ?_⟩
  rintro n ⟨hstart, hlt⟩
  have hn := startSecond_numberAt hstart
  have hle := unit.startSecond_numberAt_le second
  have hnumber : unit.numberAt second < unit.numberAt n :=
    unit.strictMono_startSecond.lt_iff_lt.mp (by omega)
  have := unit.strictMono_startSecond.monotone (Int.add_one_le_of_lt hnumber)
  omega

end DruidPanels.TimeUnit
