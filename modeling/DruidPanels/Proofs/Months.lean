import DruidPanels.Time.Calendar.Lemmas
import Mathlib

/-! # First days of months

The months of the calendar are numbered on from the first of year 0, and their first
days follow one another at the distance of a month's length (`monthStart_succ`). So a
day lies in one month only, a date is the date of its day count
(`ofEpochDay_toEpochDay`), and to move a date by months is to count them
(`addMonths_eq_iff`). -/

namespace DruidPanels

namespace Calendar

theorem daysBeforeYear_succ (year : Int) :
    daysBeforeYear (year + 1) = daysBeforeYear year + 365 + (isLeap year).toNat := by
  have hleap := isLeap_iff year
  simp only [daysBeforeYear]
  cases hyear : isLeap year with
  | true =>
    have := hleap.mp hyear
    simp only [Bool.toNat_true]
    omega
  | false =>
    have := mt hleap.mpr (Bool.eq_false_iff.mp hyear)
    simp only [Bool.toNat_false]
    omega

theorem daysBeforeMonth_succ (leap : Bool) {month : Nat} (h : month < 12) :
    daysBeforeMonth leap (month + 2) =
      daysBeforeMonth leap (month + 1) + (monthLengths leap).getD month 0 := by
  have hlength : month < (monthLengths leap).length := by rwa [length_monthLengths]
  simp only [daysBeforeMonth, Nat.add_sub_cancel, show month + 2 - 1 = month + 1 from rfl]
  change ((monthLengths leap).take (month + 1)).sum = ((monthLengths leap).take month).sum + _
  rw [List.sum_take_succ _ _ hlength, List.getD_eq_getElem?_getD,
    List.getElem?_eq_getElem hlength, Option.getD_some]

theorem daysBeforeMonth_thirteen (leap : Bool) :
    daysBeforeMonth leap 13 = 365 + leap.toNat := by
  cases leap <;> rfl

theorem monthLength_pos (year : Int) {month : Nat} (h : month < 12) :
    0 < monthLength year (month + 1) := by
  have hall : ∀ leap : Bool, ∀ m < 12, 0 < (monthLengths leap).getD m 0 := by decide
  exact hall _ _ h

end Calendar

open Calendar

namespace Date

theorem valid_iff (d : Date) :
    d.valid = true ↔ 1 ≤ d.month ∧ d.month ≤ 12 ∧ 1 ≤ d.day ∧
      d.day ≤ monthLength d.year d.month := by
  simp [valid, and_assoc]

/-- The number of the month of a date, from the first month of year 0. -/
def monthNumber (d : Date) : Int := 12 * d.year + (d.month - 1 : Nat)

/-- The first date of a month. -/
def ofMonthNumber (n : Int) : Date := ⟨n / 12, (n % 12).toNat + 1, 1⟩

/-- The first day of a month, counted from 1970-01-01. -/
def monthStart (n : Int) : Int := (ofMonthNumber n).toEpochDay

theorem year_le_monthNumber (d : Date) : 12 * d.year ≤ d.monthNumber := by
  simp only [monthNumber]
  omega

theorem monthNumber_lt_year_succ {d : Date} (h : d.valid = true) :
    d.monthNumber < 12 * (d.year + 1) := by
  obtain ⟨_, hlast, _⟩ := (valid_iff d).mp h
  simp only [monthNumber]
  omega

theorem valid_ofMonthNumber (n : Int) : (ofMonthNumber n).valid = true := by
  have hmonth : (n % 12).toNat < 12 := by omega
  have hlength := monthLength_pos (n / 12) hmonth
  rw [valid_iff]
  simp only [ofMonthNumber]
  omega

theorem ofMonthNumber_monthNumber {d : Date} (h : d.valid = true) :
    ofMonthNumber d.monthNumber = d.startOfMonth := by
  obtain ⟨hfirst, hlast, _⟩ := (valid_iff d).mp h
  have hyear : d.monthNumber / 12 = d.year := by simp only [monthNumber]; omega
  have hmonth : (d.monthNumber % 12).toNat + 1 = d.month := by simp only [monthNumber]; omega
  rw [ofMonthNumber, hyear, hmonth, startOfMonth]

theorem ofMonthNumber_year (d : Date) : ofMonthNumber (12 * d.year) = d.startOfYear := by
  simp [ofMonthNumber, startOfYear]

/-- To move the first of a month by months is to count the months on. -/
theorem addMonths_ofMonthNumber (n months : Int) :
    (ofMonthNumber n).addMonths months = ofMonthNumber (n + months) := by
  have hcount : 12 * (n / 12) + ((n % 12).toNat : Int) + months = n + months := by omega
  have hmonth : ((n + months) % 12).toNat < 12 := by omega
  have hlength := monthLength_pos ((n + months) / 12) hmonth
  simp only [addMonths, ofMonthNumber, Nat.add_sub_cancel, hcount, Date.mk.injEq, true_and]
  omega

/-- The next month starts when the days of a month are over. -/
theorem monthStart_succ (n : Int) :
    monthStart (n + 1) =
      monthStart n + monthLength (ofMonthNumber n).year (ofMonthNumber n).month := by
  have hmonth : (n % 12).toNat < 12 := by omega
  have hbefore := daysBeforeMonth_succ (isLeap (n / 12)) hmonth
  simp only [monthStart, ofMonthNumber, toEpochDay, monthLength, Nat.add_sub_cancel]
  by_cases hlast : n % 12 = 11
  · -- the month after the last is the first of the next year
    have hyear := daysBeforeYear_succ (n / 12)
    have hthirteen := daysBeforeMonth_thirteen (isLeap (n / 12))
    have hfirst : daysBeforeMonth (isLeap (n / 12 + 1)) 1 = 0 := rfl
    rw [show (n + 1) / 12 = n / 12 + 1 by omega, show ((n + 1) % 12).toNat + 1 = 1 by omega,
      hfirst]
    rw [show (n % 12).toNat = 11 by omega] at hbefore ⊢
    simp only [Nat.reduceAdd] at hbefore ⊢
    omega
  · rw [show (n + 1) / 12 = n / 12 by omega,
      show ((n + 1) % 12).toNat + 1 = (n % 12).toNat + 2 by omega, hbefore]
    push_cast
    omega

theorem strictMono_monthStart : StrictMono monthStart := by
  refine strictMono_int_of_lt_succ fun n => ?_
  have hmonth : (n % 12).toNat < 12 := by omega
  have hlength : 0 < monthLength (ofMonthNumber n).year (ofMonthNumber n).month :=
    monthLength_pos (n / 12) hmonth
  rw [monthStart_succ]
  omega

/-! ## Dates within months -/

theorem toEpochDay_eq {d : Date} (h : d.valid = true) :
    d.toEpochDay = monthStart d.monthNumber + (d.day - 1 : Nat) := by
  obtain ⟨_, _, hday, _⟩ := (valid_iff d).mp h
  rw [monthStart, ofMonthNumber_monthNumber h]
  simp only [toEpochDay, startOfMonth]
  omega

theorem monthStart_le_toEpochDay {d : Date} (h : d.valid = true) :
    monthStart d.monthNumber ≤ d.toEpochDay := by
  rw [toEpochDay_eq h]
  omega

theorem toEpochDay_lt_monthStart {d : Date} (h : d.valid = true) :
    d.toEpochDay < monthStart (d.monthNumber + 1) := by
  obtain ⟨_, _, hday, hlength⟩ := (valid_iff d).mp h
  rw [toEpochDay_eq h, monthStart_succ, ofMonthNumber_monthNumber h]
  simp only [startOfMonth]
  omega

theorem monthNumber_eq_of_toEpochDay_eq {d e : Date} (hd : d.valid = true) (he : e.valid = true)
    (h : d.toEpochDay = e.toEpochDay) : d.monthNumber = e.monthNumber := by
  have hde : d.monthNumber < e.monthNumber + 1 := strictMono_monthStart.lt_iff_lt.mp <|
    (monthStart_le_toEpochDay hd).trans_lt (h ▸ toEpochDay_lt_monthStart he)
  have hed : e.monthNumber < d.monthNumber + 1 := strictMono_monthStart.lt_iff_lt.mp <|
    (monthStart_le_toEpochDay he).trans_lt (h ▸ toEpochDay_lt_monthStart hd)
  omega

theorem eq_of_toEpochDay_eq {d e : Date} (hd : d.valid = true) (he : e.valid = true)
    (h : d.toEpochDay = e.toEpochDay) : d = e := by
  have hnumber := monthNumber_eq_of_toEpochDay_eq hd he h
  rw [toEpochDay_eq hd, toEpochDay_eq he, hnumber] at h
  obtain ⟨_, _, _, _⟩ := (valid_iff d).mp hd
  obtain ⟨_, _, _, _⟩ := (valid_iff e).mp he
  simp only [monthNumber] at hnumber
  cases d
  cases e
  simp only [Date.mk.injEq] at *
  omega

/-- **A date is the date of its day count.** -/
theorem ofEpochDay_toEpochDay {d : Date} (h : d.valid = true) : ofEpochDay d.toEpochDay = d :=
  eq_of_toEpochDay_eq (valid_ofEpochDay _) h (toEpochDay_ofEpochDay _)

/-! ## Months on -/

theorem monthNumber_addMonths (d : Date) (months : Int) :
    (d.addMonths months).monthNumber = d.monthNumber + months := by
  simp only [addMonths, monthNumber, Nat.add_sub_cancel]
  omega

theorem valid_addMonths {d : Date} (h : 1 ≤ d.day) (months : Int) :
    (d.addMonths months).valid = true := by
  have hmonth : ((12 * d.year + (d.month - 1 : Nat) + months) % 12).toNat < 12 := by omega
  have hlength := monthLength_pos ((12 * d.year + (d.month - 1 : Nat) + months) / 12) hmonth
  rw [valid_iff]
  simp only [addMonths]
  omega

/-- Months on is the date of the month so many months on that has the same day, or the
last day of that month if it has no such day. -/
theorem addMonths_eq_iff {d e : Date} (he : e.valid = true) {months : Int} :
    d.addMonths months = e ↔ e.monthNumber = d.monthNumber + months ∧
      e.day = min d.day (monthLength e.year e.month) := by
  constructor
  · rintro rfl
    exact ⟨monthNumber_addMonths d months, rfl⟩
  · rintro ⟨hnumber, hday⟩
    obtain ⟨hfirst, hlast, _⟩ := (valid_iff e).mp he
    simp only [monthNumber] at hnumber
    have hyear : (12 * d.year + (d.month - 1 : Nat) + months) / 12 = e.year := by omega
    have hmonth : ((12 * d.year + (d.month - 1 : Nat) + months) % 12).toNat + 1 = e.month := by
      omega
    simp only [addMonths, hyear, hmonth, ← hday]

end Date

end DruidPanels
