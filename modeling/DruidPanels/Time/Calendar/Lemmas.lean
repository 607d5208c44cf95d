import DruidPanels.Time.Calendar

/-! # Dates and day counts

**A day count is the count of its date**, and that date exists: `toEpochDay_ofEpochDay`
and `valid_ofEpochDay`. Both come from the same two steps as the definition, the
year of a day and the month of a day of the year. -/

namespace DruidPanels

open Calendar

namespace Calendar

theorem isLeap_iff (year : Int) :
    isLeap year = true ↔ year % 4 = 0 ∧ (year % 100 ≠ 0 ∨ year % 400 = 0) := by
  simp [isLeap]

theorem length_monthLengths (leap : Bool) : (monthLengths leap).length = 12 := by
  cases leap <;> rfl

/-- A year has 365 days, and one more in a leap year. -/
theorem sum_monthLengths (leap : Bool) :
    (monthLengths leap).foldr (· + ·) 0 = 365 + leap.toNat := by
  cases leap <;> rfl

end Calendar

namespace Date

/-! ## The year of a day -/

theorem yearInCycle_days {n : Nat} (h : n < 146097) :
    365 * (yearInCycle n).1 + (yearInCycle n).1 / 4 - (yearInCycle n).1 / 100
        + (yearInCycle n).2 = n ∧
      (yearInCycle n).1 < 400 ∧ (yearInCycle n).2 ≤ 365 ∧
      ((yearInCycle n).2 = 365 →
        ((yearInCycle n).1 + 1) % 4 = 0 ∧
          (((yearInCycle n).1 + 1) % 100 ≠ 0 ∨ ((yearInCycle n).1 + 1) % 400 = 0)) := by
  simp only [yearInCycle]
  generalize hcentury : min 3 (n / 36524) = century
  generalize hspan : (n - 36524 * century) / 1461 = span
  generalize hyear : min 3 ((n - 36524 * century - 1461 * span) / 365) = year
  have h1 : century ≤ 3 := by omega
  have h2 : span ≤ 24 := by omega
  have h3 : year ≤ 3 := by omega
  have by4 : (100 * century + 4 * span + year) / 4 = 25 * century + span := by omega
  have by100 : (100 * century + 4 * span + year) / 100 = century := by omega
  rw [by4, by100]
  refine ⟨by omega, by omega, by omega, fun hr => ⟨by omega, ?_⟩⟩
  by_cases hlast : span = 24 ∧ century = 3
  · right; omega
  · left; omega

theorem daysBeforeYear_yearOfDay (n : Int) :
    daysBeforeYear (yearOfDay n).1 + (yearOfDay n).2 = n := by
  obtain ⟨hn, hm, _, _⟩ := yearInCycle_days (n := (n % 146097).toNat) (by omega)
  simp only [yearOfDay, daysBeforeYear]
  generalize (yearInCycle (n % 146097).toNat).2 = day at *
  generalize (yearInCycle (n % 146097).toNat).1 = year at *
  generalize hcycle : n / 146097 = cycle
  have h : (400 * cycle + (year : Int) + 1 - 1) = 400 * cycle + year := by omega
  have by4 : (400 * cycle + (year : Int)) / 4 = 100 * cycle + (year / 4 : Nat) := by omega
  have by100 : (400 * cycle + (year : Int)) / 100 = 4 * cycle + (year / 100 : Nat) := by omega
  have by400 : (400 * cycle + (year : Int)) / 400 = cycle := by omega
  rw [h, by4, by100, by400]
  omega

theorem yearOfDay_lt (n : Int) :
    (yearOfDay n).2 < 365 + (isLeap (yearOfDay n).1).toNat := by
  obtain ⟨_, hm, hr, hlast⟩ := yearInCycle_days (n := (n % 146097).toNat) (by omega)
  simp only [yearOfDay]
  by_cases h : (yearInCycle (n % 146097).toNat).2 = 365
  · have hleap : isLeap (400 * (n / 146097) + (yearInCycle (n % 146097).toNat).1 + 1) = true := by
      rw [isLeap_iff]
      have := hlast h
      omega
    rw [hleap, h]
    decide
  · omega

/-! ## The month of a day -/

/-- A day falls within its month, after all days of the earlier months. -/
theorem monthOfDay_sound (first : Nat) (lengths : List Nat) (n : Nat)
    (h : n < lengths.foldr (· + ·) 0) :
    first ≤ (monthOfDay first lengths n).1 ∧
      (monthOfDay first lengths n).1 < first + lengths.length ∧
      (monthOfDay first lengths n).2 < lengths.getD ((monthOfDay first lengths n).1 - first) 0 ∧
      (lengths.take ((monthOfDay first lengths n).1 - first)).foldr (· + ·) 0
        + (monthOfDay first lengths n).2 = n := by
  induction lengths generalizing first n with
  | nil => simp at h
  | cons length rest ih =>
    simp only [monthOfDay]
    split
    · next hlt => simp [hlt]
    · next hge =>
      have hrest : n - length < rest.foldr (· + ·) 0 := by
        simp only [List.foldr_cons] at h
        omega
      obtain ⟨h1, h2, h3, h4⟩ := ih (first + 1) (n - length) hrest
      generalize (monthOfDay (first + 1) rest (n - length)).2 = day at *
      generalize (monthOfDay (first + 1) rest (n - length)).1 = month at *
      obtain ⟨k, rfl⟩ : ∃ k, month = first + 1 + k := ⟨month - (first + 1), by omega⟩
      rw [show first + 1 + k - (first + 1) = k by omega] at h3 h4
      rw [show first + 1 + k - first = k + 1 by omega]
      simp only [List.getD_cons_succ, List.take_succ_cons, List.foldr_cons, List.length_cons]
      omega

/-! ## Dates of day counts -/

theorem toEpochDay_ofEpochDay (n : Int) : (ofEpochDay n).toEpochDay = n := by
  have hyear := daysBeforeYear_yearOfDay (n + epochOffset)
  have hmonth := monthOfDay_sound 1 _ _
    (Nat.lt_of_lt_of_eq (yearOfDay_lt (n + epochOffset)) (sum_monthLengths _).symm)
  simp only [ofEpochDay, toEpochDay, daysBeforeMonth]
  omega

theorem valid_ofEpochDay (n : Int) : (ofEpochDay n).valid = true := by
  have hmonth := monthOfDay_sound 1 _ _
    (Nat.lt_of_lt_of_eq (yearOfDay_lt (n + epochOffset)) (sum_monthLengths _).symm)
  rw [length_monthLengths] at hmonth
  obtain ⟨h1, h2, h3, _⟩ := hmonth
  simp only [ofEpochDay, valid, monthLength, Bool.and_eq_true]
  exact ⟨⟨⟨decide_eq_true h1, decide_eq_true (by omega)⟩, decide_eq_true (by omega)⟩,
    decide_eq_true h3⟩

end Date

end DruidPanels
