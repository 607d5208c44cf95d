import DruidPanels.Reply.Timestamp

/-! # Whole seconds

Every time in a reply is a number that sixty-four bits can hold. So is the start of its
second, but for times less than a second above the least number. To cut these is abandoned,
and the cut of all others is exact (`cutToSecond_eq`). -/

namespace DruidPanels

namespace Word

theorem fits_iff {n : Int} : fits n = true ↔ least ≤ n ∧ n ≤ greatest := by
  rw [fits, Bool.and_eq_true, decide_eq_true_iff, decide_eq_true_iff]

theorem saturate_fits (n : Int) : least ≤ saturate n ∧ saturate n ≤ greatest := by
  simp only [saturate, least, greatest]
  omega

theorem saturate_eq_self {n : Int} (hleast : least ≤ n) (hgreatest : n ≤ greatest) :
    saturate n = n := by
  simp only [saturate]
  omega

end Word

theorem Instant.millis_fits (t : Instant) : Word.least ≤ t.millis ∧ t.millis ≤ Word.greatest := by
  have hfirst := t.firstSecond_le
  have hlast := t.le_lastSecond
  have hnanos := t.nanos_lt
  simp only [firstSecond, lastSecond, nanosPerSecond] at hfirst hlast hnanos
  simp only [millis, Word.least, Word.greatest]
  omega

namespace Timestamp

/-- The least start of a second that sixty-four bits can hold, in milliseconds. -/
def leastSecond : Int := -9223372036854775000

theorem millis?_fits {value : Json} {ms : Int} (h : millis? value = some ms) :
    Word.least ≤ ms ∧ ms ≤ Word.greatest := by
  cases value with
  | num n =>
    cases h
    cases n <;> exact Word.saturate_fits _
  | str s =>
    obtain ⟨t, _, rfl⟩ := Option.map_eq_some_iff.mp h
    exact t.millis_fits
  | null | bool | arr | obj => cases h

theorem fits_second_iff {ms : Int} (hgreatest : ms ≤ Word.greatest) :
    Word.fits (ms / 1000 * 1000) = true ↔ leastSecond ≤ ms := by
  simp only [Word.fits_iff, Word.least, Word.greatest, leastSecond] at *
  omega

theorem cutToSecond_of_le {ms : Int} (hleast : leastSecond ≤ ms) (hgreatest : ms ≤ Word.greatest) :
    cutToSecond ms = .ok (ms / 1000 * 1000) :=
  if_pos ((fits_second_iff hgreatest).mpr hleast)

theorem cutToSecond_eq {value : Json} {ms : Int} (h : millis? value = some ms)
    (hleast : leastSecond ≤ ms) : cutToSecond ms = .ok (ms / 1000 * 1000) :=
  cutToSecond_of_le hleast (millis?_fits h).2

/-- The start of a second that sixty-four bits cannot hold is not computed. -/
theorem cutToSecond_of_lt {ms : Int} (hlt : ms < leastSecond) :
    cutToSecond ms = .error .abort := by
  have hgreatest : ms ≤ Word.greatest := Int.le_trans (Int.le_of_lt hlt) (by decide)
  exact if_neg (mt (fits_second_iff hgreatest).mp (Int.not_le.mpr hlt))

/-- No instant of the calendar lies before the least second. -/
theorem leastSecond_le_millis (t : Instant) : leastSecond ≤ t.millis := by
  have hfirst := t.firstSecond_le
  simp only [Instant.firstSecond] at hfirst
  simp only [leastSecond, Instant.millis]
  omega

end Timestamp

end DruidPanels
