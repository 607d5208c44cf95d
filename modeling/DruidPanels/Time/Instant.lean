import DruidPanels.Time.Calendar

/-! # Instants

An instant is a UTC second of the calendar and a count of nanoseconds in it.
Counts from a thousand million on stand for the leap second that follows the
second. Instants are ordered by second, then by count. -/

namespace DruidPanels

namespace Instant

/-- The first second of the calendar, counted from 1970. -/
def firstSecond : Int := -8334601228800

/-- The last second of the calendar, counted from 1970. -/
def lastSecond : Int := 8210266876799

def nanosPerSecond : Nat := 1000000000

def secondsPerDay : Int := 86400

end Instant

structure Instant where
  seconds : Int
  nanos : Nat
  firstSecond_le : Instant.firstSecond ≤ seconds
  le_lastSecond : seconds ≤ Instant.lastSecond
  nanos_lt : nanos < 2 * Instant.nanosPerSecond
deriving DecidableEq, Repr

namespace Instant

/-- The instant of these parts, if the calendar has it. -/
def of? (seconds : Int) (nanos : Nat) : Option Instant :=
  if h : firstSecond ≤ seconds ∧ seconds ≤ lastSecond ∧ nanos < 2 * nanosPerSecond then
    some ⟨seconds, nanos, h.1, h.2.1, h.2.2⟩
  else none

theorem of?_eq_some_iff {seconds : Int} {nanos : Nat} {t : Instant} :
    of? seconds nanos = some t ↔ t.seconds = seconds ∧ t.nanos = nanos := by
  unfold of?
  split
  · next h =>
    constructor
    · intro ht
      cases ht
      exact ⟨rfl, rfl⟩
    · rintro ⟨rfl, rfl⟩
      rfl
  · next h =>
    refine ⟨nofun, ?_⟩
    rintro ⟨rfl, rfl⟩
    exact absurd ⟨t.firstSecond_le, t.le_lastSecond, t.nanos_lt⟩ h

theorem of?_eq_none_iff {seconds : Int} {nanos : Nat} (h : nanos < 2 * nanosPerSecond) :
    of? seconds nanos = none ↔ seconds < firstSecond ∨ lastSecond < seconds := by
  rw [of?, dite_eq_right_iff]
  constructor
  · intro hnone
    have hout : ¬ (firstSecond ≤ seconds ∧ seconds ≤ lastSecond) :=
      fun hin => nomatch hnone ⟨hin.1, hin.2, h⟩
    omega
  · intro hout hin
    omega

/-- The start of 1970. -/
def epoch : Instant := ⟨0, 0, by decide, by decide, by decide⟩

instance : LT Instant :=
  ⟨fun a b => a.seconds < b.seconds ∨ a.seconds = b.seconds ∧ a.nanos < b.nanos⟩

instance : LE Instant :=
  ⟨fun a b => a.seconds < b.seconds ∨ a.seconds = b.seconds ∧ a.nanos ≤ b.nanos⟩

instance (a b : Instant) : Decidable (a < b) :=
  inferInstanceAs (Decidable (_ ∨ _))

instance (a b : Instant) : Decidable (a ≤ b) :=
  inferInstanceAs (Decidable (_ ∨ _))

/-- The nanoseconds belong to a leap second. -/
def isLeap (t : Instant) : Bool := nanosPerSecond ≤ t.nanos

/-- Whole milliseconds from 1970, rounded down. -/
def millis (t : Instant) : Int := t.seconds * 1000 + (t.nanos / 1000000 : Nat)

/-- The instant that many milliseconds from 1970, if the calendar has it. -/
def ofMillis? (ms : Int) : Option Instant := of? (ms / 1000) ((ms % 1000).toNat * 1000000)

/-- The day of an instant, counted from 1970-01-01. -/
def epochDay (t : Instant) : Int := t.seconds / secondsPerDay

def date (t : Instant) : Date := Date.ofEpochDay t.epochDay

/-- The second of the day of an instant. -/
def secondOfDay (t : Instant) : Int := t.seconds % secondsPerDay

/-- The first instant of a date, if the calendar has it. -/
def ofDate? (d : Date) : Option Instant := of? (d.toEpochDay * secondsPerDay) 0

/-- The start of the UTC day of an instant. -/
def startOfDay (t : Instant) : Instant where
  seconds := t.epochDay * secondsPerDay
  nanos := 0
  firstSecond_le := by
    have := t.firstSecond_le
    simp only [epochDay, secondsPerDay, firstSecond] at *
    omega
  le_lastSecond := by
    have := t.le_lastSecond
    simp only [epochDay, secondsPerDay, lastSecond] at *
    omega
  nanos_lt := by decide

/-- Moves by whole seconds. A move forward out of a leap second starts from the
second before it, a move back from the second after it. -/
def addSeconds? (t : Instant) (n : Int) : Option Instant :=
  if n = 0 then some t
  else if t.isLeap then
    of? (t.seconds + n + (if n < 0 then 1 else 0)) (t.nanos - nanosPerSecond)
  else of? (t.seconds + n) t.nanos

theorem addSeconds?_of_not_leap {t : Instant} (h : t.isLeap = false) (n : Int) :
    t.addSeconds? n = of? (t.seconds + n) t.nanos := by
  by_cases hn : n = 0
  · rw [addSeconds?, if_pos hn, hn, Int.add_zero]
    exact (of?_eq_some_iff.mpr ⟨rfl, rfl⟩).symm
  · rw [addSeconds?, if_neg hn, h, if_neg Bool.false_ne_true]

/-- Moves by whole months. The time of day is kept, the day of the month held to the
length of the month reached. -/
def addMonths? (t : Instant) (n : Int) : Option Instant :=
  of? ((t.date.addMonths n).toEpochDay * secondsPerDay + t.secondOfDay) t.nanos

end Instant

end DruidPanels
