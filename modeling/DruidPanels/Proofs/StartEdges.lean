import DruidPanels.Proofs.TimeLine
import DruidPanels.Proofs.WholeSeconds
import DruidPanels.Window
import Mathlib.Order.Bounds.Basic

/-! # Edges that starts are moved to

A start is moved forward to the next edge of its width, back to the start of its day, or
not at all (`Granularity.Aligns`). The next edge is the least multiple of the width that is
not before the millisecond of the start, before 1970 and after it, and sixty-four bits hold
every number on the way to it. Only where the calendar ends before that edge the start
stays. So to move a start again changes nothing, and outside leap seconds a later start is
not moved before an earlier one (`alignStart_aligns`). -/

namespace DruidPanels

namespace Word

/-- The number, if sixty-four bits can hold it. -/
def held? (n : Int) : Option Int := if fits n then some n else none

theorem held?_eq_some {n : Int} (hleast : least ≤ n) (hgreatest : n ≤ greatest) :
    held? n = some n := by
  rw [held?, if_pos (fits_iff.mpr ⟨hleast, hgreatest⟩)]

end Word

namespace Instant

/-- The milliseconds of an instant, with the numbers on the way held to sixty-four bits. -/
def heldMillis? (t : Instant) : Option Int := do
  let start ← Word.held? (t.seconds * 1000)
  Word.held? (start + (t.nanos / 1000000 : Nat))

theorem heldMillis?_eq (t : Instant) : t.heldMillis? = some t.millis := by
  have hfirst := t.firstSecond_le
  have hlast := t.le_lastSecond
  have hmillis := t.millis_fits
  simp only [firstSecond, lastSecond] at hfirst hlast
  have hstart : Word.held? (t.seconds * 1000) = some (t.seconds * 1000) :=
    Word.held?_eq_some (by simp only [Word.least]; omega) (by simp only [Word.greatest]; omega)
  rw [heldMillis?, hstart]
  exact Word.held?_eq_some hmillis.1 hmillis.2

theorem AtMillis.ediv_le_lastSecond {ms : Int} {t : Instant} (h : t.AtMillis ms) :
    ms / 1000 ≤ lastSecond := by
  have hlast := t.le_lastSecond
  have hnanos := nanos_lt_of_not_leap h.not_leap
  rw [← h.millis_eq, millis]
  omega

/-! ## Days -/

theorem epochDay_startOfDay (t : Instant) : t.startOfDay.epochDay = t.epochDay :=
  Int.mul_ediv_cancel t.epochDay (by decide : secondsPerDay ≠ 0)

theorem startOfDay_startOfDay (t : Instant) : t.startOfDay.startOfDay = t.startOfDay :=
  eq_of_parts (congrArg (· * secondsPerDay) t.epochDay_startOfDay) rfl

theorem startOfDay_le_startOfDay {s t : Instant} (h : s ≤ t) : s.startOfDay ≤ t.startOfDay := by
  have hseconds := seconds_le_of_le h
  have hdays : s.epochDay * secondsPerDay ≤ t.epochDay * secondsPerDay := by
    simp only [epochDay, secondsPerDay]
    omega
  rcases Int.lt_or_eq_of_le hdays with hlt | heq
  · exact .inl hlt
  · exact .inr ⟨heq, Nat.le_refl 0⟩

/-- `s` is the first instant of the UTC day of `t`. -/
structure IsStartOfDay (t s : Instant) : Prop where
  date : s.date = t.date
  secondOfDay : s.secondOfDay = 0
  nanos : s.nanos = 0

theorem isStartOfDay_startOfDay (t : Instant) : IsStartOfDay t t.startOfDay where
  date := congrArg Date.ofEpochDay t.epochDay_startOfDay
  secondOfDay := Int.mul_emod_left t.epochDay secondsPerDay
  nanos := rfl

end Instant

namespace BucketWidth

/-! ## The next edge -/

theorem seconds_pos (w : BucketWidth) : 0 < w.seconds := by cases w <;> decide

theorem millis_pos (w : BucketWidth) : 0 < w.millis := Int.mul_pos w.seconds_pos (by decide)

/-- An edge of a width is a multiple of it, counted in milliseconds from 1970; this is the
first one that does not lie before the millisecond of `t`. -/
def IsNextEdge (w : BucketWidth) (t : Instant) (edge : Int) : Prop :=
  IsLeast {n | w.millis ∣ n ∧ t.millis ≤ n} edge

def nextEdge (w : BucketWidth) (t : Instant) : Int :=
  (if t.millis % w.millis = 0 then t.millis / w.millis else t.millis / w.millis + 1) * w.millis

theorem ceiling_eq (w : BucketWidth) (t : Instant) :
    w.ceiling t = (Instant.ofMillis? (w.nextEdge t)).getD t := rfl

theorem nextEdge_lt (w : BucketWidth) (t : Instant) :
    t.millis ≤ w.nextEdge t ∧ w.nextEdge t < t.millis + w.millis := by
  have hdiv := Int.mul_ediv_add_emod t.millis w.millis
  have hnonneg := Int.emod_nonneg t.millis w.millis_pos.ne'
  have hlt := Int.emod_lt_of_pos t.millis w.millis_pos
  rw [nextEdge]
  split
  · rw [Int.mul_comm]
    omega
  · rw [Int.add_mul, Int.mul_comm (t.millis / w.millis)]
    omega

theorem isNextEdge_nextEdge (w : BucketWidth) (t : Instant) : w.IsNextEdge t (w.nextEdge t) := by
  obtain ⟨hle, hlt⟩ := w.nextEdge_lt t
  refine ⟨⟨Int.dvd_mul_left _ _, hle⟩, ?_⟩
  rintro n ⟨⟨count, rfl⟩, hn⟩
  -- an earlier multiple would be a whole width earlier, and so before the start
  rw [Int.mul_comm w.millis count] at hn ⊢
  rw [nextEdge] at hlt ⊢
  refine Int.mul_le_mul_of_nonneg_right ?_ w.millis_pos.le
  refine Int.le_of_lt_add_one (Int.lt_of_mul_lt_mul_right ?_ w.millis_pos.le)
  rw [Int.add_mul]
  omega

theorem nextEdge_le_nextEdge {w : BucketWidth} {s t : Instant} (h : s.millis ≤ t.millis) :
    w.nextEdge s ≤ w.nextEdge t := by
  obtain ⟨⟨hdvd, hle⟩, _⟩ := w.isNextEdge_nextEdge t
  exact (w.isNextEdge_nextEdge s).2 ⟨hdvd, h.trans hle⟩

/-- An edge is its own next edge. -/
theorem nextEdge_of_atMillis {w : BucketWidth} {t s : Instant} (h : s.AtMillis (w.nextEdge t)) :
    w.nextEdge s = w.nextEdge t := by
  refine (w.isNextEdge_nextEdge s).unique ⟨⟨Int.dvd_mul_left _ _, h.millis_eq.le⟩, ?_⟩
  rintro n ⟨_, hn⟩
  exact h.millis_eq ▸ hn

/-- The calendar has no instant at an edge only if it ends before that edge. -/
theorem ofMillis?_nextEdge_eq_none_iff {w : BucketWidth} {t : Instant} :
    Instant.ofMillis? (w.nextEdge t) = none ↔ Instant.lastSecond < w.nextEdge t / 1000 := by
  have hle := (w.nextEdge_lt t).1
  have hfirst := t.firstSecond_le
  rw [Instant.ofMillis?, Instant.of?_eq_none_iff (by simp only [Instant.nanosPerSecond]; omega)]
  simp only [Instant.millis] at hle
  omega

/-- The next edge, with every number on the way to it held to sixty-four bits. -/
def heldEdge? (w : BucketWidth) (t : Instant) : Option Int := do
  let width ← Word.held? (w.seconds * 1000)
  let ms ← t.heldMillis?
  let full ← Word.held? (ms / width)
  let past ← Word.held? (ms % width)
  let buckets ← Word.held? (full + if past = 0 then 0 else 1)
  Word.held? (buckets * width)

theorem heldEdge?_eq (w : BucketWidth) (t : Instant) : w.heldEdge? t = some (w.nextEdge t) := by
  have hmillis : t.millis.natAbs ≤ 9000000000000000 := by
    have hfirst := t.firstSecond_le
    have hlast := t.le_lastSecond
    have hnanos := t.nanos_lt
    simp only [Instant.firstSecond, Instant.lastSecond, Instant.nanosPerSecond] at *
    simp only [Instant.millis]
    omega
  have hheld {n : Int} (h : n.natAbs ≤ 9000086400000000) : Word.held? n = some n :=
    Word.held?_eq_some (by simp only [Word.least]; omega) (by simp only [Word.greatest]; omega)
  have hpos := w.millis_pos
  have hwidth : w.millis ≤ 86400000 := by cases w <;> decide
  have hfull := Int.natAbs_ediv_le_natAbs t.millis w.millis
  have hpast := Int.emod_nonneg t.millis hpos.ne'
  have hpastLt := Int.emod_lt_of_pos t.millis hpos
  have hedge := w.nextEdge_lt t
  have hcount : t.millis / w.millis + (if t.millis % w.millis = 0 then 0 else 1) =
      if t.millis % w.millis = 0 then t.millis / w.millis else t.millis / w.millis + 1 := by
    split <;> omega
  have hbuckets := hheld (n := if t.millis % w.millis = 0 then t.millis / w.millis
    else t.millis / w.millis + 1) (by split <;> omega)
  change (Word.held? w.millis).bind _ = _
  rw [hheld (n := w.millis) (by omega), Option.bind_some, t.heldMillis?_eq]
  change (Word.held? (t.millis / w.millis)).bind _ = _
  rw [hheld (n := t.millis / w.millis) (by omega), Option.bind_some]
  change (Word.held? (t.millis % w.millis)).bind _ = _
  rw [hheld (n := t.millis % w.millis) (by omega), Option.bind_some]
  change (Word.held? (_ + if t.millis % w.millis = 0 then 0 else 1)).bind _ = _
  rw [hcount, hbuckets]
  exact hheld (n := w.nextEdge t) (by omega)

/-! ## Starts on edges -/

theorem ceiling_cases_nextEdge (w : BucketWidth) (t : Instant) :
    (w.ceiling t).AtMillis (w.nextEdge t) ∨
      w.ceiling t = t ∧ Instant.lastSecond < w.nextEdge t / 1000 := by
  rw [ceiling_eq]
  cases hfound : Instant.ofMillis? (w.nextEdge t) with
  | some s => exact .inl (Instant.ofMillis?_eq_some_iff.mp hfound)
  | none => exact .inr ⟨rfl, ofMillis?_nextEdge_eq_none_iff.mp hfound⟩

theorem ceiling_ceiling (w : BucketWidth) (t : Instant) :
    w.ceiling (w.ceiling t) = w.ceiling t := by
  rcases w.ceiling_cases_nextEdge t with hedge | ⟨hstays, _⟩
  · have hfound := Instant.ofMillis?_eq_some_iff.mpr hedge
    rw [ceiling_eq w (w.ceiling t), nextEdge_of_atMillis hedge, hfound, Option.getD_some]
  · rw [hstays, hstays]

theorem ceiling_le_ceiling {w : BucketWidth} {s t : Instant} (hs : s.isLeap = false)
    (ht : t.isLeap = false) (h : s ≤ t) : w.ceiling s ≤ w.ceiling t := by
  have hmillis := Instant.millis_le_millis hs ht h
  have hedges : w.nextEdge s ≤ w.nextEdge t := nextEdge_le_nextEdge hmillis
  rcases w.ceiling_cases_nextEdge s with hsEdge | ⟨hsStays, hsEnd⟩
  · rcases w.ceiling_cases_nextEdge t with htEdge | ⟨htStays, htEnd⟩
    · rw [Instant.le_iff_nanosFrom1970_le hsEdge.not_leap htEdge.not_leap,
        hsEdge.nanosFrom1970_eq, htEdge.nanosFrom1970_eq]
      omega
    · -- the edge of the earlier start is another one, and so it lies before the later start
      have hbefore : w.nextEdge s < t.millis := by
        by_contra hnot
        have hle : w.nextEdge t ≤ w.nextEdge s :=
          (w.isNextEdge_nextEdge t).2 ⟨Int.dvd_mul_left _ _, Int.not_lt.mp hnot⟩
        have hlast := hsEdge.ediv_le_lastSecond
        omega
      rw [htStays, Instant.le_iff_nanosFrom1970_le hsEdge.not_leap ht, hsEdge.nanosFrom1970_eq]
      rw [t.millis_eq] at hbefore
      omega
  · rcases w.ceiling_cases_nextEdge t with htEdge | ⟨htStays, _⟩
    · have hlast := htEdge.ediv_le_lastSecond
      omega
    · rwa [hsStays, htStays]

end BucketWidth

namespace Granularity

/-- Where a start is moved to: for days to the first instant of its day, for the finer
widths to their next edge, as long as the calendar has an instant there, and for all others
nowhere. -/
def Aligns (t s : Instant) : Granularity → Prop
  | .simple .day => t.IsStartOfDay s
  | .simple w => ∃ edge, w.IsNextEdge t edge ∧ w.heldEdge? t = some edge ∧
      (s.AtMillis edge ∨ s = t ∧ ∀ u : Instant, ¬ u.AtMillis edge)
  | _ => s = t

theorem aligns_of_ne_day {w : BucketWidth} (h : w ≠ .day) (t s : Instant) :
    (Granularity.simple w).Aligns t s ↔ ∃ edge, w.IsNextEdge t edge ∧ w.heldEdge? t = some edge ∧
      (s.AtMillis edge ∨ s = t ∧ ∀ u : Instant, ¬ u.AtMillis edge) := by
  cases w with
  | day => exact absurd rfl h
  | minute | fifteenMinutes | thirtyMinutes | hour => rfl

theorem alignStart_of_ne_day {w : BucketWidth} (h : w ≠ .day) (t : Instant) :
    (Granularity.simple w).alignStart t = w.ceiling t := by
  cases w with
  | day => exact absurd rfl h
  | minute | fifteenMinutes | thirtyMinutes | hour => rfl

theorem aligns_alignStart (g : Granularity) (t : Instant) : g.Aligns t (g.alignStart t) := by
  cases g with
  | all | period length zone | named name => rfl
  | simple w =>
    by_cases hday : w = .day
    · subst hday
      exact t.isStartOfDay_startOfDay
    · rw [aligns_of_ne_day hday, alignStart_of_ne_day hday]
      refine ⟨_, w.isNextEdge_nextEdge t, w.heldEdge?_eq t, ?_⟩
      rcases w.ceiling_cases_nextEdge t with hedge | ⟨hstays, hend⟩
      · exact .inl hedge
      · refine .inr ⟨hstays, fun u hu => ?_⟩
        have hnone := BucketWidth.ofMillis?_nextEdge_eq_none_iff.mpr hend
        cases (Instant.ofMillis?_eq_some_iff.mpr hu).symm.trans hnone

/-- **Starts are moved to the edge that is due, once and in order.** For every granularity,
a start that was moved is moved no further, and of two starts outside leap seconds the
later one is not moved before the earlier one. Every start comes to the first instant of
its UTC day, to the least multiple of the width not before its millisecond, computed
within sixty-four bits and unless the calendar ends before it, or stays where it is, as
its granularity is days, a finer width or any other. -/
theorem alignStart_aligns (g : Granularity) :
    (∀ t, g.alignStart (g.alignStart t) = g.alignStart t) ∧
      (∀ s t : Instant, s.isLeap = false → t.isLeap = false → s ≤ t →
        g.alignStart s ≤ g.alignStart t) ∧
      ∀ t, g.Aligns t (g.alignStart t) := by
  refine ⟨fun t => ?_, fun s t hs ht hle => ?_, g.aligns_alignStart⟩
  · cases g with
    | all | period length zone | named name => rfl
    | simple w =>
      by_cases hday : w = .day
      · subst hday
        exact t.startOfDay_startOfDay
      · simp only [alignStart_of_ne_day hday, w.ceiling_ceiling]
  · cases g with
    | all | period length zone | named name => exact hle
    | simple w =>
      by_cases hday : w = .day
      · subst hday
        exact Instant.startOfDay_le_startOfDay hle
      · simp only [alignStart_of_ne_day hday]
        exact BucketWidth.ceiling_le_ceiling hs ht hle

/-- Somewhat more than a quarter of an hour before 1970. -/
def quarterBefore1970 : Instant := ⟨-1000, 1, by decide, by decide, by decide⟩

def shortlyBefore1970 : Instant := ⟨-2, 999999999, by decide, by decide, by decide⟩

/-- Before 1970 too starts are moved forward, to the quarters of an hour after them. -/
theorem alignStart_before1970 :
    quarterBefore1970.isLeap = false ∧ shortlyBefore1970.isLeap = false ∧
      quarterBefore1970 ≤ shortlyBefore1970 ∧
      (simple .fifteenMinutes).alignStart quarterBefore1970 ≤
        (simple .fifteenMinutes).alignStart shortlyBefore1970 ∧
      ((simple .fifteenMinutes).alignStart quarterBefore1970).AtMillis (-900000) ∧
      (simple .fifteenMinutes).alignStart shortlyBefore1970 = .epoch := by
  obtain ⟨_, hmonotone, _⟩ := alignStart_aligns (simple .fifteenMinutes)
  have hle : quarterBefore1970 ≤ shortlyBefore1970 := .inl (by decide)
  exact ⟨by decide, by decide, hle, hmonotone _ _ (by decide) (by decide) hle,
    ⟨by decide, by decide⟩, by decide⟩

end Granularity

end DruidPanels
