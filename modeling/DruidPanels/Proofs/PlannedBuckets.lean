import DruidPanels.Proofs.StartEdges
import Mathlib.Data.Int.Interval
import Mathlib.Data.Set.Card

/-! # Buckets of a planned window

The broker counts its buckets from 1970, and a window costs a point for each bucket that
it touches. A width that fits a budget is chosen for the seconds of the range alone; the
window starts on a bucket edge and may be longer than that by part of a second, or by
part of a day for days. So a planned window touches one bucket more than the budget at
most (`encard_touched_plan`). -/

namespace DruidPanels

namespace BucketWidth

def nanos (w : BucketWidth) : Int := w.seconds * Instant.nanosPerSecond

theorem nanos_pos (w : BucketWidth) : 0 < w.nanos := Int.mul_pos w.seconds_pos (by decide)

theorem bucketsFor_le_iff {w : BucketWidth} {interval budget : Int} :
    w.bucketsFor interval ≤ budget ↔ interval ≤ budget * w.seconds := by
  have := w.seconds_pos
  rw [bucketsFor, ← Int.lt_add_one_iff, Int.ediv_lt_iff_lt_mul w.seconds_pos, Int.add_mul]
  omega

/-- The edge that a start is moved to is the first one from the start on. Where the
calendar ends before it, the start stays. -/
theorem ceiling_cases (w : BucketWidth) (t : Instant) :
    ∃ edge : Int, t.millis ≤ edge * w.millis ∧ edge * w.millis < t.millis + w.millis ∧
      ((w.ceiling t).nanosFrom1970 = edge * w.nanos ∨
        w.ceiling t = t ∧ Instant.lastSecond < edge * w.seconds) := by
  obtain ⟨hle, hlt⟩ := w.nextEdge_lt t
  refine ⟨_, hle, hlt, ?_⟩
  rcases w.ceiling_cases_nextEdge t with hedge | ⟨hstays, hend⟩
  · left
    rw [hedge.nanosFrom1970_eq]
    simp only [nextEdge, millis, nanos, Instant.nanosPerSecond, ← Int.mul_assoc]
    omega
  · right
    refine ⟨hstays, ?_⟩
    simp only [nextEdge, millis, ← Int.mul_assoc] at hend ⊢
    omega

end BucketWidth

namespace Window

/-- The window holds a nanosecond of this bucket; buckets of a width follow one another
from 1970 on and before it. -/
def Touches (window : Window) (w : BucketWidth) (bucket : Int) : Prop :=
  ∃ n, window.start.nanosFrom1970 ≤ n ∧ n < window.stop.nanosFrom1970 ∧
    bucket * w.nanos ≤ n ∧ n < (bucket + 1) * w.nanos

/-- A window that lies within so many buckets touches no others. -/
theorem encard_touched_le {window : Window} {w : BucketWidth} (first : Int) (count : Nat)
    (hstart : first * w.nanos ≤ window.start.nanosFrom1970)
    (hstop : window.stop.nanosFrom1970 ≤ (first + count) * w.nanos) :
    {bucket | window.Touches w bucket}.encard ≤ count := by
  have hnanos := w.nanos_pos
  have hsubset : {bucket | window.Touches w bucket} ⊆ Finset.Ico first (first + count) := by
    rintro bucket ⟨n, hfrom, hto, hlow, hhigh⟩
    have hfirst : first < bucket + 1 := Int.lt_of_mul_lt_mul_right (by omega) hnanos.le
    have hlast : bucket < first + count := Int.lt_of_mul_lt_mul_right (by omega) hnanos.le
    rw [Finset.coe_Ico]
    exact ⟨by omega, hlast⟩
  calc {bucket | window.Touches w bucket}.encard
      ≤ (Finset.Ico first (first + count) : Set Int).encard := Set.encard_le_encard hsubset
    _ = count := by rw [Set.encard_coe_eq_coe_finsetCard, Int.card_Ico]; simp

/-- A window that is over when it starts touches none. -/
theorem encard_touched_of_stop_le {window : Window} {w : BucketWidth}
    (h : window.stop.nanosFrom1970 ≤ window.start.nanosFrom1970) :
    {bucket | window.Touches w bucket}.encard = 0 := by
  rw [Set.encard_eq_zero]
  ext bucket
  constructor
  · rintro ⟨n, hfrom, hto, _⟩
    omega
  · nofun

/-- A window that starts on midnight holds part of a day more than the range. -/
theorem encard_touched_of_startOfDay {window : Window} {t : Instant} {budget : Nat}
    (hstart : window.start = t.startOfDay) (hstop : window.stop.isLeap = false)
    (hfits : window.stop.seconds - t.seconds ≤ budget * BucketWidth.day.seconds) :
    {bucket | window.Touches .day bucket}.encard ≤ (budget + 1 : Nat) := by
  have hmidnight : window.start.nanosFrom1970 = t.epochDay * BucketWidth.day.nanos := by
    rw [hstart]
    simp only [Instant.nanosFrom1970, Instant.startOfDay, BucketWidth.nanos, BucketWidth.seconds,
      Instant.secondsPerDay, Instant.nanosPerSecond]
    omega
  refine encard_touched_le t.epochDay (budget + 1) hmidnight.ge ?_
  have hnanos := Instant.nanos_lt_of_not_leap hstop
  simp only [Instant.nanosFrom1970, Instant.epochDay, Instant.secondsPerDay, BucketWidth.nanos,
    BucketWidth.seconds, Instant.nanosPerSecond] at *
  push_cast
  omega

/-- A window that starts on an edge touches as many buckets as widths reach from the
millisecond of the range's start to its end. -/
theorem encard_touched_of_ceiling {window : Window} {w : BucketWidth} {t : Instant}
    {count : Nat} (hstart : window.start = w.ceiling t) (hstop : window.stop.isLeap = false)
    (hpos : 0 < count)
    (hreach : window.stop.nanosFrom1970 ≤ t.millis * 1000000 + count * w.nanos) :
    {bucket | window.Touches w bucket}.encard ≤ count := by
  obtain ⟨edge, hle, hlt, hedge | ⟨hstays, hend⟩⟩ := w.ceiling_cases t
  · refine encard_touched_le edge count (hstart ▸ hedge.ge) (hreach.trans ?_)
    simp only [BucketWidth.nanos, BucketWidth.millis, Instant.nanosPerSecond, Int.add_mul,
      ← Int.mul_assoc] at *
    omega
  · -- the last bucket of the calendar holds the whole range
    have hlast := window.stop.le_lastSecond
    have hnanos := Instant.nanos_lt_of_not_leap hstop
    refine encard_touched_le (edge - 1) count ?_ ?_
    · rw [hstart, hstays]
      simp only [BucketWidth.nanos, BucketWidth.millis, Instant.nanosFrom1970, Instant.millis,
        Instant.nanosPerSecond, Int.sub_mul, ← Int.mul_assoc] at *
      omega
    · calc window.stop.nanosFrom1970
          ≤ edge * w.nanos := by
            simp only [BucketWidth.nanos, Instant.nanosFrom1970, Instant.nanosPerSecond,
              ← Int.mul_assoc] at *
            omega
        _ ≤ (edge - 1 + count) * w.nanos :=
            Int.mul_le_mul_of_nonneg_right (by omega) w.nanos_pos.le

/-- The two bounds for a start that is moved onto an edge and not held at the end. -/
theorem encard_touched_of_alignStart {window : Window} {w : BucketWidth} {range : TimeRange}
    {budget : Nat} (hstart : window.start = (Granularity.simple w).alignStart range.start)
    (hend : window.stop = range.stop) (hstop : range.stop.isLeap = false)
    (hfits : range.stop.seconds - range.start.seconds ≤ budget * w.seconds) :
    {bucket | window.Touches w bucket}.encard ≤ (budget + 1 : Nat) ∧
      (w ≠ .day → range.start.nanos % 1000000 = 0 → range.stop.nanos ≤ range.start.nanos →
        {bucket | window.Touches w bucket}.encard ≤ budget) := by
  rw [← hend] at hstop hfits ⊢
  by_cases hday : w = .day
  · subst hday
    exact ⟨encard_touched_of_startOfDay hstart hstop hfits, fun hfiner => absurd rfl hfiner⟩
  · have hceiling : window.start = w.ceiling range.start :=
      hstart.trans (Granularity.alignStart_of_ne_day hday range.start)
    have hseconds := w.seconds_pos
    constructor
    · refine encard_touched_of_ceiling hceiling hstop (Nat.succ_pos _) ?_
      have hnanos := Instant.nanos_lt_of_not_leap hstop
      simp only [Instant.nanosFrom1970, Instant.millis, BucketWidth.nanos, Instant.nanosPerSecond,
        Nat.cast_add, Int.add_mul, ← Int.mul_assoc] at *
      omega
    · intro _ hwhole hsub
      -- the range is not empty, so it takes a second and the budget a point at least
      have hordered : range.start.seconds < window.stop.seconds := by
        have := range.ordered
        rw [← hend] at this
        rcases this with hlt | ⟨_, hnanos⟩ <;> omega
      have hpos : 0 < budget := by
        rcases Nat.eq_zero_or_pos budget with hzero | hpos
        · rw [hzero] at hfits
          omega
        · exact hpos
      refine encard_touched_of_ceiling hceiling hstop hpos ?_
      simp only [Instant.nanosFrom1970, Instant.millis, BucketWidth.nanos, Instant.nanosPerSecond,
        ← Int.mul_assoc] at *
      omega

/-- **A planned window touches at most one bucket more than its budget.** Let the width
that is chosen fit the budget on the seconds of a range that ends in no leap second. Then
the window touches at most one bucket of this width more than the budget allows; and at most
as many as it allows if the width is finer than days, the range starts on a millisecond
and it ends no later in its last second than it starts in its first. -/
theorem encard_touched_plan (range : TimeRange) (budget : Nat) (zone : Option String)
    (hstop : range.stop.isLeap = false)
    (hfits : (BucketWidth.finest range.start range.stop (some budget)).bucketsFor
      (range.stop.seconds - range.start.seconds) ≤ budget) :
    let w := BucketWidth.finest range.start range.stop (some budget)
    let touched := {bucket | (plan range (some budget) none zone).Touches w bucket}
    touched.encard ≤ (budget + 1 : Nat) ∧
      (w ≠ .day → range.start.nanos % 1000000 = 0 → range.stop.nanos ≤ range.start.nanos →
        touched.encard ≤ budget) := by
  intro w touched
  have hinterval := BucketWidth.bucketsFor_le_iff.mp hfits
  have hwindow : (plan range (some budget) none zone).start =
      if range.stop < (Granularity.simple w).alignStart range.start then range.stop
      else (Granularity.simple w).alignStart range.start := rfl
  by_cases hheld : range.stop < (Granularity.simple w).alignStart range.start
  · -- the start is held at the end, so there is nothing in between
    have hnone : touched.encard = 0 :=
      encard_touched_of_stop_le (by rw [hwindow, if_pos hheld]; rfl)
    simp [hnone]
  · exact encard_touched_of_alignStart (hwindow.trans (if_neg hheld)) rfl hstop hinterval

/-- Two minutes from a minute and a half before 1970 on, half a second late. -/
def twoMinutes : TimeRange where
  start := ⟨-90, 500000000, by decide, by decide, by decide⟩
  stop := ⟨30, 500000000, by decide, by decide, by decide⟩
  ordered := .inl (by decide)

theorem encard_touched_twoMinutes :
    twoMinutes.stop.isLeap = false ∧
      (BucketWidth.finest twoMinutes.start twoMinutes.stop (some 2)).bucketsFor
        (twoMinutes.stop.seconds - twoMinutes.start.seconds) ≤ 2 ∧
      BucketWidth.finest twoMinutes.start twoMinutes.stop (some 2) = .minute ∧
      twoMinutes.start.nanos % 1000000 = 0 ∧ twoMinutes.stop.nanos ≤ twoMinutes.start.nanos ∧
      {bucket | (plan twoMinutes (some 2) none none).Touches .minute bucket}.encard ≤ (2 : Nat) := by
  have hminute : BucketWidth.finest twoMinutes.start twoMinutes.stop (some 2) = .minute := by
    decide
  have hbounds := encard_touched_plan twoMinutes 2 none (by decide) (by decide)
  rw [hminute] at hbounds
  exact ⟨by decide, by decide, hminute, by decide, by decide,
    hbounds.2 (by decide) (by decide) (by decide)⟩

end Window

end DruidPanels
