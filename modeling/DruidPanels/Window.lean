import DruidPanels.Granularity
import DruidPanels.Time.Expression

/-! # Query windows

A window is what is asked of the broker for a range: a granularity, and the range
with its start moved onto a bucket edge. The granularity is the finest whose
buckets fit a budget of points. -/

namespace DruidPanels

namespace PointBudget

/-- The smaller of two budgets; an absent one does not bind. -/
def smaller : Option Nat → Option Nat → Option Nat
  | some a, some b => some (min a b)
  | some a, none => some a
  | none, b => b

end PointBudget

namespace BucketWidth

/-- The finest width of which at most `budget` buckets cover the seconds from `start`
to `stop`, or the coarsest if there is none. -/
def finest (start stop : Instant) (budget : Option Nat) : BucketWidth :=
  let interval := max 0 (stop.seconds - start.seconds)
  match budget with
  | none => .minute
  | some budget => (all.find? fun w => w.bucketsFor interval ≤ (budget : Int)).getD .day

/-- The least multiple of a width that is not before `t`, counted in milliseconds from
1970; `t` itself if the calendar has no such instant. -/
def ceiling (w : BucketWidth) (t : Instant) : Instant :=
  let full := t.millis / w.millis
  let buckets := if t.millis % w.millis = 0 then full else full + 1
  (Instant.ofMillis? (buckets * w.millis)).getD t

end BucketWidth

namespace Granularity

/-- Moves a start onto a bucket edge: back to the start of its UTC day for days,
forward for finer widths. Other granularities leave it where it is. -/
def alignStart (start : Instant) : Granularity → Instant
  | .simple .day => start.startOfDay
  | .simple w => w.ceiling start
  | _ => start

/-- Days become days of `timeZone`, if there is one. -/
def inTimeZone (timeZone : Option String) : Granularity → Granularity
  | .simple .day =>
    match timeZone with
    | some zone => daily zone
    | none => .simple .day
  | g => g

end Granularity

/-- The interval between two instants, as the broker takes it. -/
def intervalText (start stop : Instant) : String := start.rfc3339 ++ "/" ++ stop.rfc3339

/-- What is asked of the broker for a range. -/
structure Window where
  granularity : Granularity
  start : Instant
  stop : Instant
deriving Repr

namespace Window

/-- The intervals of the window: always one. -/
def intervals (w : Window) : List String := [intervalText w.start w.stop]

/-- Plans the window of a range. A named granularity overrides the budget. A start
that would be moved past the end is held there. -/
def plan (range : TimeRange) (budget : Option Nat) (name timeZone : Option String) : Window :=
  let granularity :=
    match name with
    | some name => Granularity.ofName name
    | none => .simple (BucketWidth.finest range.start range.stop budget)
  let aligned := granularity.alignStart range.start
  { granularity := granularity.inTimeZone timeZone
    start := if range.stop < aligned then range.stop else aligned
    stop := range.stop }

end Window

end DruidPanels
