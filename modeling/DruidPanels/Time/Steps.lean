import DruidPanels.Text.Digits
import DruidPanels.Time.Instant
import DruidPanels.Word

/-! # Steps of date math

An offset text such as `-6h/d` is a sequence of steps, each a shift by an amount
of a unit or a rounding to a unit. The text is first split into steps and then
run from left to right; a text that is not all steps is run as far as it goes
before it is refused, since a step before its fault may have to be abandoned. -/

namespace DruidPanels

/-- A unit of date math. -/
inductive TimeUnit where
  | second | minute | hour | day | week | month | year
deriving DecidableEq, Repr

namespace TimeUnit

/-- The unit that a letter stands for: `m` is a minute and `M` a month. -/
def ofChar? : Char → Option TimeUnit
  | 's' => some .second
  | 'm' => some .minute
  | 'h' => some .hour
  | 'H' => some .hour
  | 'd' => some .day
  | 'w' => some .week
  | 'M' => some .month
  | 'y' => some .year
  | _ => none

/-- How far one unit reaches: a fixed number of seconds or of calendar months. -/
inductive Reach where
  | seconds (count : Int)
  | months (count : Int)
deriving DecidableEq, Repr

def reach : TimeUnit → Reach
  | .second => .seconds 1
  | .minute => .seconds 60
  | .hour => .seconds 3600
  | .day => .seconds 86400
  | .week => .seconds 604800
  | .month => .months 1
  | .year => .months 12

end TimeUnit

/-- One step of date math. -/
inductive Step where
  | shift (amount : Int) (unit : TimeUnit)
  | round (unit : TimeUnit)
deriving DecidableEq, Repr

/-- Which way a rounding goes. -/
inductive Rounding where
  /-- To the start of the unit. -/
  | down
  /-- To the last millisecond of the unit. -/
  | up
deriving DecidableEq, Repr

/-- Why a step has no result. -/
inductive StepFault where
  /-- The calendar has no such instant. -/
  | unrepresentable
  /-- The span of time, or the date a week starts with, cannot be computed at all. -/
  | abort
deriving DecidableEq, Repr

namespace Step

/-! ## Reading -/

/-- The greatest amount of a step. -/
def amountBound : Nat := Word.greatest.toNat

/-- The sign that opens a shift. -/
def sign? (c : Char) : Option Int :=
  if c = '+' then some 1 else if c = '-' then some (-1) else none

/-- The amount that a run of digits stands for; no digits stand for one. -/
def amount? (run : List Char) : Option Nat :=
  if run.isEmpty then some 1
  else if Text.readDigits run ≤ amountBound then some (Text.readDigits run)
  else none

/-- The first step of a text and what follows it. -/
def first? : List Char → Option (Step × List Char)
  | [] => none
  | '/' :: cs => do
    let unit ← TimeUnit.ofChar? (← cs.head?)
    return (.round unit, cs.tail)
  | c :: cs => do
    let sign ← sign? c
    let (run, cs) := Text.digits cs
    let amount ← amount? run
    let unit ← TimeUnit.ofChar? (← cs.head?)
    return (.shift (sign * amount) unit, cs.tail)

/-- The steps at the start of a text, at most `bound` of them, and whether they make
up all of it. -/
def readUpTo : Nat → List Char → List Step × Bool
  | _, [] => ([], true)
  | 0, _ :: _ => ([], false)
  | bound + 1, cs =>
    match first? cs with
    | some (step, rest) =>
      let (steps, complete) := readUpTo bound rest
      (step :: steps, complete)
    | none => ([], false)

/-- The steps at the start of a text, and whether they make up all of it. Every step
takes a character at least, so the length of the text bounds their number. -/
def readAll (cs : List Char) : List Step × Bool := readUpTo cs.length cs

/-! ## Running -/

/-- Shifts by more seconds than this cannot be computed: a span of time counts its
milliseconds in sixty-four bits. -/
def spanBound : Nat := Word.greatest.toNat / 1000

/-- An instant, or the fault that there is none. -/
def orUnrepresentable : Option Instant → Except StepFault Instant
  | some t => .ok t
  | none => .error .unrepresentable

def shiftBy (amount : Int) (unit : TimeUnit) (t : Instant) : Except StepFault Instant :=
  match unit.reach with
  | .seconds count =>
    if spanBound < (amount * count).natAbs then .error .abort
    else orUnrepresentable (t.addSeconds? (amount * count))
  | .months count => orUnrepresentable (t.addMonths? (amount * count))

/-- The start of the unit in which an instant falls. Seconds are counted from 1970,
and rounding a count to minutes and hours goes toward 1970. -/
def startOf (unit : TimeUnit) (t : Instant) : Except StepFault Instant :=
  match unit with
  | .second => orUnrepresentable (Instant.of? t.seconds 0)
  | .minute => orUnrepresentable (Instant.of? (t.seconds - t.seconds.tmod 60) 0)
  | .hour => orUnrepresentable (Instant.of? (t.seconds - t.seconds.tmod 3600) 0)
  | .day => .ok t.startOfDay
  | .week =>
    let monday := t.epochDay - daysSinceMonday t.epochDay
    match Instant.of? (monday * Instant.secondsPerDay) 0 with
    | some start => .ok start
    | none => .error .abort
  | .month => orUnrepresentable (Instant.ofDate? t.date.startOfMonth)
  | .year => orUnrepresentable (Instant.ofDate? t.date.startOfYear)

/-- Rounds to a unit: to its start, or to the millisecond before the next start. -/
def roundTo (rounding : Rounding) (unit : TimeUnit) (t : Instant) : Except StepFault Instant :=
  match rounding with
  | .down => startOf unit t
  | .up => do
    let start ← startOf unit t
    let next ← shiftBy 1 unit start
    orUnrepresentable (Instant.ofMillis? (next.millis - 1))

def run (rounding : Rounding) (t : Instant) : Step → Except StepFault Instant
  | .shift amount unit => shiftBy amount unit t
  | .round unit => roundTo rounding unit t

def runText (rounding : Rounding) (t : Instant) (cs : List Char) : Except StepFault Instant := do
  let (steps, complete) := readAll cs
  let result ← steps.foldlM (run rounding) t
  if complete then return result else throw .unrepresentable

end Step

end DruidPanels
