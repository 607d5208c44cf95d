import DruidPanels.Fault
import DruidPanels.Text.Blank
import DruidPanels.Text.Cut
import DruidPanels.Time.Notation
import DruidPanels.Time.Steps

/-! # Time expressions

A dashboard names the edges of a range by expressions: `now` or a written instant
followed by `||`, each with date math after it, or a written instant alone. A
range is resolved by rounding its first edge down and its second edge up. -/

namespace DruidPanels

/-- Why an expression or a range is refused. -/
inductive TimeError where
  | empty
  | invalid (expression : String)
  | inverted
deriving DecidableEq, Repr

namespace TimeError

def message : TimeError → String
  | .empty => "empty time value"
  | .invalid expression => "invalid time expression '" ++ expression ++ "'"
  | .inverted => "time range start must be before end"

/-- A refusal makes the request invalid. -/
def fault (e : TimeError) : Fault := .error (.invalidRequest e.message)

end TimeError

namespace TimeExpression

/-- The part of an expression that counts: without the blanks around it, and then
without the quotes around that. -/
def core (expression : String) : List Char :=
  Text.dropEnds (· == '"') (Text.dropEnds Text.isBlank expression.toList)

/-- The fault of a step, in an expression. -/
def stepFault (expression : String) : StepFault → Fault
  | .unrepresentable => (TimeError.invalid expression).fault
  | .abort => .abort

/-- The instant that an expression names, with `now` as the clock. -/
def resolve (now : Instant) (rounding : Rounding) (expression : String) : Except Fault Instant :=
  let cs := core expression
  let shown := String.ofList cs
  let invalid : Except Fault Instant := .error (TimeError.invalid shown).fault
  let run (t : Instant) (steps : List Char) :=
    (Step.runText rounding t steps).mapError (stepFault shown)
  if cs.isEmpty then .error TimeError.empty.fault
  else
    match Text.after? "now".toList cs with
    | some steps => run now steps
    | none =>
      match Text.splitAt? ['|', '|'] cs with
      | some (anchor, steps) =>
        match Instant.parse? (String.ofList anchor) with
        | some t => run t steps
        | none => invalid
      | none =>
        match Instant.parse? shown with
        | some t => .ok t
        | none => invalid

end TimeExpression

/-- A range of time that is not empty. -/
structure TimeRange where
  start : Instant
  stop : Instant
  ordered : start < stop
deriving Repr

namespace TimeRange

def of (start stop : Instant) : Except Fault TimeRange :=
  if h : start < stop then .ok ⟨start, stop, h⟩ else .error TimeError.inverted.fault

/-- The range between two expressions, the first rounded down and the second up. -/
def resolve (now : Instant) (start stop : String) : Except Fault TimeRange := do
  let first ← TimeExpression.resolve now .down start
  let last ← TimeExpression.resolve now .up stop
  of first last

end TimeRange

end DruidPanels
