import DruidPanels.Json.Value

/-! # Metrics of a query

The metrics that a query answers are named by its aggregators and
post-aggregators. Those that only feed others stay out of sight. -/

namespace DruidPanels

namespace Metrics

/-- An entry whose values are shown: no folded histogram, and not hidden. -/
def visible (entry : Json) : Bool :=
  let folded := (entry.get? "type").bind Json.text? = some "approxHistogramFold"
  let hidden := ((entry.get? "hidden").bind Json.bool?).getD false
  !folded && !hidden

/-- The name of a visible entry that has one. -/
def name? (entry : Json) : Option String :=
  if visible entry then (entry.get? "name").bind Json.text? else none

/-- The names of the visible entries, aggregators first, each where it first occurs. -/
def names (aggregations postAggregations : List Json) : List String :=
  ((aggregations ++ postAggregations).filterMap name?).eraseDups

end Metrics

end DruidPanels
