import DruidPanels.Proofs.Fields
import DruidPanels.Reply.Pivot

/-! # Bodies of native queries

A native query is a value with fields of its own; a raw query is the object that is
posted. What a pivot reads in the body of a native query is what that query holds, so
the two are pivoted alike (`toSeries_raw_body`). -/

namespace DruidPanels

/-! ## The parts of a body -/

namespace QueryScope

def keys : List String := ["dataSource", "granularity", "intervals", "filter"]

theorem get?_toFields_eq_none (s : QueryScope) {key : String} (h : key ∉ keys) :
    Fields.get? s.toFields key = none := by
  simp only [keys, List.mem_cons, List.not_mem_nil, or_false, not_or] at h
  obtain ⟨h1, h2, h3, h4⟩ := h
  simp [toFields, h1, h2, h3, h4]

end QueryScope

namespace Aggregates

/-- A list that is left out reads as the empty one. -/
@[simp] theorem items_unlessEmpty? (list : List Json) :
    (Reply.orNull (unlessEmpty? list)).items = list := by
  cases list <;> rfl

theorem get?_toFields (a : Aggregates) (key : String) :
    Fields.get? a.toFields key =
      (if key = "aggregations" then unlessEmpty? a.aggregations else none).or
        (if key = "postAggregations" then unlessEmpty? a.postAggregations else none) := by
  simp [toFields]

end Aggregates

namespace NativeQuery

/-- What a query aggregates: nothing for a select query. -/
def aggregates : NativeQuery → Aggregates
  | .timeseries _ aggregates => aggregates
  | .topN _ aggregates _ _ _ => aggregates
  | .groupBy _ aggregates _ _ => aggregates
  | .select .. => ⟨[], []⟩

theorem get?_queryType (q : NativeQuery) :
    Fields.get? q.toFields "queryType" = some (.str q.typeName) := by
  simp [toFields]

/-- Only the aggregates of a query give entries under their two keys. -/
theorem get?_of_aggregates (q : NativeQuery) {key : String}
    (h : key = "aggregations" ∨ key = "postAggregations") :
    Fields.get? q.toFields key = Fields.get? q.aggregates.toFields key := by
  have hscope (s : QueryScope) : Fields.get? s.toFields key = none := by
    refine s.get?_toFields_eq_none ?_
    rcases h with rfl | rfl <;> decide
  rcases h with rfl | rfl <;> cases q <;> simp [toFields, rest, aggregates, hscope]
  all_goals rfl

theorem rawMetrics_toFields (q : NativeQuery) :
    Reply.rawMetrics q.toFields = q.aggregates.metrics := by
  unfold Reply.rawMetrics Reply.listUnder Aggregates.metrics
  rw [q.get?_of_aggregates (.inl rfl), q.get?_of_aggregates (.inr rfl)]
  simp [Aggregates.get?_toFields]

theorem get?_dimension {scope : QueryScope} {aggregates : Aggregates} {dimension : String}
    {metric : Option String} {threshold : Option Nat} :
    Fields.get? (topN scope aggregates dimension metric threshold).toFields "dimension" =
      some (.str dimension) := by
  have hscope : Fields.get? scope.toFields "dimension" = none :=
    scope.get?_toFields_eq_none (by decide)
  simp [toFields, rest, hscope, Aggregates.get?_toFields]

theorem get?_metric {scope : QueryScope} {aggregates : Aggregates} {dimension : String}
    {metric : Option String} {threshold : Option Nat} :
    Fields.get? (topN scope aggregates dimension metric threshold).toFields "metric" =
      metric.map .str := by
  have hscope : Fields.get? scope.toFields "metric" = none :=
    scope.get?_toFields_eq_none (by decide)
  simp [toFields, rest, hscope, Aggregates.get?_toFields]

theorem get?_dimensions {scope : QueryScope} {aggregates : Aggregates}
    {dimensions : List String} {limit : Option RowLimit} :
    Fields.get? (groupBy scope aggregates dimensions limit).toFields "dimensions" =
      some (.ofTexts dimensions) := by
  have hscope : Fields.get? scope.toFields "dimensions" = none :=
    scope.get?_toFields_eq_none (by decide)
  simp [toFields, rest, hscope, Aggregates.get?_toFields]

end NativeQuery

/-! ## Pivots -/

namespace Reply

theorem filterMap_outputName?_str (names : List String) :
    (names.map Json.str).filterMap outputName? = names := by
  induction names with
  | nil => rfl
  | cons name rest ih => simp [outputName?, ih]

/-- **Native and raw queries are pivoted alike.** A reply to a native query becomes the
same series, or the same fault, as if the body of the query had been a raw query. -/
theorem toSeries_raw_body (q : NativeQuery) (reply : Json) (now : Instant) :
    toSeries (.raw ((QuerySpec.native q).body .empty)) reply now =
      toSeries (.native q) reply now := by
  change raw q.toFields reply = _
  unfold raw
  rw [q.get?_queryType]
  -- the type that is read back selects the pivot that the constructor has
  cases q with
  | timeseries scope aggregates =>
    change timeseries reply (rawMetrics _) = _
    rw [NativeQuery.rawMetrics_toFields]
    rfl
  | topN scope aggregates dimension metric threshold =>
    change topN reply ((Option.bind _ _).getD "") ((Option.bind _ _).getD "") = _
    rw [NativeQuery.get?_dimension, NativeQuery.get?_metric]
    cases metric <;> rfl
  | groupBy scope aggregates dimensions limit =>
    change groupBy reply ((listUnder _ _).filterMap _) (rawMetrics _) = _
    rw [NativeQuery.rawMetrics_toFields, listUnder, NativeQuery.get?_dimensions]
    change groupBy reply ((dimensions.map Json.str).filterMap outputName?) _ = _
    rw [filterMap_outputName?_str]
    rfl
  | select scope dimensions metrics pageSize => rfl

end Reply

end DruidPanels
