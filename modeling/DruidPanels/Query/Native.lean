import DruidPanels.Filter
import DruidPanels.Query.Metrics
import DruidPanels.Window

/-! # Native queries

The bodies of the four query types that the broker knows natively. A field that is
absent or empty where the broker has a default is left out of the body. -/

namespace DruidPanels

structure QueryScope where
  dataSource : String
  granularity : Granularity
  intervals : List String
  filter : Option FilterTree

structure Aggregates where
  aggregations : List Json
  postAggregations : List Json

/-- The most rows of a query, and the columns by which they are ranked. -/
structure RowLimit where
  limit : Nat
  columns : Option (List String)
deriving DecidableEq, Repr

inductive NativeQuery where
  | timeseries (scope : QueryScope) (aggregates : Aggregates)
  | topN (scope : QueryScope) (aggregates : Aggregates) (dimension : String)
      (metric : Option String) (threshold : Option Nat)
  | groupBy (scope : QueryScope) (aggregates : Aggregates) (dimensions : List String)
      (limit : Option RowLimit)
  | select (scope : QueryScope) (dimensions metrics : List String) (pageSize : Nat)

/-- An entry of an object, unless there is no value for it. -/
def Fields.entry? (key : String) (value : Option Json) : Fields :=
  (value.map fun value => (key, value)).toList

namespace QueryScope

def toFields (s : QueryScope) : Fields :=
  [("dataSource", .str s.dataSource), ("granularity", s.granularity.toJson),
   ("intervals", .ofTexts s.intervals)] ++ Fields.entry? "filter" (s.filter.map FilterTree.toJson)

end QueryScope

namespace Aggregates

/-- A list, unless it is empty. -/
def unlessEmpty? (items : List Json) : Option Json :=
  if items.isEmpty then none else some (.arr items)

def toFields (a : Aggregates) : Fields :=
  Fields.entry? "aggregations" (unlessEmpty? a.aggregations) ++
    Fields.entry? "postAggregations" (unlessEmpty? a.postAggregations)

/-- The names of the metrics that these aggregates answer. -/
def metrics (a : Aggregates) : List String := Metrics.names a.aggregations a.postAggregations

end Aggregates

namespace RowLimit

/-- A ranking column, greatest first. -/
def columnJson (dimension : String) : Json :=
  .obj [("dimension", .str dimension), ("direction", .str "DESCENDING")]

def toJson (l : RowLimit) : Json :=
  .obj ([("type", .str "default"), ("limit", .ofNat l.limit)] ++
    Fields.entry? "columns" (l.columns.map fun columns => .arr (columns.map columnJson)))

end RowLimit

namespace NativeQuery

/-- The page size of a select query that names none. -/
def defaultPageSize : Nat := 5

/-- The page size that a target asks for; zero asks for none. -/
def pageSize (threshold : Option Nat) : Nat :=
  match threshold with
  | some (n + 1) => n + 1
  | _ => defaultPageSize

def typeName : NativeQuery → String
  | .timeseries .. => "timeseries"
  | .topN .. => "topN"
  | .groupBy .. => "groupBy"
  | .select .. => "select"

/-- The entries of a query body after its type. -/
def rest : NativeQuery → Fields
  | .timeseries scope aggregates => scope.toFields ++ aggregates.toFields
  | .topN scope aggregates dimension metric threshold =>
    scope.toFields ++ aggregates.toFields ++ [("dimension", .str dimension)] ++
      Fields.entry? "metric" (metric.map .str) ++
      Fields.entry? "threshold" (threshold.map .ofNat)
  | .groupBy scope aggregates dimensions limit =>
    scope.toFields ++ aggregates.toFields ++ [("dimensions", .ofTexts dimensions)] ++
      Fields.entry? "limitSpec" (limit.map RowLimit.toJson)
  | .select scope dimensions metrics pageSize =>
    scope.toFields ++ [("dimensions", .ofTexts dimensions), ("metrics", .ofTexts metrics),
      ("pagingSpec", .obj [("pagingIdentifiers", .obj []), ("threshold", .ofNat pageSize)])]

def toFields (q : NativeQuery) : Fields := ("queryType", .str q.typeName) :: q.rest

end NativeQuery

end DruidPanels
