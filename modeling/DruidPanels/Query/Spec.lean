import DruidPanels.Panel.Target
import DruidPanels.Query.Native

/-! # Query specifications

What one target asks of the broker: SQL, a raw query passed through, or a native
query put together from the editor's fields. -/

namespace DruidPanels

def nativeEndpoint : String := "/druid/v2/"

def sqlEndpoint : String := "/druid/v2/sql"

/-- SQL text with the columns by which its rows are pivoted. -/
structure SqlQuery where
  text : String
  dimensions : List String
  metrics : List String
deriving DecidableEq, Repr

/-- What is asked of the broker. -/
inductive QuerySpec where
  | sql (query : SqlQuery)
  | raw (body : Fields)
  | native (query : NativeQuery)

/-- What the operator puts in place of the same part of every query body. -/
structure Overrides where
  postAggregations : Option (List Json)

namespace Overrides

def empty : Overrides := ⟨none⟩

/-- A query body with the overrides put in. -/
def apply (o : Overrides) (body : Fields) : Fields :=
  match o.postAggregations with
  | some list => Fields.insert "postAggregations" (.arr list) body
  | none => body

end Overrides

namespace QuerySpec

def endpoint : QuerySpec → String
  | .sql _ => sqlEndpoint
  | .raw _ => nativeEndpoint
  | .native _ => nativeEndpoint

/-- The body of a query. Overrides leave SQL alone. -/
def body (o : Overrides) : QuerySpec → Fields
  | .sql q => [("query", .str q.text), ("resultFormat", .str "object"), ("header", .bool true)]
  | .raw fields => o.apply fields
  | .native q => o.apply q.toFields

def render (o : Overrides) (spec : QuerySpec) : Json := .obj (spec.body o)

/-- The type of a query: `raw` for a raw query that does not say. -/
def typeName : QuerySpec → String
  | .sql _ => "sql"
  | .raw fields => ((Fields.get? fields "queryType").bind Json.text?).getD "raw"
  | .native q => q.typeName

/-- The first point of each series is moved to the start of the window. The rows of a
native select query are events, and keep their times. -/
def clampsFirstPoint : QuerySpec → Bool
  | .native (.select ..) => false
  | _ => true

end QuerySpec

namespace RawText

/-- Entries written as JSON text: those of an array, or a lone object. Any other text
counts as absent. -/
def entries (text : Option String) : List Json :=
  match text.bind Json.parse? with
  | some (.arr items) => items
  | some (.obj fields) => [.obj fields]
  | _ => []

/-- A query written as JSON text. Only an object is one. -/
def query? (text : Option String) : Option Fields := (text.bind Json.parse?).bind Json.fields?

end RawText

namespace PanelTarget

/-- The structured filters followed by the raw ones; a raw entry that is no filter is
left out. -/
def allFilters (t : PanelTarget) : List FilterDescriptor :=
  t.filters ++
    (RawText.entries t.rawFilter?).filterMap (FilterDescriptor.decoder.ofJson? ·)

/-- The structured aggregates followed by the raw ones. -/
def aggregates (t : PanelTarget) : Aggregates where
  aggregations := t.aggregators ++ RawText.entries t.rawAggregator?
  postAggregations := t.postAggregators ++ RawText.entries t.rawPostAggregator?

/-- The dimensions to group by, with their variables expanded. -/
def groupDimensions (t : PanelTarget) (vars : Variables) : List String :=
  t.groupBy.map vars.expand

/-- The scope of the native query of a target. -/
def scope (t : PanelTarget) (window : Window) (vars : Variables) : QueryScope where
  dataSource := t.dataSource?.getD ""
  granularity := window.granularity
  intervals := window.intervals
  filter := FilterTree.compile t.allFilters vars

/-- The native query of a target. An unknown kind asks for time series. -/
def nativeQuery (t : PanelTarget) (window : Window) (vars : Variables) : NativeQuery :=
  let scope := t.scope window vars
  match t.kind with
  | .topN =>
    .topN scope t.aggregates (vars.expand (t.dimension.getD "")) t.metric t.limit
  | .groupBy =>
    .groupBy scope t.aggregates (t.groupDimensions vars) (t.limit.map (⟨·, t.orderBy⟩))
  | .select =>
    .select scope t.selectDimensions t.selectMetrics (NativeQuery.pageSize t.selectThreshold)
  | .timeseries => .timeseries scope t.aggregates
  | .unknown => .timeseries scope t.aggregates

/-- What a target asks of the broker. SQL wins over a raw query, and a raw query over
the editor's fields. A raw query is asked over the intervals of the window. -/
def querySpec (t : PanelTarget) (window : Window) (vars : Variables) : QuerySpec :=
  match t.sql?, RawText.query? t.rawQuery? with
  | some sql, _ => .sql ⟨vars.expand sql, t.groupDimensions vars, t.aggregates.metrics⟩
  | none, some body => .raw (Fields.insert "intervals" (.ofTexts window.intervals) body)
  | none, none => .native (t.nativeQuery window vars)

end PanelTarget

namespace QuerySpec

/-- The number of values that a lookup asks for. -/
def lookupThreshold : Nat := 10

/-- The most frequent values of `dimension` that contain `search` in any case, among
the rows that pass `filters`. -/
def filterValues (dataSource dimension : String) (filters : List FilterDescriptor)
    (search : String) (intervals : List String) (vars : Variables) : QuerySpec :=
  let searched := filters ++ [FilterDescriptor.insensitiveSearch dimension search]
  .native <| .topN
    { dataSource, granularity := .all, intervals, filter := FilterTree.compile searched vars }
    { aggregations := [.obj [("type", .str "count"), ("name", .str "count")]]
      postAggregations := [] }
    dimension (some "count") (some lookupThreshold)

end QuerySpec

end DruidPanels
