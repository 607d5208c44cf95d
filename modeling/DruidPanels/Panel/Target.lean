import DruidPanels.Filter

/-! # Panel targets

A target is one query of a panel as the query editor stores it. All of its fields
may be absent. Texts that are blank count as absent where they are used. -/

namespace DruidPanels

/-- The kind of query that the editor was set to. -/
inductive QueryKind where
  | timeseries | topN | groupBy | select
  /-- A kind that the editor knows and this program does not. -/
  | unknown
deriving DecidableEq, Repr

namespace QueryKind

def ofName (name : String) : QueryKind :=
  if name = "timeseries" then .timeseries
  else if name = "topN" then .topN
  else if name = "groupBy" then .groupBy
  else if name = "select" then .select
  else .unknown

/-- Reads a kind: its name, or an object with null under the name as its only key. A key
that is no text has the wrong shape; anything else is not even looked at as a value. -/
def decoder : Decoder QueryKind
  | .text (some name) => .ok (ofName name)
  | .object ((key, value) :: rest) closed deep =>
    if deep then .error .malformed
    else
      match key, value with
      | .text name, .null =>
        if rest.isEmpty && closed then .ok (ofName name) else .error .malformed
      | .text _, value => .error value.misfit
      | .unpaired, _ => .error .malformed
      | .foreign, _ => .error .misshapen
  | _ => .error .malformed

end QueryKind

structure PanelTarget where
  label : Option String
  hidden : Bool
  dataSource : Option String
  chosenKind : Option QueryKind
  filters : List FilterDescriptor
  aggregators : List Json
  postAggregators : List Json
  groupBy : List String
  orderBy : Option (List String)
  limit : Option Nat
  metric : Option String
  dimension : Option String
  selectDimensions : List String
  selectMetrics : List String
  selectThreshold : Option Nat
  maxDataPoints : Option Nat
  overridesGranularity : Bool
  customGranularity : Option String
  sql : Option String
  liveRawQuery : Option String
  savedRawQuery : Option String
  rawFilter : Option String
  rawAggregator : Option String
  rawPostAggregator : Option String
  lookupDimension : Option String

namespace PanelTarget

/-- The dimension that the filter editor is set to, as an object of one field. -/
def lookupLayout : Layout String := .required "dimension" .text

/-- A text that may be absent. -/
def text (name : String) (aliases : List String) : Layout (Option String) :=
  .optional name .text aliases

/-- A list for which absent and null stand for the empty one. -/
def list {α : Type} (name : String) (decode : Decoder α) : Layout (List α) :=
  .defaulted name (.list decode) []

def layout : Layout PanelTarget :=
  PanelTarget.mk
    <$> text "refId" []
    <*> .defaulted "hide" .flag false
    <*> text "druidDS" []
    <*> .optional "queryType" QueryKind.decoder []
    <*> list "filters" FilterDescriptor.decoder
    <*> list "aggregators" .json
    <*> list "postAggregators" .json
    <*> list "groupBy" .text
    <*> .optional "orderBy" (.list .text) []
    <*> .optional "limit" .natural []
    <*> text "druidMetric" []
    <*> text "dimension" []
    <*> list "selectDimensions" .text
    <*> list "selectMetrics" .text
    <*> .optional "selectThreshold" .natural []
    <*> .optional "maxDataPoints" .natural []
    <*> .defaulted "shouldOverrideGranularity" .flag false
    <*> text "customGranularity" []
    <*> text "sql" ["currentLucaSQL", "currentSql"]
    <*> text "currentRawQuery" []
    <*> text "rawQuery" []
    <*> text "rawFilter" ["currentRawFilter"]
    <*> text "rawAggregator" ["currentRawAggregator"]
    <*> text "rawPostAggregator" ["currentRawPostAggregator"]
    <*> .optional "currentFilter" lookupLayout.decoder []

def decoder : Decoder PanelTarget := layout.decoder

/-- A target of a value that is already read. -/
def ofJson? (value : Json) : Option PanelTarget := decoder.ofJson? value

/-! ## What a target asks for -/

/-- The kind of query; time series unless another was chosen. -/
def kind (t : PanelTarget) : QueryKind := t.chosenKind.getD .timeseries

def dataSource? (t : PanelTarget) : Option String := Text.unlessBlank? t.dataSource

def sql? (t : PanelTarget) : Option String := Text.unlessBlank? t.sql

/-- The raw query text: the live one, or the saved one if that is blank. -/
def rawQuery? (t : PanelTarget) : Option String :=
  (Text.unlessBlank? t.liveRawQuery).or (Text.unlessBlank? t.savedRawQuery)

def rawFilter? (t : PanelTarget) : Option String := Text.unlessBlank? t.rawFilter

def rawAggregator? (t : PanelTarget) : Option String := Text.unlessBlank? t.rawAggregator

def rawPostAggregator? (t : PanelTarget) : Option String :=
  Text.unlessBlank? t.rawPostAggregator

/-- The granularity that overrides the planned one. -/
def granularity? (t : PanelTarget) : Option String :=
  if t.overridesGranularity then Text.unlessBlank? t.customGranularity else none

/-- The target carries something to ask: SQL, a live raw query, or aggregators. -/
def hasSource (t : PanelTarget) : Bool :=
  t.sql?.isSome || (Text.unlessBlank? t.liveRawQuery).isSome || t.rawAggregator?.isSome ||
    !t.aggregators.isEmpty

/-- The target has no series and sends no request: it is hidden, has no datasource,
or has nothing to ask. A select query needs nothing else. -/
def skipped (t : PanelTarget) : Bool :=
  t.hidden || t.dataSource?.isNone || (!t.hasSource && t.kind ≠ .select)

end PanelTarget

end DruidPanels
