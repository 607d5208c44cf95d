import DruidPanels.Broker
import DruidPanels.DataSource
import DruidPanels.Panel.Request
import DruidPanels.Reply.Listing
import DruidPanels.Reply.Pivot

/-! # The service

Everything that can be asked on behalf of a dashboard. A panel is answered target
by target in order: each is planned, sent and pivoted on its own, the first one
that fails fails the panel, and the series of all stand in target order. -/

namespace DruidPanels

/-- What all operations share: the clock and the operator's settings for queries. -/
structure Service where
  now : Instant
  overrides : Overrides
  timeZone : Option String

/-- The answer to a connection test. -/
structure ConnectionStatus where
  status : String
  message : String
  title : String
deriving DecidableEq, Repr

namespace ConnectionStatus

def working : ConnectionStatus := ⟨"success", "Druid Data source is working", "Success"⟩

def toJson (s : ConnectionStatus) : Json :=
  .obj [("status", .str s.status), ("message", .str s.message), ("title", .str s.title)]

end ConnectionStatus

/-- Why a request is refused before the broker is asked. -/
inductive RequestError where
  | dataSourceName (name : String)
  | lookupWithoutDataSource
  | lookupWithoutDimension
deriving DecidableEq, Repr

namespace RequestError

def message : RequestError → String
  | .dataSourceName name => "invalid datasource name '" ++ name ++ "'"
  | .lookupWithoutDataSource => "filter lookup needs a datasource"
  | .lookupWithoutDimension => "filter lookup needs a dimension"

/-- A refusal makes the request invalid. -/
def fault (e : RequestError) : Fault := .error (.invalidRequest e.message)

end RequestError

namespace Service

/-- Tests the connection: the broker lists its datasources. -/
def testConnection : Session ConnectionStatus := do
  let _ ← Session.send (.get DataSource.listing)
  return .working

def listDataSources : Session (List String) := do
  let reply ← Session.send (.get DataSource.listing)
  Session.ofExcept (Reply.names reply)

/-- The broker's description of a datasource. -/
def describe (name : String) : Session Json :=
  match DataSource.path? name with
  | some path => Session.send (.get path)
  | none => throw (RequestError.dataSourceName (Text.trim name)).fault

/-- Sends a query and gives the broker's reply. -/
def ask (s : Service) (spec : QuerySpec) : Session Json :=
  Session.send (.post spec.endpoint (spec.render s.overrides))

/-- The window over which a target is asked. -/
def window (s : Service) (range : TimeRange) (budget : Option Nat) (target : PanelTarget) :
    Window :=
  Window.plan range (PointBudget.smaller budget target.maxDataPoints) target.granularity?
    s.timeZone

/-- The series of one target. A skipped target has none and asks nothing. -/
def queryTarget (s : Service) (range : TimeRange) (budget : Option Nat) (vars : Variables)
    (target : PanelTarget) : Session (List Series) :=
  if target.skipped then return []
  else do
    let window := s.window range budget target
    let spec := target.querySpec window vars
    let reply ← s.ask spec
    let series ← Session.ofExcept (Reply.toSeries spec reply s.now)
    return if spec.clampsFirstPoint then Series.clampStart window.start series else series

/-- The series of the targets, one after the other. -/
def queryTargets (s : Service) (range : TimeRange) (budget : Option Nat) (vars : Variables) :
    List PanelTarget → Session (List Series)
  | [] => return []
  | target :: rest => do
    let first ← s.queryTarget range budget vars target
    return first ++ (← s.queryTargets range budget vars rest)

/-- The series of a panel. -/
def query (s : Service) (panel : PanelQuery) : Session (List Series) := do
  let range ← Session.ofExcept (panel.range.resolve s.now)
  s.queryTargets range panel.maxDataPoints panel.vars panel.targets

/-- The query of a lookup. It must name a datasource and a dimension. -/
def lookupSpec (s : Service) (lookup : FilterLookup) : Except Fault QuerySpec := do
  let target := lookup.target
  let some dataSource := target.dataSource?
    | throw RequestError.lookupWithoutDataSource.fault
  let some dimension := target.lookupDimension.bind Text.trimmed?
    | throw RequestError.lookupWithoutDimension.fault
  let range ← lookup.range.resolve s.now
  return .filterValues dataSource dimension target.filters lookup.search
    [intervalText range.start range.stop] lookup.vars

def filterValues (s : Service) (lookup : FilterLookup) : Session Json := do
  s.ask (← Session.ofExcept (s.lookupSpec lookup))

end Service

end DruidPanels
