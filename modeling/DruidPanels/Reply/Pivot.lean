import DruidPanels.Query.Spec
import DruidPanels.Reply.Timestamp
import DruidPanels.Series

/-! # Pivoting replies

Each query type has its own shape of reply, and each reply becomes a table of
series: one for every metric, for every value of a dimension, for every group and
metric, or for every field of an event. -/

namespace DruidPanels

namespace Reply

/-- The items of a reply, which must be an array. -/
def items (queryType : String) (reply : Json) : Except Fault (List Json) :=
  match reply with
  | .arr items => .ok items
  | _ => .error (ReplyError.notArray queryType).fault

/-- A value, or null where there is none. -/
def orNull (value : Option Json) : Json := value.getD .null

/-- The time of a bucket or row, to the second. -/
def bucketTime (bucket : Json) : Except Fault Int :=
  Timestamp.ofBucket (orNull (bucket.get? "timestamp"))

/-! ## Time series -/

/-- A bucket's point for a metric. -/
def metricPoint (metric : String) (bucket : Json × Int) : Point :=
  ⟨orNull ((bucket.1.get? "result").bind (Json.get? · metric)), bucket.2⟩

/-- Buckets with their times, all of which must be readable. -/
def timed (buckets : List Json) : Except Fault (List (Json × Int)) :=
  buckets.mapM fun bucket => (bucketTime bucket).map (bucket, ·)

/-- One series for each metric, with a point for each bucket. -/
def timeseries (reply : Json) (metrics : List String) : Except Fault (List Series) := do
  let buckets ← timed (← items "timeseries" reply)
  return metrics.map fun metric => ⟨metric, buckets.map (metricPoint metric)⟩

/-! ## Top lists -/

/-- The label of a value; `absent` stands for none and for null. -/
def label (absent : String) : Option Json → String
  | none => absent
  | some .null => absent
  | some (.str s) => s
  | some value => value.text

def topRows (bucket : Json) : List Json := (orNull (bucket.get? "result")).items

def topName (dimension : String) (row : Json) : String := label "null" (row.get? dimension)

/-- Puts a name behind the others, unless it has its place already. -/
def enter (names : List String) (name : String) : List String :=
  if name ∈ names then names else names ++ [name]

/-- The names of the rows of all buckets, in the order of their places. -/
def topNames (dimension : String) (buckets : List Json) : List String :=
  (buckets.flatMap topRows).foldl (fun names row => enter names (topName dimension row)) []

/-- The values of a bucket, one for each name. Each row puts its metric in the place of its
name, over that of an earlier row; null stays where no row comes. -/
def topValues (names : List String) (dimension metric : String) (bucket : Json) : List Json :=
  (topRows bucket).foldl
    (fun values row => values.set (names.idxOf (topName dimension row)) (orNull (row.get? metric)))
    (names.map fun _ => .null)

/-- Appends a bucket's points, one to each series. -/
def appendBucket (names : List String) (dimension metric : String) (table : List Series)
    (bucket : Json × Int) : List Series :=
  List.zipWith (fun s value => { s with points := s.points ++ [⟨value, bucket.2⟩] }) table
    (topValues names dimension metric bucket.1)

/-- One series for each value of the dimension, with a point for each bucket. The names
are gathered from all buckets first, so that every bucket has a place for each. -/
def topN (reply : Json) (dimension metric : String) : Except Fault (List Series) := do
  let buckets ← items "topN" reply
  let names := topNames dimension buckets
  let timedBuckets ← timed buckets
  return timedBuckets.foldl (appendBucket names dimension metric)
    (names.map fun name => ⟨name, []⟩)

/-! ## Groups -/

/-- The labels of a row's dimensions, joined. -/
def groupName (dimensions : List String) (event : Fields) : String :=
  "-".intercalate (dimensions.map fun dimension => label "" (Fields.get? event dimension))

/-- The named points of a row, one for each metric. -/
def groupPoints (dimensions metrics : List String) (row : Fields × Int) :
    List (String × Point) :=
  metrics.map fun metric =>
    (groupName dimensions row.1 ++ ":" ++ metric, ⟨orNull (Fields.get? row.1 metric), row.2⟩)

/-- One series for each group and metric, with the points of the rows in order. -/
def pivot (dimensions metrics : List String) (rows : List (Fields × Int)) : List Series :=
  Series.tabulate (rows.flatMap (groupPoints dimensions metrics))

/-- The pivot of rows that hold their values in an event. -/
def groupBy (reply : Json) (dimensions metrics : List String) : Except Fault (List Series) := do
  let rows ← timed (← items "groupBy" reply)
  return pivot dimensions metrics <| rows.map fun (row, time) =>
    ((orNull (row.get? "event")).fields, time)

/-! ## Events -/

/-- The events of a reply, page after page. -/
def events (page : Json) : List Json :=
  (orNull ((page.get? "result").bind (Json.get? · "events"))).items

/-- The fields of an event and its time, unless it has no readable one. -/
def timedEvent? (wrapper : Json) : Option (Fields × Int) := do
  let fields ← (← wrapper.get? "event").fields?
  let timestamp ← Fields.get? fields "timestamp"
  return (fields, ← Timestamp.millis? timestamp)

/-- The named points of an event, one for each field but its time. -/
def eventPoints (event : Fields × Int) : List (String × Point) :=
  (event.1.filter fun field => field.1 ≠ "timestamp").map fun (name, value) =>
    (name, ⟨value, event.2⟩)

/-- One series for each field, with the points of the events in order. -/
def select (reply : Json) : Except Fault (List Series) := do
  let pages ← items "select" reply
  return Series.tabulate (((pages.flatMap events).filterMap timedEvent?).flatMap eventPoints)

/-! ## SQL rows -/

/-- How long before the clock a row without a time is placed, in seconds. -/
def fallbackAge : Int := 600

/-- The value counts as given: no null, no `false`, no zero and no empty text. -/
def truthy : Json → Bool
  | .null => false
  | .bool b => b
  | .num (.int n) => n ≠ 0
  | .num (.float x) => x != 0
  | .str s => !s.isEmpty
  | _ => true

/-- The time of a row: its `timestamp`, else its `__time`, else `fallback`. A
`timestamp` that is given must be readable. -/
def sqlTime (fallback : Int) (row : Fields) : Except Fault Int :=
  let timestamp := orNull (Fields.get? row "timestamp")
  let time := orNull (Fields.get? row "__time")
  if truthy timestamp then
    match Timestamp.millis? timestamp with
    | some ms => .ok ms
    | none => .error ReplyError.unreadableSqlTimestamp.fault
  else if truthy time then .ok ((Timestamp.millis? time).getD fallback)
  else .ok fallback

/-- A row with its time, to the second. -/
def timedRow (fallback : Int) (row : Json) : Except Fault (Fields × Int) :=
  (sqlTime fallback row.fields >>= Timestamp.cutToSecond).map (row.fields, ·)

/-- The pivot of rows that hold their values and times themselves. -/
def sql (reply : Json) (dimensions metrics : List String) (now : Instant) :
    Except Fault (List Series) := do
  let rows ← items "sql" reply
  let some fallback := now.addSeconds? (-fallbackAge) | throw .abort
  return pivot dimensions metrics (← rows.mapM (timedRow fallback.millis))

/-! ## Raw queries -/

/-- The name under which a dimension is answered. -/
def outputName? : Json → Option String
  | .str name => some name
  | .obj fields =>
    ((Fields.get? fields "outputName").or (Fields.get? fields "dimension")).bind Json.text?
  | _ => none

mutual

/-- The metric that a top list is ranked by, however deep it is wrapped. -/
def rankingMetric? : Json → Option String
  | .str name => some name
  | .obj fields => rankingField? fields
  | _ => none

/-- The ranking metric under the first `metric` key. -/
def rankingField? : List (String × Json) → Option String
  | [] => none
  | (key, value) :: rest => if key = "metric" then rankingMetric? value else rankingField? rest

end

/-- The items of an array under a key. -/
def listUnder (body : Fields) (key : String) : List Json :=
  (orNull (Fields.get? body key)).items

def rawMetrics (body : Fields) : List String :=
  Metrics.names (listUnder body "aggregations") (listUnder body "postAggregations")

/-- The pivot for the type that a raw query names; no series for any other type. -/
def raw (body : Fields) (reply : Json) : Except Fault (List Series) :=
  match (Fields.get? body "queryType").bind Json.text? with
  | some "timeseries" => timeseries reply (rawMetrics body)
  | some "topN" =>
    let dimension := ((Fields.get? body "dimension").bind outputName?).getD ""
    let metric := ((Fields.get? body "metric").bind rankingMetric?).getD ""
    topN reply dimension metric
  | some "groupBy" =>
    groupBy reply ((listUnder body "dimensions").filterMap outputName?) (rawMetrics body)
  | some "select" => select reply
  | _ => .ok []

/-- The series of a reply to a query. -/
def toSeries (spec : QuerySpec) (reply : Json) (now : Instant) : Except Fault (List Series) :=
  match spec with
  | .sql q => sql reply q.dimensions q.metrics now
  | .raw body => raw body reply
  | .native (.timeseries _ aggregates) => timeseries reply aggregates.metrics
  | .native (.topN _ _ dimension metric _) => topN reply dimension (metric.getD "")
  | .native (.groupBy _ aggregates dimensions _) => groupBy reply dimensions aggregates.metrics
  | .native (.select ..) => select reply

end Reply

end DruidPanels
