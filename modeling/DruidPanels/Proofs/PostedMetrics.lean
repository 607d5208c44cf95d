import DruidPanels.Proofs.Buckets
import DruidPanels.Proofs.NativeBody

/-! # Metrics that were asked for

The overrides are put into the body of a query when it is posted, and the reply is
pivoted by the query without them. So the series stand for the metrics of the body
without overrides, and for those of the posted body exactly if the overriding
post-aggregators show the same metrics as the query's own, those of the aggregators
aside (`answers_posted_iff`). -/

namespace DruidPanels

/-! ## What series stand for -/

/-- The two ways to pivot by metrics: a series for each metric, or for each metric of
each group. -/
inductive MetricPivot where
  | series
  | groups (dimensions : List String)

namespace MetricPivot

/-- The name of the series for a metric of a bucket or row. -/
def seriesName (p : MetricPivot) (row : Json) (metric : String) : String :=
  match p with
  | series => metric
  | groups dimensions => Reply.groupName dimensions (Reply.eventOf row) ++ ":" ++ metric

def pivot (reply : Json) (metrics : List String) : MetricPivot → Except Fault (List Series)
  | series => Reply.timeseries reply metrics
  | groups dimensions => Reply.groupBy reply dimensions metrics

/-- A table stands for metrics: every one of them has its series for every row, and
there is no other series. -/
def StandsFor (p : MetricPivot) (rows : List Json) (table : List Series)
    (metrics : List String) : Prop :=
  ∀ name, name ∈ table.map (·.name) ↔
    ∃ row ∈ rows, ∃ metric ∈ metrics, p.seriesName row metric = name

/-- A reply with a bucket or row, all of them with times that can be cut, becomes series
that stand for the metrics it is pivoted by. Without a row nothing would be there for
groups. -/
theorem standsFor_pivot (p : MetricPivot) {rows : List Json} (hne : rows ≠ [])
    (h : ∀ row ∈ rows, Reply.Timely row) (metrics : List String) :
    ∃ table, p.pivot (.arr rows) metrics = .ok table ∧ p.StandsFor rows table metrics := by
  cases p with
  | series =>
    -- a time series has its metrics even without a row, which `StandsFor` cannot say
    obtain ⟨row, hrow⟩ := List.exists_mem_of_ne_nil rows hne
    refine ⟨_, Reply.timeseries_of_timely h metrics, fun name => ?_⟩
    simp only [List.map_map, List.mem_map, Function.comp_apply, seriesName]
    exact ⟨fun ⟨m, hm, he⟩ => ⟨row, hrow, m, hm, he⟩, fun ⟨_, _, m, hm, he⟩ => ⟨m, hm, he⟩⟩
  | groups dimensions =>
    refine ⟨_, Reply.groupBy_of_timely h dimensions metrics, fun name => ?_⟩
    rw [Reply.mem_names_pivot]
    simp only [List.mem_map, exists_exists_and_eq_and, seriesName]

theorem seriesName_injective (p : MetricPivot) (row : Json) {a b : String}
    (h : p.seriesName row a = p.seriesName row b) : a = b := by
  cases p with
  | series => exact h
  | groups dimensions => exact String.append_right_inj _ |>.mp h

theorem StandsFor.congr {p : MetricPivot} {rows : List Json} {table : List Series}
    {metrics others : List String} (h : p.StandsFor rows table metrics)
    (hm : ∀ m, m ∈ others ↔ m ∈ metrics) : p.StandsFor rows table others := by
  intro name
  rw [h name]
  simp only [hm]

/-- The table of one row stands for one set of metrics only. -/
theorem StandsFor.mem_iff {p : MetricPivot} {row : Json} {table : List Series}
    {metrics others : List String} (h : p.StandsFor [row] table metrics)
    (h' : p.StandsFor [row] table others) (m : String) : m ∈ others ↔ m ∈ metrics := by
  have hname (list : List String) :
      (∃ r ∈ [row], ∃ metric ∈ list, p.seriesName r metric = p.seriesName row m) ↔ m ∈ list := by
    constructor
    · rintro ⟨r, hr, metric, hmetric, he⟩
      rw [List.mem_singleton.mp hr] at he
      exact p.seriesName_injective row he ▸ hmetric
    · intro hm
      exact ⟨row, List.mem_singleton_self row, m, hm, rfl⟩
  rw [← hname others, ← hname metrics, ← h', ← h]

end MetricPivot

namespace QuerySpec

/-- How the reply to a query is pivoted, if by metrics: those of time series and of
groups are, whether the query is native or raw. -/
def metricPivot? : QuerySpec → Option MetricPivot
  | .native (.timeseries ..) => some .series
  | .native (.groupBy _ _ dimensions _) => some (.groups dimensions)
  | .raw body =>
    match (Fields.get? body "queryType").bind Json.text? with
    | some "timeseries" => some .series
    | some "groupBy" =>
      some (.groups ((Reply.listUnder body "dimensions").filterMap Reply.outputName?))
    | _ => none
  | _ => none

/-- Every reply with a bucket or row, all of them with times that can be cut, becomes
series that stand for `metrics`. -/
def Answers (spec : QuerySpec) (p : MetricPivot) (metrics : List String) : Prop :=
  ∀ (rows : List Json) (now : Instant), rows ≠ [] → (∀ row ∈ rows, Reply.Timely row) →
    ∃ table, Reply.toSeries spec (.arr rows) now = .ok table ∧ p.StandsFor rows table metrics

theorem toSeries_eq_pivot {spec : QuerySpec} {p : MetricPivot}
    (hp : spec.metricPivot? = some p) (reply : Json) (now : Instant) :
    Reply.toSeries spec reply now = p.pivot reply (Reply.rawMetrics (spec.body .empty)) := by
  cases spec with
  | sql q => cases hp
  | raw body =>
    change Reply.raw body reply = p.pivot reply (Reply.rawMetrics body)
    simp only [metricPivot?] at hp
    unfold Reply.raw
    split at hp
    · next h => cases hp; rw [h]; rfl
    · next h => cases hp; rw [h]; rfl
    · cases hp
  | native q =>
    change _ = p.pivot reply (Reply.rawMetrics q.toFields)
    rw [NativeQuery.rawMetrics_toFields]
    cases q with
    | timeseries scope aggregates => cases hp; rfl
    | groupBy scope aggregates dimensions limit => cases hp; rfl
    | topN | select => cases hp

theorem answers_body {spec : QuerySpec} {p : MetricPivot} (hp : spec.metricPivot? = some p) :
    spec.Answers p (Reply.rawMetrics (spec.body .empty)) := by
  intro rows now hne htimely
  rw [toSeries_eq_pivot hp]
  exact p.standsFor_pivot hne htimely _

theorem body_of_metricPivot {spec : QuerySpec} {p : MetricPivot}
    (hp : spec.metricPivot? = some p) (o : Overrides) :
    spec.body o = o.apply (spec.body .empty) := by
  cases spec with
  | sql q => cases hp
  | raw body => rfl
  | native q => rfl

end QuerySpec

namespace Overrides

/-- The overriding post-aggregators show the same metrics as those of a body, apart from
the metrics of its aggregators. -/
def KeepsMetrics (o : Overrides) (body : Fields) : Prop :=
  ∀ list, o.postAggregations = some list →
    ∀ m, m ∉ (Reply.listUnder body "aggregations").filterMap Metrics.name? →
      (m ∈ list.filterMap Metrics.name? ↔
        m ∈ (Reply.listUnder body "postAggregations").filterMap Metrics.name?)

theorem mem_names {aggregations postAggregations : List Json} {m : String} :
    m ∈ Metrics.names aggregations postAggregations ↔
      m ∈ aggregations.filterMap Metrics.name? ∨ m ∈ postAggregations.filterMap Metrics.name? := by
  rw [Metrics.names, List.mem_eraseDups, List.filterMap_append, List.mem_append]

theorem rawMetrics_apply (o : Overrides) (body : Fields) :
    Reply.rawMetrics (o.apply body) =
      Metrics.names (Reply.listUnder body "aggregations")
        (o.postAggregations.getD (Reply.listUnder body "postAggregations")) := by
  unfold Reply.rawMetrics Reply.listUnder apply
  cases o.postAggregations with
  | none => rfl
  | some list =>
    simp only [Fields.get?_insert]
    rfl

theorem keepsMetrics_iff (o : Overrides) (body : Fields) :
    (∀ m, m ∈ Reply.rawMetrics (o.apply body) ↔ m ∈ Reply.rawMetrics body) ↔
      o.KeepsMetrics body := by
  rw [rawMetrics_apply, Reply.rawMetrics]
  simp only [mem_names, KeepsMetrics]
  cases o.postAggregations with
  | none => simp
  | some list =>
    simp only [Option.getD_some, Option.some.injEq, forall_eq']
    -- a metric of the aggregators is on both sides, whatever the override holds
    exact forall_congr' fun m => ⟨fun h hm => by simpa [hm] using h, fun h => by
      by_cases hm : m ∈ (Reply.listUnder body "aggregations").filterMap Metrics.name?
      · simp [hm]
      · simp [hm, h hm]⟩

end Overrides

namespace QuerySpec

/-- A row with a time and nothing else. -/
def bareRow : Json := .obj [("timestamp", .ofInt 0)]

/-- What a query answers is determined by its replies of one row. -/
theorem mem_iff_of_answers {spec : QuerySpec} {p : MetricPivot} {metrics others : List String}
    (h : spec.Answers p metrics) (h' : spec.Answers p others) (m : String) :
    m ∈ others ↔ m ∈ metrics := by
  have htimely : ∀ row ∈ [bareRow], Reply.Timely row := by
    intro row hrow
    rw [List.mem_singleton.mp hrow]
    exact ⟨0, rfl, by decide⟩
  obtain ⟨table, hok, hs⟩ := h [bareRow] .epoch (List.cons_ne_nil _ _) htimely
  obtain ⟨table', hok', hs'⟩ := h' [bareRow] .epoch (List.cons_ne_nil _ _) htimely
  cases hok.symm.trans hok'
  exact hs.mem_iff hs' m

/-- **The reply is pivoted by the query without overrides.** The series of a query of
time series or groups, native or raw, stand for the metrics of its body without
overrides, whatever the reply. They stand for those of the posted body exactly if the
overrides keep the metrics. -/
theorem answers_posted_iff {spec : QuerySpec} {p : MetricPivot}
    (hp : spec.metricPivot? = some p) (o : Overrides) :
    spec.Answers p (Reply.rawMetrics (spec.body .empty)) ∧
      (spec.Answers p (Reply.rawMetrics (spec.body o)) ↔
        o.KeepsMetrics (spec.body .empty)) := by
  have hown := answers_body hp
  refine ⟨hown, ?_⟩
  rw [body_of_metricPivot hp o, ← Overrides.keepsMetrics_iff]
  constructor
  · -- one reply cannot stand for two sets of metrics
    intro hposted
    exact mem_iff_of_answers hown hposted
  · intro hm rows now hne htimely
    obtain ⟨table, hok, hs⟩ := hown rows now hne htimely
    exact ⟨table, hok, hs.congr hm⟩

/-- A count by name over all of a datasource. -/
def editCount : QuerySpec :=
  .native (.timeseries ⟨"wiki", .all, [], none⟩
    ⟨[.obj [("type", .str "count"), ("name", .str "edits")]], []⟩)

/-- A constant in place of the post-aggregators of every query. -/
def constantOverride : Overrides :=
  ⟨some [.obj [("type", .str "constant"), ("name", .str "goal"), ("value", .ofInt 7)]]⟩

theorem editCount_misses_constant :
    editCount.metricPivot? = some .series ∧
      editCount.Answers .series ["edits"] ∧
      Reply.rawMetrics (editCount.body constantOverride) = ["edits", "goal"] ∧
      ¬ editCount.Answers .series ["edits", "goal"] := by
  have hp : editCount.metricPivot? = some .series := rfl
  obtain ⟨hown, hposted⟩ := answers_posted_iff hp constantOverride
  have hgoal : Reply.rawMetrics (editCount.body constantOverride) = ["edits", "goal"] := by
    decide
  rw [hgoal] at hposted
  refine ⟨hp, hown, hgoal, fun h => ?_⟩
  have hkept := hposted.mp h _ rfl "goal" (by decide)
  exact absurd (hkept.mp (by decide)) (by decide)

end QuerySpec

end DruidPanels
