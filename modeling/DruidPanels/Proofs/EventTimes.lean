import DruidPanels.Proofs.FanOut
import DruidPanels.Proofs.Tabulate
import DruidPanels.Proofs.WrittenQuery

/-! # Times of events

A reply to a select query is a list of events, each with a time to the millisecond, and
each point of its table stands for one field of one event (`select_keepsTimes`). The table
of a native query is answered as it is. That of a raw query is clamped like a table of
buckets, so a series whose first event lies before the window starts with the window
instead (`query_keepsTimes_iff`). -/

namespace DruidPanels

/-! ## Entries -/

namespace Reply

/-- The entries of a field among the events of a reply that have a readable time, each
with its event, in order. -/
def entries (pages : List Json) (name : String) : List (Fields × Json) :=
  ((pages.flatMap events).filterMap timedEvent?).flatMap fun event =>
    (event.1.filter fun field => field.1 = name).map fun field => (event.1, field.2)

end Reply

/-- The point stands for an entry of an event: it has its value, and the time of the event
to the millisecond. -/
def Point.StandsFor (point : Point) (entry : Fields × Json) : Prop :=
  point.value = entry.2 ∧
    (Fields.get? entry.1 "timestamp").bind Timestamp.millis? = some point.time

/-- The points of the series stand for the entries of its field, one by one. -/
def Series.KeepsTimes (pages : List Json) (s : Series) : Prop :=
  List.Forall₂ Point.StandsFor s.points (Reply.entries pages s.name)

namespace Reply

/-! ## The table of a reply -/

theorem time_of_timedEvent? {wrapper : Json} {event : Fields × Int}
    (h : timedEvent? wrapper = some event) :
    (Fields.get? event.1 "timestamp").bind Timestamp.millis? = some event.2 := by
  unfold timedEvent? at h
  simp only [Option.bind_eq_bind, Option.bind_eq_some_iff, Option.pure_def] at h
  obtain ⟨_, _, fields, _, timestamp, htimestamp, ms, hms, hevent⟩ := h
  cases hevent
  rw [htimestamp]
  exact hms

/-- The points of a name come from the fields of that name; the time itself gives none. -/
theorem pointsOf_eventPoints {name : String} (hname : name ≠ "timestamp")
    (timed : List (Fields × Int)) :
    Series.pointsOf (timed.flatMap eventPoints) name = timed.flatMap fun event =>
      (event.1.filter fun field => field.1 = name).map fun field => ⟨field.2, event.2⟩ := by
  unfold Series.pointsOf
  rw [List.filter_flatMap, List.map_flatMap]
  refine List.flatMap_congr fun event _ => ?_
  unfold eventPoints
  rw [List.filter_map, List.filter_filter, List.map_map]
  refine congrArg _ (List.filter_congr fun field _ => ?_)
  by_cases hfield : field.1 = name
  · simp [hfield, hname]
  · simp [hfield]

theorem ne_timestamp_of_mem {name : String} {timed : List (Fields × Int)}
    (h : name ∈ (timed.flatMap eventPoints).map (·.1)) : name ≠ "timestamp" := by
  obtain ⟨point, hpoint, rfl⟩ := List.mem_map.mp h
  obtain ⟨event, _, hevent⟩ := List.mem_flatMap.mp hpoint
  obtain ⟨field, hfield, rfl⟩ := List.mem_map.mp hevent
  exact of_decide_eq_true (List.mem_filter.mp hfield).2

/-- Every point of a table of events stands for an entry, and every entry of the fields
that have a series has its point. -/
theorem select_keepsTimes {pages : List Json} {table : List Series}
    (h : select (.arr pages) = .ok table) : ∀ s ∈ table, s.KeepsTimes pages := by
  cases h
  intro s hs
  rw [Series.tabulate_eq] at hs
  obtain ⟨name, hmem, rfl⟩ := List.mem_map.mp hs
  have hname := ne_timestamp_of_mem (List.mem_eraseDups.mp hmem)
  unfold Series.KeepsTimes entries
  rw [pointsOf_eventPoints hname]
  -- both sides run through the same fields of the same events
  refine List.rel_flatMap (R := fun a b => a = b ∧
    (Fields.get? a.1 "timestamp").bind Timestamp.millis? = some a.2) ?_ ?_
  · refine List.forall₂_same.mpr fun event hevent => ⟨rfl, ?_⟩
    obtain ⟨wrapper, _, hwrapper⟩ := List.mem_filterMap.mp hevent
    exact time_of_timedEvent? hwrapper
  · intro event _ ⟨hsame, htime⟩
    subst hsame
    refine List.forall₂_map_left_iff.mpr (List.forall₂_map_right_iff.mpr ?_)
    exact List.forall₂_same.mpr fun field _ => ⟨rfl, htime⟩

theorem pages_of_select {reply : Json} {table : List Series} (h : select reply = .ok table) :
    ∃ pages, reply = .arr pages := by
  cases reply with
  | arr pages => exact ⟨pages, rfl⟩
  | null | bool | num | str | obj => cases h

end Reply

/-! ## Clamping -/

namespace Series

theorem keepsTimes_clampFirst_iff {pages : List Json} {s : Series} (h : s.KeepsTimes pages)
    (time : Int) :
    (s.clampFirst time).KeepsTimes pages ↔ ∀ point ∈ s.points.head?, time ≤ point.time := by
  obtain ⟨name, points⟩ := s
  unfold KeepsTimes at h ⊢
  cases points with
  | nil => exact iff_of_true h nofun
  | cons first rest =>
    -- the entries are not empty either, and the first of them settles the time
    obtain ⟨entry, others, ⟨hvalue, htime⟩, hrest, hentries⟩ := List.forall₂_cons_left_iff.mp h
    simp only [clampFirst, hentries, List.forall₂_cons, List.head?_cons, Option.mem_some_iff,
      forall_eq']
    split
    · next hbefore =>
      refine iff_of_false (fun hstands => ?_) (by omega)
      have hmoved := hstands.1.2.symm.trans htime
      cases hmoved
      exact absurd hbefore (Int.lt_irrefl _)
    · next hafter => exact iff_of_true ⟨⟨hvalue, htime⟩, hrest⟩ (by omega)

theorem keepsTimes_clampStart_iff {pages : List Json} {table : List Series}
    (h : ∀ s ∈ table, s.KeepsTimes pages) (start : Instant) :
    (∀ s ∈ clampStart start table, s.KeepsTimes pages) ↔
      ∀ s ∈ table, ∀ point ∈ s.points.head?, start.seconds * 1000 ≤ point.time := by
  unfold clampStart
  rw [List.forall_mem_map]
  exact forall₂_congr fun s hs => keepsTimes_clampFirst_iff (h s hs) _

end Series

/-! ## Select queries -/

namespace QuerySpec

/-- What is asked by a query of this type: the editor's fields, or a raw query that says so. -/
theorem select_cases {spec : QuerySpec} (h : spec.typeName = "select") :
    (∃ scope dimensions metrics pageSize,
      spec = .native (.select scope dimensions metrics pageSize)) ∨
    ∃ body, spec = .raw body ∧ (Fields.get? body "queryType").bind Json.text? = some "select" := by
  cases spec with
  | sql => simp [typeName] at h
  | raw body =>
    refine .inr ⟨body, rfl, ?_⟩
    have hname : ((Fields.get? body "queryType").bind Json.text?).getD "raw" = "select" := h
    rcases Option.getD_eq_iff.mp hname with hsome | ⟨_, hraw⟩
    · exact hsome
    · simp at hraw
  | native q =>
    cases q with
    | select scope dimensions metrics pageSize =>
      exact .inl ⟨scope, dimensions, metrics, pageSize, rfl⟩
    | timeseries | topN | groupBy => simp [typeName, NativeQuery.typeName] at h

theorem toSeries_of_typeName {spec : QuerySpec} (h : spec.typeName = "select") (reply : Json)
    (now : Instant) : Reply.toSeries spec reply now = Reply.select reply := by
  rcases select_cases h with ⟨_, _, _, _, rfl⟩ | ⟨body, rfl, htype⟩
  · rfl
  · simp only [Reply.toSeries, Reply.raw, htype]

/-- Among select queries only the native ones are not clamped. -/
theorem clampsFirstPoint_of_typeName {spec : QuerySpec} (h : spec.typeName = "select") :
    spec.clampsFirstPoint = false ↔ ∃ q, spec = .native q := by
  rcases select_cases h with ⟨_, _, _, _, rfl⟩ | ⟨body, rfl, _⟩
  · exact iff_of_true rfl ⟨_, rfl⟩
  · exact iff_of_false nofun nofun

end QuerySpec

namespace Service

/-- What a target makes of the reply to a select query. -/
theorem seriesOf_eq_ok_of_select {s : Service} {range : TimeRange} {budget : Option Nat}
    {vars : Variables} {target : PanelTarget} {reply : Json} {part : List Series}
    (hselect : (target.querySpec (s.window range budget target) vars).typeName = "select")
    (h : s.seriesOf range budget vars target reply = .ok part) :
    ∃ own, Reply.select reply = .ok own ∧
      part = if (target.querySpec (s.window range budget target) vars).clampsFirstPoint
        then Series.clampStart (s.window range budget target).start own else own := by
  unfold seriesOf at h
  dsimp only at h
  rw [QuerySpec.toSeries_of_typeName hselect] at h
  cases hreply : Reply.select reply with
  | error e =>
    rw [hreply] at h
    cases h
  | ok own =>
    rw [hreply] at h
    cases h
    exact ⟨own, rfl, rfl⟩

/-- **Only the editor's select queries keep the times of all events.** Let a panel be
answered, and let one of its targets ask a select query, native or raw. The target got a
list of pages, and its part of the answer stands behind that of the earlier targets. If
the query is native, the part is the table of the pages, in which every point has the time
of its own event. If it is raw, that table is clamped, so all points but the first of a
series have these times; and the first ones have them just if none lies before the second
in which the window starts. -/
theorem query_keepsTimes_iff {s : Service} {panel : PanelQuery} {range : TimeRange}
    {before after : List PanelTarget} {target : PanelTarget} {b : Broker} {table : List Series}
    (hrange : panel.range.resolve s.now = .ok range)
    (htargets : panel.targets = before ++ target :: after)
    (hskipped : target.skipped = false)
    (hselect : (target.querySpec (s.window range panel.maxDataPoints target)
      panel.vars).typeName = "select")
    (hok : ((s.query panel).run.run b).1 = .ok table) :
    let window := s.window range panel.maxDataPoints target
    let spec := target.querySpec window panel.vars
    let earlier := (s.queryTargets range panel.maxDataPoints panel.vars before).exchange b.waiting
    ∃ pages first part last own,
      ((⟨earlier.left, []⟩ : Broker).answer (.post spec.endpoint (spec.render s.overrides))).1 =
        .answer (.arr pages) ∧
      earlier.answer = .ok first ∧ table = first ++ part ++ last ∧
      Reply.select (.arr pages) = .ok own ∧ (∀ series ∈ own, series.KeepsTimes pages) ∧
      (part = if spec.clampsFirstPoint then Series.clampStart window.start own else own) ∧
      ((∀ series ∈ part, series.KeepsTimes pages) ↔
        (∃ q, spec = .native q) ∨
          ∀ series ∈ own, ∀ point ∈ series.points.head?,
            window.start.seconds * 1000 ≤ point.time) := by
  intro window spec earlier
  rw [s.appends_query panel b, s.query_of_ok hrange, htargets] at hok
  obtain ⟨first, part, last, hfirst, hpart, htable⟩ :=
    s.answer_queryTargets_around range panel.maxDataPoints panel.vars hok
  obtain ⟨reply, hreply, hseries⟩ :=
    s.answer_queryTarget_eq_ok range panel.maxDataPoints panel.vars hskipped hpart
  obtain ⟨own, hown, hclamped⟩ := seriesOf_eq_ok_of_select hselect hseries
  obtain ⟨pages, rfl⟩ := Reply.pages_of_select hown
  have hkeeps := Reply.select_keepsTimes hown
  refine ⟨pages, first, part, last, own, hreply, hfirst, htable, hown, hkeeps, hclamped, ?_⟩
  -- what is not clamped is the table as it was read, so only a clamped part is in question
  rw [← QuerySpec.clampsFirstPoint_of_typeName hselect, hclamped]
  by_cases hclamps : spec.clampsFirstPoint = true
  · rw [if_pos hclamps, Series.keepsTimes_clampStart_iff hkeeps, hclamps]
    simp only [Bool.true_eq_false, false_or]
    exact Iff.rfl
  · rw [if_neg hclamps]
    exact iff_of_true hkeeps (.inl (Bool.eq_false_iff.mpr hclamps))

/-- A raw select query. -/
def shownSelect : PanelTarget :=
  { PanelTarget.ofDataSource "wiki" with liveRawQuery := some "\x7b\"queryType\":\"select\"\x7d" }

/-- A page with an event of the last millisecond before 1970. -/
def earlyPages : List Json :=
  [.obj [("result", .obj [("events", .arr
    [.obj [("event", .obj [("timestamp", .ofInt (-1)), ("edits", .ofInt 3)])]])])]]

theorem query_moves_earlyPages :
    let s : Service := ⟨.epoch, .empty, none⟩
    let panel : PanelQuery := ⟨⟨.text "now", .text "now+1s"⟩, none, [shownSelect], .empty⟩
    let b : Broker := ⟨[(nativeEndpoint, .answer (.arr earlyPages))], []⟩
    shownSelect.skipped = false ∧ ∃ range table, panel.range.resolve s.now = .ok range ∧
      (shownSelect.querySpec (s.window range none shownSelect) .empty).typeName = "select" ∧
      ((s.query panel).run.run b).1 = .ok table ∧
      ¬ ∀ series ∈ table, series.KeepsTimes earlyPages := by
  intro s panel b
  have hedges : (panel.range.resolve s.now).map (fun range => (range.start, range.stop)) =
      .ok (.epoch, TimeRange.firstSecond.stop) := by decide +kernel
  have hrange : panel.range.resolve s.now = .ok .firstSecond := by
    cases hresolved : panel.range.resolve s.now with
    | error e =>
      rw [hresolved] at hedges
      cases hedges
    | ok range =>
      rw [hresolved] at hedges
      obtain ⟨start, stop, _⟩ := range
      cases hedges
      rfl
  have htargets : panel.targets = [] ++ shownSelect :: [] := rfl
  have hskipped : shownSelect.skipped = false := by decide +kernel
  have hselect : (shownSelect.querySpec (s.window .firstSecond none shownSelect)
      .empty).typeName = "select" := by decide +kernel
  have hanswered : ((s.query panel).run.run b).1.toOption.isSome = true := by decide +kernel
  obtain ⟨table, hok⟩ : ∃ table, ((s.query panel).run.run b).1 = .ok table := by
    cases hanswer : ((s.query panel).run.run b).1 with
    | error e =>
      rw [hanswer] at hanswered
      cases hanswered
    | ok table => exact ⟨table, rfl⟩
  refine ⟨hskipped, .firstSecond, table, hrange, hselect, hok, fun hkeeps => ?_⟩
  obtain ⟨pages, first, part, last, own, hreply, _, rfl, hown, _, _, hiff⟩ :=
    query_keepsTimes_iff hrange htargets hskipped hselect hok
  have hendpoint : (shownSelect.querySpec (s.window .firstSecond none shownSelect)
      .empty).endpoint = nativeEndpoint := by decide +kernel
  -- the one reply that waits is the one that the target got
  have hpages : earlyPages = pages := by
    simp only [panel, hendpoint] at hreply
    cases hreply
    rfl
  subst hpages
  cases hown
  have hclamps : (shownSelect.querySpec (s.window .firstSecond none shownSelect)
      .empty).clampsFirstPoint = true := by decide +kernel
  have hstart : (s.window .firstSecond none shownSelect).start.seconds = 0 := by decide +kernel
  rcases hiff.mp fun series h => hkeeps series (by simp [h]) with hnative | hfirst
  · have hkept := (QuerySpec.clampsFirstPoint_of_typeName hselect).mpr hnative
    exact absurd (hclamps.symm.trans hkept) (by decide)
  · have hearly := hfirst _ (List.mem_singleton_self _) _ rfl
    change (s.window .firstSecond none shownSelect).start.seconds * 1000 ≤ -1 at hearly
    omega

end Service

end DruidPanels
