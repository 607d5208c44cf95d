import DruidPanels.Proofs.Buckets
import DruidPanels.Proofs.FilterEntries
import DruidPanels.Proofs.Itemwise

/-! # Visible metrics

An entry of a query shows its name unless it is a folded histogram or hidden (`Shows`). The
metrics of a query are the names that its entries show, no name twice, in the order in which
they are first shown. A reply with readable times becomes a series for each of them, and a
series has a point for each bucket (`timeseries_shows`). -/

namespace DruidPanels

namespace Metrics

/-! ## Names that are shown -/

/-- The entry has this name, and it is neither a folded histogram nor hidden. -/
structure Shows (entry : Json) (name : String) : Prop where
  named : entry.get? "name" = some (.str name)
  not_folded : entry.get? "type" ≠ some (.str "approxHistogramFold")
  not_hidden : entry.get? "hidden" ≠ some (.bool true)

theorem getD_bool?_eq_true_iff {value : Option Json} :
    (value.bind Json.bool?).getD false = true ↔ value = some (.bool true) := by
  match value with
  | some (.bool true) => exact iff_of_true rfl rfl
  | some (.bool false) => exact iff_of_false nofun nofun
  | none | some .null | some (.num _) | some (.str _) | some (.arr _) | some (.obj _) =>
    exact iff_of_false nofun nofun

theorem visible_iff {entry : Json} :
    visible entry = true ↔ entry.get? "type" ≠ some (.str "approxHistogramFold") ∧
      entry.get? "hidden" ≠ some (.bool true) := by
  unfold visible
  rw [Bool.and_eq_true, Bool.not_eq_true', Bool.not_eq_true', decide_eq_false_iff_not,
    Json.bind_text?_eq_some_iff, ← Bool.not_eq_true, getD_bool?_eq_true_iff]

theorem name?_eq_some_iff {entry : Json} {name : String} :
    name? entry = some name ↔ Shows entry name := by
  unfold name?
  split
  · next hvisible =>
    obtain ⟨hfolded, hhidden⟩ := visible_iff.mp hvisible
    rw [Json.bind_text?_eq_some_iff]
    exact ⟨fun hname => ⟨hname, hfolded, hhidden⟩, Shows.named⟩
  · next hvisible =>
    exact iff_of_false nofun fun h => hvisible (visible_iff.mpr ⟨h.not_folded, h.not_hidden⟩)

theorem mem_names_iff {aggregations postAggregations : List Json} {name : String} :
    name ∈ names aggregations postAggregations ↔
      ∃ entry ∈ aggregations ++ postAggregations, Shows entry name := by
  simp only [names, List.mem_eraseDups, List.mem_filterMap, name?_eq_some_iff]

/-- The first name is shown by an entry up to which no entry shows the second one. -/
def ShownBefore (entries : List Json) (name later : String) : Prop :=
  ∃ before entry after, entries = before ++ entry :: after ∧ Shows entry name ∧
    ∀ earlier ∈ before ++ [entry], ¬ Shows earlier later

theorem ShownBefore.append {entries : List Json} {name later : String}
    (h : ShownBefore entries name later) (more : List Json) :
    ShownBefore (entries ++ more) name later := by
  obtain ⟨before, entry, after, hsplit, hshows, hnot⟩ := h
  refine ⟨before, entry, after ++ more, ?_, hshows, hnot⟩
  rw [hsplit, List.append_assoc, List.cons_append]

/-- A name that is shown stands before one that is not. -/
theorem shownBefore_of_not_shows {entries : List Json} {name later : String}
    (hname : ∃ entry ∈ entries, Shows entry name)
    (hlater : ∀ entry ∈ entries, ¬ Shows entry later) : ShownBefore entries name later := by
  obtain ⟨entry, hentry, hshows⟩ := hname
  obtain ⟨before, after, hsplit⟩ := List.append_of_mem hentry
  refine ⟨before, entry, after, hsplit, hshows, fun earlier hearlier => hlater earlier ?_⟩
  rw [hsplit, List.append_cons]
  exact List.mem_append_left _ hearlier

theorem pairwise_shownBefore (entries : List Json) :
    (entries.filterMap name?).eraseDups.Pairwise (ShownBefore entries) := by
  -- a name that the last entry shows first comes last
  induction entries using List.reverseRecOn with
  | nil => exact List.Pairwise.nil
  | append_singleton entries last ih =>
    have hold := ih.imp fun h => ShownBefore.append h [last]
    rw [List.filterMap_append]
    cases hlast : name? last with
    | none =>
      rw [List.filterMap_cons_none hlast, List.filterMap_nil, List.append_nil]
      exact hold
    | some name =>
      rw [List.filterMap_cons_some hlast, List.filterMap_nil, Series.eraseDups_append_singleton]
      split
      · exact hold
      · next hnew =>
        refine List.pairwise_append.mpr ⟨hold, List.pairwise_singleton _ _, ?_⟩
        intro first hfirst later hlater
        rw [List.mem_singleton.mp hlater]
        obtain ⟨entry, hentry, hshows⟩ := List.mem_filterMap.mp (List.mem_eraseDups.mp hfirst)
        refine ShownBefore.append (shownBefore_of_not_shows ?_ ?_) [last]
        · exact ⟨entry, hentry, name?_eq_some_iff.mp hshows⟩
        · intro entry hentry hshows
          exact hnew (List.mem_filterMap.mpr ⟨entry, hentry, name?_eq_some_iff.mpr hshows⟩)

end Metrics

namespace Reply

/-! ## Points of buckets -/

/-- The value of a metric in the result of a bucket, or null if there is none. -/
inductive ResultValue (bucket : Json) (metric : String) : Json → Prop
  | given {result value : Json} (hresult : bucket.get? "result" = some result)
      (hvalue : result.get? metric = some value) : ResultValue bucket metric value
  | missing (h : ∀ result, bucket.get? "result" = some result → result.get? metric = none) :
      ResultValue bucket metric .null

theorem resultValue_metricPoint (metric : String) (bucket : Json × Int) :
    ResultValue bucket.1 metric (metricPoint metric bucket).value := by
  unfold metricPoint
  cases hresult : bucket.1.get? "result" with
  | none => exact .missing fun result h => nomatch hresult.symm.trans h
  | some result =>
    rw [Option.bind_some]
    cases hvalue : result.get? metric with
    | some value => exact .given hresult hvalue
    | none =>
      refine .missing fun result' h => ?_
      cases hresult.symm.trans h
      exact hvalue

/-- **One series for each visible metric.** The metrics of a time series query are the names
that its aggregators and then its post-aggregators show, no name twice, and each comes
before those that are first shown later. A reply of buckets with readable times, in seconds
that sixty-four bits can hold, becomes a table of just these series in this order. Each has
a point for each bucket, in order: the value of the metric in the result of the bucket, or
null, at the start of the second of the bucket. -/
theorem timeseries_shows (scope : QueryScope) (aggregations postAggregations : List Json)
    (now : Instant) {buckets : List Json}
    (htimes : ∀ b ∈ buckets, ∃ ms, time? b = some ms ∧ Timestamp.leastSecond ≤ ms) :
    let names := Metrics.names aggregations postAggregations
    let entries := aggregations ++ postAggregations
    names.Nodup ∧ (∀ name, name ∈ names ↔ ∃ entry ∈ entries, Metrics.Shows entry name) ∧
      names.Pairwise (Metrics.ShownBefore entries) ∧
      ∃ table, toSeries (.native (.timeseries scope ⟨aggregations, postAggregations⟩))
          (.arr buckets) now = .ok table ∧
        table.map (·.name) = names ∧
        ∀ s ∈ table, List.Forall₂ (fun bucket point => point.time = wholeSecond bucket ∧
          ResultValue bucket s.name point.value) buckets s.points := by
  intro names entries
  refine ⟨Series.nodup_eraseDups _, fun name => Metrics.mem_names_iff,
    Metrics.pairwise_shownBefore entries, _, timeseries_of_timely htimes names, ?_, ?_⟩
  · rw [List.map_map]
    exact List.map_id names
  · intro s hs
    obtain ⟨metric, _, rfl⟩ := List.mem_map.mp hs
    rw [List.map_map, List.forall₂_map_right_iff, List.forall₂_same]
    exact fun bucket _ => ⟨rfl, resultValue_metricPoint metric (bucket, wholeSecond bucket)⟩

/-- A count, a sum that is hidden, and a folded histogram. -/
def editAggregators : List Json :=
  [.obj [("type", .str "count"), ("name", .str "rows")],
   .obj [("name", .str "added"), ("hidden", .bool true)],
   .obj [("type", .str "approxHistogramFold"), ("name", .str "sizes")]]

/-- The hidden sum once more, another count and an entry without a name. -/
def editPostAggregators : List Json :=
  [.obj [("name", .str "added")], .obj [("name", .str "rows")], .obj [("type", .str "constant")]]

/-- A second before 1970 and one without a result after it. -/
def editBuckets : List Json :=
  [.obj [("timestamp", .ofInt (-1)), ("result", .obj [("rows", .ofInt 3)])],
   .obj [("timestamp", .ofInt 2999)]]

theorem timeseries_editBuckets :
    (∀ b ∈ editBuckets, ∃ ms, time? b = some ms ∧ Timestamp.leastSecond ≤ ms) ∧
      ∃ table, toSeries (.native (.timeseries ⟨"wiki", .all, [], none⟩
          ⟨editAggregators, editPostAggregators⟩)) (.arr editBuckets) .epoch = .ok table ∧
        table.map (·.name) = ["rows", "added"] ∧
        ∀ s ∈ table, s.points.map (·.time) = [-1000, 2000] := by
  have htimes : ∀ b ∈ editBuckets, ∃ ms, time? b = some ms ∧ Timestamp.leastSecond ≤ ms := by
    intro b hb
    simp only [editBuckets, List.mem_cons, List.not_mem_nil, or_false] at hb
    rcases hb with rfl | rfl
    · exact ⟨-1, rfl, by decide⟩
    · exact ⟨2999, rfl, by decide⟩
  obtain ⟨_, _, _, table, hok, hnames, hpoints⟩ := timeseries_shows ⟨"wiki", .all, [], none⟩
    editAggregators editPostAggregators .epoch htimes
  refine ⟨htimes, table, hok, hnames.trans (by decide), fun s hs => ?_⟩
  have hseconds : editBuckets.map wholeSecond = s.points.map (·.time) :=
    Itemwise.map_eq_map ((hpoints s hs).imp fun _ _ h => h.1.symm)
  exact hseconds.symm

end Reply

end DruidPanels
