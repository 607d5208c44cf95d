import DruidPanels.Reply.Pivot
import DruidPanels.Proofs.Itemwise
import DruidPanels.Proofs.Tabulate
import DruidPanels.Proofs.WholeSeconds

/-! # Buckets and rows with times

Replies whose times can all be read, and lie in seconds that sixty-four bits can hold, are
pivoted (`Timely`). The first time that cannot be read makes a reply of buckets or rows
unusable. -/

namespace DruidPanels.Reply

/-- The milliseconds of a bucket or row, if they can be read. -/
def time? (bucket : Json) : Option Int :=
  Timestamp.millis? (orNull (bucket.get? "timestamp"))

/-- The time of a bucket or row can be read. -/
def readable (bucket : Json) : Bool := (time? bucket).isSome

/-- The start of the second in which a bucket or row lies. -/
def wholeSecond (bucket : Json) : Int := (time? bucket).getD 0 / 1000 * 1000

/-- A bucket with a time in a second that sixty-four bits can hold is read, to that second. -/
theorem bucketTime_of_time? {bucket : Json} {ms : Int} (h : time? bucket = some ms)
    (hleast : Timestamp.leastSecond ≤ ms) : bucketTime bucket = .ok (wholeSecond bucket) := by
  have hcut := Timestamp.cutToSecond_eq h hleast
  unfold time? at h
  rw [bucketTime, Timestamp.ofBucket, wholeSecond, time?, h, Option.getD_some]
  exact hcut

theorem bucketTime_of_unreadable {bucket : Json} (h : readable bucket = false) :
    bucketTime bucket =
      .error (ReplyError.unreadableTimestamp (orNull (bucket.get? "timestamp"))).fault := by
  have hnone : time? bucket = none := Option.isNone_iff_eq_none.mp (Option.isSome_eq_false_iff.mp h)
  unfold time? at hnone
  rw [bucketTime, Timestamp.ofBucket, hnone]

/-- The bucket or row has a time, in a second that sixty-four bits can hold. -/
def Timely (bucket : Json) : Prop :=
  ∃ ms, time? bucket = some ms ∧ Timestamp.leastSecond ≤ ms

theorem timely_of_readable {bucket : Json} (h : readable bucket = true)
    (hleast : ∀ ms ∈ time? bucket, Timestamp.leastSecond ≤ ms) : Timely bucket := by
  obtain ⟨ms, hms⟩ := Option.isSome_iff_exists.mp h
  exact ⟨ms, hms, hleast ms hms⟩

theorem Timely.bucketTime_eq {bucket : Json} (h : Timely bucket) :
    bucketTime bucket = .ok (wholeSecond bucket) := by
  obtain ⟨ms, hms, hleast⟩ := h
  exact bucketTime_of_time? hms hleast

theorem timed_of_timely {buckets : List Json} (h : ∀ b ∈ buckets, Timely b) :
    timed buckets = .ok (buckets.map fun b => (b, wholeSecond b)) := by
  refine Itemwise.mapM_eq_ok_iff.mpr ?_
  rw [List.forall₂_map_right_iff, List.forall₂_same]
  intro b hb
  rw [(h b hb).bucketTime_eq]
  rfl

theorem timed_of_find? {buckets : List Json} {bucket : Json}
    (hleast : ∀ b ∈ buckets, ∀ ms ∈ time? b, Timestamp.leastSecond ≤ ms)
    (h : buckets.find? (fun b => !readable b) = some bucket) :
    timed buckets =
      .error (ReplyError.unreadableTimestamp (orNull (bucket.get? "timestamp"))).fault := by
  obtain ⟨hnot, before, after, rfl, hbefore⟩ := List.find?_eq_some_iff_append.mp h
  refine Itemwise.mapM_append_cons_eq_error (fun b hb e he => ?_) ?_
  · have hreadable : readable b = true := by simpa using hbefore b hb
    have htimely := timely_of_readable hreadable (hleast b (List.mem_append_left _ hb))
    rw [htimely.bucketTime_eq] at he
    cases he
  · rw [bucketTime_of_unreadable (by simpa using hnot)]
    rfl

theorem timeseries_of_timely {buckets : List Json} (h : ∀ b ∈ buckets, Timely b)
    (metrics : List String) :
    timeseries (.arr buckets) metrics = .ok (metrics.map fun metric =>
      ⟨metric, (buckets.map fun b => (b, wholeSecond b)).map (metricPoint metric)⟩) := by
  change (timed buckets >>= fun buckets => _) = _
  rw [timed_of_timely h]
  rfl

/-- The values of a row of groups. -/
def eventOf (row : Json) : Fields := (orNull (row.get? "event")).fields

theorem groupBy_of_timely {rows : List Json} (h : ∀ r ∈ rows, Timely r)
    (dimensions metrics : List String) :
    groupBy (.arr rows) dimensions metrics =
      .ok (pivot dimensions metrics (rows.map fun r => (eventOf r, wholeSecond r))) := by
  change (timed rows >>= fun rows => _) = _
  rw [timed_of_timely h]
  change Except.ok (pivot _ _ (List.map _ (List.map _ rows))) = _
  rw [List.map_map]
  rfl

/-- A series of groups is there for each row and metric, and for nothing else. -/
theorem mem_names_pivot {dimensions metrics : List String} {rows : List (Fields × Int)}
    {name : String} :
    name ∈ (pivot dimensions metrics rows).map (·.name) ↔
      ∃ row ∈ rows, ∃ metric ∈ metrics, groupName dimensions row.1 ++ ":" ++ metric = name := by
  rw [pivot, Series.names_tabulate, List.mem_eraseDups]
  simp [groupPoints]

end DruidPanels.Reply
