import DruidPanels.Proofs.Buckets
import DruidPanels.Proofs.Itemwise
import Mathlib.Data.List.Nodup

/-! # Tables of top lists

The buckets of a top list name different values of the dimension. Places for all of them
are found first; then each bucket fills its places, row after row. So the table is a full
rectangle: every series has a point for every bucket, with the metric of the bucket's last
row of that name, or null (`topN_rectangle`). -/

namespace DruidPanels.Reply

variable (dimension metric : String)

/-! ## Places -/

theorem foldl_enter (names : List String) : names.foldl enter [] = names.eraseDups := by
  induction names using List.reverseRecOn with
  | nil => rfl
  | append_singleton names name ih =>
    rw [List.foldl_append, ih, List.foldl_cons, List.foldl_nil, enter,
      Series.eraseDups_append_singleton]
    simp only [List.mem_eraseDups]

theorem topNames_eq (buckets : List Json) :
    topNames dimension buckets =
      ((buckets.flatMap topRows).map (topName dimension)).eraseDups := by
  rw [topNames, ← List.foldl_map, foldl_enter]

theorem nodup_topNames (buckets : List Json) : (topNames dimension buckets).Nodup := by
  rw [topNames_eq]
  exact Series.nodup_eraseDups _

/-! ## One bucket -/

/-- The value of a name in rows: the metric of the last row of that name, and null if there
is no such row. -/
inductive LastValue (name : String) : List Json → Json → Prop
  | given {before after : List Json} {row : Json} (hrow : topName dimension row = name)
      (hafter : ∀ r ∈ after, topName dimension r ≠ name) :
      LastValue name (before ++ row :: after) (orNull (row.get? metric))
  | missing {rows : List Json} (hrows : ∀ r ∈ rows, topName dimension r ≠ name) :
      LastValue name rows .null

theorem LastValue.append_singleton {name : String} {rows : List Json} {value : Json}
    (h : LastValue dimension metric name rows value) (row : Json) :
    LastValue dimension metric name (rows ++ [row])
      (if topName dimension row = name then orNull (row.get? metric) else value) := by
  by_cases hrow : topName dimension row = name
  · rw [if_pos hrow]
    exact .given hrow nofun
  · rw [if_neg hrow]
    have hbehind {rows : List Json} (h : ∀ r ∈ rows, topName dimension r ≠ name) :
        ∀ r ∈ rows ++ [row], topName dimension r ≠ name :=
      List.forall_mem_append.mpr ⟨h, List.forall_mem_singleton.mpr hrow⟩
    -- a row of another name comes behind the last one, or to those that all have other names
    cases h with
    | given hlast hafter =>
      rw [List.append_assoc, List.cons_append]
      exact .given hlast (hbehind hafter)
    | missing hrows => exact .missing (hbehind hrows)

/-- The values that rows give to names, one row after the other. -/
def valuesOf (rows : List Json) : String → Json :=
  rows.foldl (fun values row => Function.update values (topName dimension row)
    (orNull (row.get? metric))) fun _ => .null

theorem valuesOf_append_singleton (rows : List Json) (row : Json) :
    valuesOf dimension metric (rows ++ [row]) =
      Function.update (valuesOf dimension metric rows) (topName dimension row)
        (orNull (row.get? metric)) := by
  rw [valuesOf, List.foldl_append]
  rfl

theorem lastValue_valuesOf (name : String) (rows : List Json) :
    LastValue dimension metric name rows (valuesOf dimension metric rows name) := by
  induction rows using List.reverseRecOn with
  | nil => exact .missing nofun
  | append_singleton rows row ih =>
    have hstep := ih.append_singleton dimension metric row
    rw [valuesOf_append_singleton, Function.update_apply]
    simpa only [eq_comm (a := name)] using hstep

/-- To set a place is to change the value of its name. A name without a place changes
nothing. -/
theorem set_idxOf {names : List String} (hnodup : names.Nodup) (values : String → Json)
    (name : String) (value : Json) :
    (names.map values).set (names.idxOf name) value =
      names.map (Function.update values name value) := by
  rw [hnodup.map_update]
  split
  · rfl
  · next h =>
    have hlast : (names.map values).length = names.idxOf name := by
      rw [List.length_map, List.idxOf_eq_length h]
    exact List.set_eq_of_length_le (Nat.le_of_eq hlast)

theorem topValues_eq {names : List String} (hnodup : names.Nodup) (bucket : Json) :
    topValues names dimension metric bucket =
      names.map (valuesOf dimension metric (topRows bucket)) := by
  unfold topValues
  induction topRows bucket using List.reverseRecOn with
  | nil => rfl
  | append_singleton rows row ih =>
    rw [List.foldl_append, ih, List.foldl_cons, List.foldl_nil, set_idxOf hnodup,
      valuesOf_append_singleton]

/-! ## All buckets -/

/-- A bucket's point in the series of a name. -/
def topPoint (name : String) (bucket : Json × Int) : Point :=
  ⟨valuesOf dimension metric (topRows bucket.1) name, bucket.2⟩

theorem appendBucket_map {names : List String} (hnodup : names.Nodup)
    (points : String → List Point) (bucket : Json × Int) :
    appendBucket names dimension metric (names.map fun name => ⟨name, points name⟩) bucket =
      names.map fun name => ⟨name, points name ++ [topPoint dimension metric name bucket]⟩ := by
  rw [appendBucket, topValues_eq dimension metric hnodup, List.zipWith_map, List.zipWith_self]
  rfl

theorem foldl_appendBucket {names : List String} (hnodup : names.Nodup)
    (buckets : List (Json × Int)) :
    buckets.foldl (appendBucket names dimension metric) (names.map fun name => ⟨name, []⟩) =
      names.map fun name => ⟨name, buckets.map (topPoint dimension metric name)⟩ := by
  induction buckets using List.reverseRecOn with
  | nil => rfl
  | append_singleton buckets bucket ih =>
    rw [List.foldl_append, ih, List.foldl_cons, List.foldl_nil,
      appendBucket_map dimension metric hnodup]
    simp only [List.map_append, List.map_singleton]

theorem topN_of_timely {buckets : List Json} (h : ∀ b ∈ buckets, Timely b) :
    topN (.arr buckets) dimension metric =
      .ok ((topNames dimension buckets).map fun name =>
        ⟨name, buckets.map fun b => topPoint dimension metric name (b, wholeSecond b)⟩) := by
  change (timed buckets >>= fun timedBuckets => _) = _
  rw [timed_of_timely h]
  change Except.ok (List.foldl _ _ _) = _
  rw [foldl_appendBucket dimension metric (nodup_topNames dimension buckets)]
  simp only [List.map_map]
  rfl

/-- **A top list becomes a full rectangle.** Let the times of all buckets be readable and
lie in seconds that sixty-four bits can hold. Then there is a table with a series for each
name that a row of any bucket has, in the order in which these names first come, no name
twice. Every series has one point for each bucket, in their order and at the start of
the second of its bucket, and its value is the metric of the last row of that name in the
bucket, or null if the bucket has no such row. -/
theorem topN_rectangle {buckets : List Json}
    (htimes : ∀ b ∈ buckets, ∃ ms, time? b = some ms ∧ Timestamp.leastSecond ≤ ms) :
    ∃ table, topN (.arr buckets) dimension metric = .ok table ∧
      (table.map (·.name)).Nodup ∧
      table.map (·.name) = ((buckets.flatMap topRows).map (topName dimension)).eraseDups ∧
      ∀ s ∈ table, List.Forall₂ (fun bucket point => point.time = wholeSecond bucket ∧
        LastValue dimension metric s.name (topRows bucket) point.value) buckets s.points := by
  refine ⟨_, topN_of_timely dimension metric htimes, ?_, ?_, ?_⟩
  · rw [List.map_map]
    exact (List.map_id _).symm ▸ nodup_topNames dimension buckets
  · rw [List.map_map, ← topNames_eq]
    exact List.map_id _
  · intro s hs
    obtain ⟨name, _, rfl⟩ := List.mem_map.mp hs
    rw [List.forall₂_map_right_iff, List.forall₂_same]
    exact fun b _ => ⟨rfl, lastValue_valuesOf dimension metric name (topRows b)⟩

/-- Edits of sites in three buckets, one of them without rows: a site that comes twice,
one whose name is a number, and rows without a site. -/
def siteBuckets : List Json :=
  [.obj [("timestamp", .ofInt (-1)), ("result", .arr
      [.obj [("site", .str "en"), ("edits", .ofInt 1)], .obj [("site", .ofInt 7)],
        .obj [("site", .str "en"), ("edits", .ofInt 3)]])],
   .obj [("timestamp", .ofInt 1000)],
   .obj [("timestamp", .ofInt 2999), ("result", .arr
      [.obj [("site", .null)], .str "en", .obj [("edits", .ofInt 5)]])]]

theorem topN_siteBuckets :
    (∀ b ∈ siteBuckets, ∃ ms, time? b = some ms ∧ Timestamp.leastSecond ≤ ms) ∧
      ∃ table, topN (.arr siteBuckets) "site" "edits" = .ok table ∧
        table.map (·.name) = ["en", "7", "null"] ∧
        ∀ s ∈ table, s.points.map (·.time) = [-1000, 1000, 2000] := by
  have htimes : ∀ b ∈ siteBuckets, ∃ ms, time? b = some ms ∧ Timestamp.leastSecond ≤ ms := by
    intro b hb
    simp only [siteBuckets, List.mem_cons, List.not_mem_nil, or_false] at hb
    rcases hb with rfl | rfl | rfl
    · exact ⟨-1, rfl, by decide⟩
    · exact ⟨1000, rfl, by decide⟩
    · exact ⟨2999, rfl, by decide⟩
  obtain ⟨table, hok, _, hnames, hpoints⟩ := topN_rectangle "site" "edits" htimes
  refine ⟨htimes, table, hok, hnames.trans rfl, fun s hs => ?_⟩
  have hseconds : siteBuckets.map wholeSecond = s.points.map (·.time) :=
    Itemwise.map_eq_map ((hpoints s hs).imp fun _ _ h => h.1.symm)
  exact hseconds.symm

end DruidPanels.Reply
