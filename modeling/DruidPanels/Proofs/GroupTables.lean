import DruidPanels.Proofs.Buckets
import Mathlib.Data.List.ProdSigma

/-! # Tables of groups

A row of a reply gives one point for each metric, under the name of its group and that
metric. The table of a reply holds all of these points and no other: one series for each
name, where it first comes, and in it the points of that name in the order of the rows
(`groupBy_cells`). -/

namespace DruidPanels.Reply

/-- A row with its time, and a metric. -/
abbrev Cell := (Fields × Int) × String

/-- The name of the series that a cell belongs to. -/
def cellName (dimensions : List String) (c : Cell) : String :=
  groupName dimensions c.1.1 ++ ":" ++ c.2

/-- The value of the metric in the row, at the time of the row. -/
def cellPoint (c : Cell) : Point := ⟨orNull (Fields.get? c.1.1 c.2), c.1.2⟩

variable (dimensions metrics : List String)

theorem pivot_eq (rows : List (Fields × Int)) :
    pivot dimensions metrics rows =
      Series.tabulate ((rows ×ˢ metrics).map fun c => (cellName dimensions c, cellPoint c)) := by
  change _ = Series.tabulate ((rows.flatMap fun row => metrics.map (Prod.mk row)).map _)
  rw [pivot, List.map_flatMap]
  simp only [List.map_map]
  rfl

theorem names_pivot (rows : List (Fields × Int)) :
    (pivot dimensions metrics rows).map (·.name) =
      ((rows ×ˢ metrics).map (cellName dimensions)).eraseDups := by
  rw [pivot_eq, Series.names_tabulate, List.map_map]
  rfl

theorem points_of_mem_pivot {rows : List (Fields × Int)} {s : Series}
    (h : s ∈ pivot dimensions metrics rows) :
    s.points = ((rows ×ˢ metrics).filter fun c => cellName dimensions c = s.name).map cellPoint := by
  rw [pivot_eq, Series.tabulate_eq] at h
  obtain ⟨name, _, rfl⟩ := List.mem_map.mp h
  simp only [Series.pointsOf, List.filter_map, List.map_map]
  rfl

theorem length_points_pivot (rows : List (Fields × Int)) :
    ((pivot dimensions metrics rows).flatMap (·.points)).length =
      rows.length * metrics.length := by
  rw [pivot_eq, Series.length_points_tabulate, List.length_map, List.length_product]

theorem groupBy_of_find? {rows : List Json} {row : Json}
    (hleast : ∀ r ∈ rows, ∀ ms ∈ time? r, Timestamp.leastSecond ≤ ms)
    (h : rows.find? (fun r => !readable r) = some row) :
    groupBy (.arr rows) dimensions metrics =
      .error (ReplyError.unreadableTimestamp (orNull (row.get? "timestamp"))).fault := by
  change (timed rows >>= fun rows => _) = _
  rw [timed_of_find? hleast h]
  rfl

/-- **The table of groups loses, adds and moves nothing.** Let the times of the rows that
can be read lie in seconds that sixty-four bits can hold. If a time cannot be read, the
reply is unusable, for the first of them. Otherwise there is a table with a series for
each name that a row has under a metric, in the order in which these names first come,
no name twice; a series has just the points of the rows and metrics of its name, in
order, each at the start of the second of its row; and all points are there. -/
theorem groupBy_cells {rows : List Json}
    (hleast : ∀ row ∈ rows, ∀ ms ∈ time? row, Timestamp.leastSecond ≤ ms) :
    match rows.find? (fun row => !readable row) with
    | some row =>
      groupBy (.arr rows) dimensions metrics =
        .error (ReplyError.unreadableTimestamp (orNull (row.get? "timestamp"))).fault
    | none =>
      let cells := (rows.map fun row => (eventOf row, wholeSecond row)) ×ˢ metrics
      ∃ table, groupBy (.arr rows) dimensions metrics = .ok table ∧
        (table.map (·.name)).Nodup ∧
        table.map (·.name) = (cells.map (cellName dimensions)).eraseDups ∧
        (∀ s ∈ table,
          s.points = (cells.filter fun c => cellName dimensions c = s.name).map cellPoint) ∧
        (table.flatMap (·.points)).length = rows.length * metrics.length := by
  split
  · next row hfind => exact groupBy_of_find? dimensions metrics hleast hfind
  · next hfind =>
    have htimely : ∀ row ∈ rows, Timely row := by
      intro row hrow
      have hreadable : readable row = true := by simpa using List.find?_eq_none.mp hfind row hrow
      exact timely_of_readable hreadable (hleast row hrow)
    intro cells
    have htable := groupBy_of_timely htimely dimensions metrics
    have hnames := names_pivot dimensions metrics (rows.map fun row => (eventOf row, wholeSecond row))
    refine ⟨_, htable, ?_, hnames, fun s hs => points_of_mem_pivot dimensions metrics hs, ?_⟩
    · rw [hnames]
      exact Series.nodup_eraseDups _
    · rw [length_points_pivot, List.length_map]

/-- A row of a reply of groups. -/
def groupRow (ms : Int) (event : Json) : Json :=
  .obj [("timestamp", .ofInt ms), ("event", event)]

/-- Edits of two sites, one of them without a name. -/
def siteRows : List Json :=
  [groupRow (-1) (.obj [("site", .str "en"), ("edits", .ofInt 3)]),
   groupRow 1500 (.obj [("site", .null), ("edits", .ofInt 4), ("users", .ofInt 2)]),
   groupRow 1999 .null,
   groupRow 2000 (.obj [("users", .ofInt 1), ("site", .str "en")])]

theorem groupBy_siteRows :
    (∀ row ∈ siteRows, ∀ ms ∈ time? row, Timestamp.leastSecond ≤ ms) ∧
      siteRows.find? (fun row => !readable row) = none ∧
      ∃ table, groupBy (.arr siteRows) ["site"] ["edits", "users"] = .ok table ∧
        table.map (·.name) = ["en:edits", "en:users", ":edits", ":users"] ∧
        (∀ s ∈ table, s.name = "en:edits" → s.points = [⟨.ofInt 3, -1000⟩, ⟨.null, 2000⟩]) ∧
        (table.flatMap (·.points)).length = 8 := by
  have hleast : ∀ row ∈ siteRows, ∀ ms ∈ time? row, Timestamp.leastSecond ≤ ms := by decide
  have hfind : siteRows.find? (fun row => !readable row) = none := rfl
  have htable := groupBy_cells ["site"] ["edits", "users"] hleast
  rw [hfind] at htable
  obtain ⟨table, hok, _, hnames, hpoints, htotal⟩ := htable
  refine ⟨hleast, hfind, table, hok, hnames, fun s hs hname => ?_, htotal⟩
  rw [hpoints s hs, hname]
  rfl

end DruidPanels.Reply
