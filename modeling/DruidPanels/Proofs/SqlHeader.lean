import DruidPanels.Proofs.Fields
import DruidPanels.Proofs.SqlRows

/-! # The header of an SQL reply

SQL is asked with a header, an object that has null under the name of every column. The
pivot takes it for a row: it has no time and no labels, so it puts a null for each metric
ten minutes before the clock, under the name of the group without labels
(`toSeries_headerRow`). -/

namespace DruidPanels.Reply

/-- The object that stands before the rows of a reply with a header. -/
def headerRow (columns : List String) : Json := .obj (columns.map fun column => (column, .null))

theorem get?_headerRow (columns : List String) (key : String) :
    Fields.get? (headerRow columns).fields key = if key ∈ columns then some .null else none := by
  change Fields.get? (columns.map fun column => (column, Json.null)) key = _
  induction columns with
  | nil => rfl
  | cons column rest ih =>
    rw [List.map_cons, Fields.get?_cons, ih]
    by_cases h : key = column
    · rw [if_pos h, if_pos (h ▸ List.mem_cons_self)]
    · simp only [List.mem_cons, h, if_false, false_or]

theorem notGiven_headerRow (columns : List String) (key : String) :
    NotGiven (Fields.get? (headerRow columns).fields key) := by
  rw [get?_headerRow]
  split
  · exact .null
  · exact .missing

/-- A header has no time of its own. -/
theorem rowTime_headerRow (columns : List String) (fallback : Int) :
    RowTime fallback (headerRow columns).fields fallback :=
  .fallback (notGiven_headerRow columns _) fun _ hvalue hgiven =>
    absurd (hvalue ▸ notGiven_headerRow columns _) hgiven

/-- The name under which a metric stands for the group that has no labels. -/
def blankName (dimensions : List String) (metric : String) : String :=
  "-".intercalate (dimensions.map fun _ => "") ++ ":" ++ metric

theorem groupPoints_headerRow (columns dimensions metrics : List String) (time : Int) :
    groupPoints dimensions metrics ((headerRow columns).fields, time) =
      metrics.map fun metric => (blankName dimensions metric, ⟨.null, time⟩) := by
  have hlabel (key : String) : label "" (Fields.get? (headerRow columns).fields key) = "" := by
    rw [get?_headerRow]
    split <;> rfl
  have hvalue (key : String) : orNull (Fields.get? (headerRow columns).fields key) = .null := by
    rw [get?_headerRow]
    split <;> rfl
  simp only [groupPoints, groupName, hlabel, hvalue, blankName]

/-! ## The table with a header -/

/-- What a table is with the nulls of a header at `time`. -/
structure Headed (dimensions metrics : List String) (time : Int) (table headed : List Series) :
    Prop where
  names : headed.map (·.name) =
    (metrics.map (blankName dimensions) ++ table.map (·.name)).eraseDups
  points : ∀ name, Series.named headed name =
    ((metrics.filter fun metric => blankName dimensions metric = name).map fun _ =>
      (⟨.null, time⟩ : Point)) ++ Series.named table name

theorem headed_pivot (columns dimensions metrics : List String) (time : Int)
    (rows : List (Fields × Int)) :
    Headed dimensions metrics time (pivot dimensions metrics rows)
      (pivot dimensions metrics (((headerRow columns).fields, time) :: rows)) := by
  have hpoints : ((((headerRow columns).fields, time) :: rows).flatMap
      (groupPoints dimensions metrics)) =
        (metrics.map fun metric => (blankName dimensions metric, (⟨.null, time⟩ : Point))) ++
          rows.flatMap (groupPoints dimensions metrics) := by
    rw [List.flatMap_cons, groupPoints_headerRow]
  constructor
  · rw [pivot, pivot, Series.names_tabulate, Series.names_tabulate, hpoints, List.map_append,
      Series.eraseDups_append_eraseDups, List.map_map]
    rfl
  · intro name
    rw [pivot, pivot, Series.named_tabulate, Series.named_tabulate, hpoints,
      Series.pointsOf_append]
    congr 1
    simp only [Series.pointsOf, List.filter_map, List.map_map]
    rfl

/-- A header leaves no trace just if there are no metrics. -/
theorem pivot_headerRow_eq_iff (columns dimensions metrics : List String) (time : Int)
    (rows : List (Fields × Int)) :
    pivot dimensions metrics (((headerRow columns).fields, time) :: rows) =
      pivot dimensions metrics rows ↔ metrics = [] := by
  constructor
  · intro h
    have hcount := congrArg (fun table => (table.flatMap (·.points)).length) h
    simp only [length_points_pivot, List.length_cons, Nat.add_mul, Nat.one_mul] at hcount
    exact List.eq_nil_of_length_eq_zero (by omega)
  · rintro rfl
    simp [pivot, groupPoints]

/-- A header is timed ten minutes before the clock. -/
theorem timedRow_headerRow {fallback : Instant} (h : fallback.isLeap = false)
    (columns : List String) :
    timedRow fallback.millis (headerRow columns) =
      .ok ((headerRow columns).fields, fallback.seconds * 1000) := by
  have hnanos := Instant.nanos_lt_of_not_leap h
  have hsecond : fallback.millis / 1000 * 1000 = fallback.seconds * 1000 := by
    simp only [Instant.millis]
    omega
  rw [timedRow_of_leastSecond_le (rowTime_headerRow columns _)
    (Timestamp.leastSecond_le_millis fallback), hsecond]

theorem sql_headerRow {now fallback : Instant} (hbefore : fallback.IsTenMinutesBefore now)
    (columns : List String) (rows : List Json) (dimensions metrics : List String) :
    sql (.arr (headerRow columns :: rows)) dimensions metrics now =
      (rows.mapM (timedRow fallback.millis)).map fun timed =>
        pivot dimensions metrics
          (((headerRow columns).fields, fallback.seconds * 1000) :: timed) := by
  rw [sql_arr (Instant.addSeconds?_fallbackAge_eq_some_iff.mpr hbefore), List.mapM_cons,
    timedRow_headerRow hbefore.not_leap]
  cases rows.mapM (timedRow fallback.millis) <;> rfl

/-- **A header adds a null for each metric.** Every SQL query asks for objects with a
header. If it comes, the answer is another one, unless there are no metrics or there is no
table anyhow, because a row gives a time that cannot be read or cut, or the calendar has no
time ten minutes before the clock. Where there is a table, the header puts a null for each
metric into the second ten minutes before the clock, before all other points of the group
without labels, whose series come first then. All other points stay. -/
theorem toSeries_headerRow (q : SqlQuery) (o : Overrides) (columns : List String)
    (rows : List Json) (now : Instant) :
    let spec := QuerySpec.sql q
    (Fields.get? (spec.body o) "resultFormat" = some (.str "object") ∧
      Fields.get? (spec.body o) "header" = some (.bool true)) ∧
    (toSeries spec (.arr (headerRow columns :: rows)) now = toSeries spec (.arr rows) now ↔
      q.metrics = [] ∨ (∃ row ∈ rows, Mistimed row ∨ TooEarly row) ∨
        now.nanosFrom1970 < (Instant.firstSecond + 600) * Instant.nanosPerSecond) ∧
    ∀ table, toSeries spec (.arr rows) now = .ok table →
      ∃ (fallback : Instant) (headed : List Series), fallback.IsTenMinutesBefore now ∧
        toSeries spec (.arr (headerRow columns :: rows)) now = .ok headed ∧
        Headed q.dimensions q.metrics (fallback.seconds * 1000) table headed := by
  intro spec
  refine ⟨⟨rfl, rfl⟩, ?_⟩
  change (sql _ q.dimensions q.metrics now = sql _ q.dimensions q.metrics now ↔ _) ∧
    ∀ table, sql _ q.dimensions q.metrics now = .ok table → ∃ fallback headed, _ ∧
      sql _ q.dimensions q.metrics now = .ok headed ∧ _
  by_cases hearly : now.nanosFrom1970 < (Instant.firstSecond + 600) * Instant.nanosPerSecond
  · rw [sql_of_early hearly, sql_of_early hearly]
    exact ⟨iff_of_true rfl (.inr (.inr hearly)), nofun⟩
  obtain ⟨fallback, hbefore⟩ := Instant.exists_isTenMinutesBefore_iff.mpr (Int.not_lt.mp hearly)
  rw [sql_headerRow hbefore, sql_arr (Instant.addSeconds?_fallbackAge_eq_some_iff.mpr hbefore)]
  -- the rows are read behind the header as they are without it
  cases hread : rows.mapM (timedRow fallback.millis) with
  | error e =>
    have hfails : ∃ row ∈ rows, Mistimed row ∨ TooEarly row := by
      by_contra hnone
      obtain ⟨timed, htimed⟩ := exists_timedRows_iff.mpr hnone
      cases hread.symm.trans htimed
    exact ⟨iff_of_true rfl (.inr (.inl hfails)), nofun⟩
  | ok timed =>
    have hnone := exists_timedRows_iff.mp ⟨timed, hread⟩
    constructor
    · change (Except.ok _ = Except.ok _ ↔ _)
      simp only [Except.ok.injEq, pivot_headerRow_eq_iff, hearly, hnone, or_false]
    · intro table htable
      cases htable
      exact ⟨fallback, _, hbefore, rfl, headed_pivot columns q.dimensions q.metrics _ timed⟩

def editsBySite : SqlQuery := ⟨"SELECT __time, site, edits FROM wiki", ["site"], ["edits"]⟩

/-- Edits of a site on the first day of 2024. -/
def siteRow : Json :=
  .obj [("__time", .ofInt 1704067200000), ("site", .str "en"), ("edits", .ofInt 4)]

/-- With its header the reply has a series more, of a null. -/
theorem toSeries_editsBySite :
    let columns := ["__time", "site", "edits"]
    toSeries (.sql editsBySite) (.arr [siteRow]) .epoch =
        .ok [⟨"en:edits", [⟨.ofInt 4, 1704067200000⟩]⟩] ∧
      toSeries (.sql editsBySite) (.arr [headerRow columns, siteRow]) .epoch =
        .ok [⟨":edits", [⟨.null, -600000⟩]⟩, ⟨"en:edits", [⟨.ofInt 4, 1704067200000⟩]⟩] ∧
      toSeries (.sql editsBySite) (.arr [headerRow columns, siteRow]) .epoch ≠
        toSeries (.sql editsBySite) (.arr [siteRow]) .epoch := by
  intro columns
  obtain ⟨_, hiff, _⟩ := toSeries_headerRow editsBySite .empty columns [siteRow] .epoch
  refine ⟨rfl, rfl, fun hsame => ?_⟩
  have hread : ∃ timed, timedRow Instant.epoch.millis siteRow = .ok timed := ⟨_, rfl⟩
  obtain ⟨htimed, hcut⟩ := exists_timedRow_iff.mp hread
  rcases hiff.mp hsame with hmetrics | ⟨row, hrow, hfails⟩ | hearly
  · cases hmetrics
  · rw [List.mem_singleton.mp hrow] at hfails
    exact hfails.elim htimed hcut
  · exact absurd hearly (by decide)

end DruidPanels.Reply
