import DruidPanels.Proofs.GroupTables
import DruidPanels.Proofs.SecondCuts
import DruidPanels.Proofs.TimeLine

/-! # SQL rows as rows of groups

An SQL row has a time of its own or takes that of the clock ten minutes ago (`RowTime`).
With these times the rows are pivoted as if they were the events of a reply of groups. But
the time ten minutes ago is computed for every reply, and where the calendar has none, no
reply can be pivoted, whatever times its rows have (`sql_eq_groupBy`). -/

namespace DruidPanels

/-! ## Ten minutes ago -/

namespace Instant

/-- `t` lies just ten minutes before the clock. -/
structure IsTenMinutesBefore (t now : Instant) : Prop where
  nanosFrom1970_eq : t.nanosFrom1970 + 600 * nanosPerSecond = now.nanosFrom1970
  not_leap : t.isLeap = false

theorem addSeconds?_fallbackAge_eq_some_iff {now t : Instant} :
    now.addSeconds? (-Reply.fallbackAge) = some t ↔ t.IsTenMinutesBefore now := by
  have hnow := now.nanos_lt
  have hparts : t.IsTenMinutesBefore now ↔ t.nanos < nanosPerSecond ∧
      t.seconds * nanosPerSecond + t.nanos + 600 * nanosPerSecond =
        now.seconds * nanosPerSecond + now.nanos := by
    constructor
    · rintro ⟨htotal, hleap⟩
      exact ⟨nanos_lt_of_not_leap hleap, htotal⟩
    · rintro ⟨hnanos, htotal⟩
      exact ⟨htotal, decide_eq_false (Nat.not_le_of_lt hnanos)⟩
  rw [hparts]
  cases hleap : now.isLeap with
  | false =>
    have hbelow := nanos_lt_of_not_leap hleap
    rw [addSeconds?_of_not_leap hleap, of?_eq_some_iff]
    simp only [Reply.fallbackAge, nanosPerSecond]
    omega
  | true =>
    have hfrom : nanosPerSecond ≤ now.nanos := of_decide_eq_true hleap
    have hneg : -Reply.fallbackAge < 0 := by decide
    rw [addSeconds?, if_neg (by decide), hleap, if_pos rfl, if_pos hneg, of?_eq_some_iff]
    simp only [Reply.fallbackAge, nanosPerSecond] at *
    omega

/-- There is such an instant unless the calendar is less than ten minutes old. -/
theorem exists_isTenMinutesBefore_iff {now : Instant} :
    (∃ t : Instant, t.IsTenMinutesBefore now) ↔
      (firstSecond + 600) * nanosPerSecond ≤ now.nanosFrom1970 := by
  have hfirst := now.firstSecond_le
  have hlast := now.le_lastSecond
  have hnanos := now.nanos_lt
  constructor
  · rintro ⟨t, htotal, _⟩
    have htFirst := t.firstSecond_le
    rw [← htotal]
    simp only [nanosFrom1970, nanosPerSecond, firstSecond] at *
    omega
  · intro h
    simp only [nanosFrom1970, nanosPerSecond, firstSecond, lastSecond] at h hfirst hlast hnanos
    -- a leap second counts on into the next second
    let total := now.seconds * 1000000000 + now.nanos
    let t : Instant := ⟨total / 1000000000 - 600, (total % 1000000000).toNat,
      by simp only [firstSecond]; omega, by simp only [lastSecond]; omega,
      by simp only [nanosPerSecond]; omega⟩
    refine ⟨t, ?_, decide_eq_false ?_⟩
    · simp only [t, total, nanosFrom1970, nanosPerSecond]
      omega
    · simp only [t, total, nanosPerSecond]
      omega

end Instant

namespace Reply

/-! ## Rows as events -/

theorem exists_rowTimes {rows : List Json} (h : ∀ row ∈ rows, ¬ Mistimed row) (fallback : Int) :
    ∃ times, List.Forall₂ (fun row ms => RowTime fallback (Json.fields row) ms) rows times := by
  induction rows with
  | nil => exact ⟨[], .nil⟩
  | cons row rest ih =>
    obtain ⟨ms, hms⟩ := exists_rowTime (h row List.mem_cons_self) fallback
    obtain ⟨times, htimes⟩ := ih fun row' hrow' => h row' (List.mem_cons_of_mem _ hrow')
    exact ⟨ms :: times, .cons hms htimes⟩

theorem bucketTime_groupRow {ms : Int} (hleast : Word.least ≤ ms) (hgreatest : ms ≤ Word.greatest)
    (event : Json) : bucketTime (groupRow ms event) = Timestamp.cutToSecond ms := by
  change Timestamp.cutToSecond (Word.saturate ms) = _
  rw [Word.saturate_eq_self hleast hgreatest]

/-- A row with its time comes to what it comes to as an event at that time. -/
theorem timedRow_eq_groupRow {fallback : Instant} {row : Json} {ms : Int}
    (h : RowTime fallback.millis row.fields ms) :
    timedRow fallback.millis row =
      (bucketTime (groupRow ms row)).map (eventOf (groupRow ms row), ·) := by
  obtain ⟨hleast, hgreatest⟩ := h.fits
  rw [timedRow_of_rowTime h, bucketTime_groupRow hleast hgreatest]
  rfl

theorem groupBy_arr (rows : List Json) (dimensions metrics : List String) :
    groupBy (.arr rows) dimensions metrics =
      (rows.mapM fun row => (bucketTime row).map (eventOf row, ·)).map
        (pivot dimensions metrics) := by
  have hevents : (timed rows).map (List.map fun row => (eventOf row.1, row.2)) =
      rows.mapM fun row => (bucketTime row).map (eventOf row, ·) := by
    rw [timed, Itemwise.map_mapM]
    refine congrArg (rows.mapM ·) (funext fun row => ?_)
    cases bucketTime row <;> rfl
  rw [← hevents]
  change (timed rows >>= fun rows => _) = _
  cases timed rows <;> rfl

theorem sql_of_rowTimes {now fallback : Instant} {rows : List Json} {times : List Int}
    (hnow : now.addSeconds? (-fallbackAge) = some fallback)
    (h : List.Forall₂ (fun row ms => RowTime fallback.millis (Json.fields row) ms) rows times)
    (dimensions metrics : List String) :
    sql (.arr rows) dimensions metrics now =
      groupBy (.arr (List.zipWith groupRow times rows)) dimensions metrics := by
  have hread : rows.mapM (timedRow fallback.millis) =
      (List.zipWith groupRow times rows).mapM fun row =>
        (bucketTime row).map (eventOf row, ·) := by
    -- the first row that cannot be timed is the same on both sides
    induction h with
    | nil => rfl
    | cons hms _ ih =>
      rw [List.zipWith_cons_cons, List.mapM_cons, List.mapM_cons, timedRow_eq_groupRow hms, ih]
  rw [sql_arr hnow, hread, groupBy_arr]

theorem exists_timedRows_of_rowTimes {fallback : Instant} {rows : List Json} {times : List Int}
    (h : List.Forall₂ (fun row ms => RowTime fallback.millis (Json.fields row) ms) rows times)
    (hleast : ∀ ms ∈ times, Timestamp.leastSecond ≤ ms) :
    ∃ timed, rows.mapM (timedRow fallback.millis) = .ok timed := by
  induction h with
  | nil => exact ⟨[], rfl⟩
  | cons hms _ ih =>
    obtain ⟨hfirst, hrest⟩ := List.forall_mem_cons.mp hleast
    obtain ⟨timed, htimed⟩ := ih hrest
    rw [List.mapM_cons, timedRow_of_leastSecond_le hms hfirst, htimed]
    exact ⟨_, rfl⟩

/-- The time ten minutes ago is computed before any row is looked at. -/
theorem sql_of_early {now : Instant}
    (h : now.nanosFrom1970 < (Instant.firstSecond + 600) * Instant.nanosPerSecond)
    (rows : List Json) (dimensions metrics : List String) :
    sql (.arr rows) dimensions metrics now = .error .abort := by
  have hnone : now.addSeconds? (-fallbackAge) = none := by
    refine Option.eq_none_iff_forall_ne_some.mpr fun t ht => ?_
    have hbefore := Instant.addSeconds?_fallbackAge_eq_some_iff.mp ht
    have hafter := Instant.exists_isTenMinutesBefore_iff.mp ⟨t, hbefore⟩
    omega
  simp only [sql, items, hnone]
  rfl

/-- **SQL rows are pivoted as rows of groups, wherever ten minutes ago there was a time.**
Let the clock show a time of the first ten minutes of the calendar. Then the reply is
abandoned for all rows, with times of their own or without. At all other times there is
one ten minutes before the clock. If a row gives a `timestamp` that cannot be read, and no
row before it a time that cannot be cut, the reply is unusable then. If no row gives such a
`timestamp`, each has a time, and the rows come to what a reply of groups comes to with the
same rows as events at these times. This is a table if the times can be cut. -/
theorem sql_eq_groupBy (rows : List Json) (dimensions metrics : List String) (now : Instant) :
    (now.nanosFrom1970 < (Instant.firstSecond + 600) * Instant.nanosPerSecond →
      sql (.arr rows) dimensions metrics now = .error .abort) ∧
    ((Instant.firstSecond + 600) * Instant.nanosPerSecond ≤ now.nanosFrom1970 →
      ∃ fallback : Instant, fallback.IsTenMinutesBefore now ∧
        (∀ before row after, rows = before ++ row :: after → (∀ r ∈ before, ¬ TooEarly r) →
          Mistimed row → sql (.arr rows) dimensions metrics now =
            .error ReplyError.unreadableSqlTimestamp.fault) ∧
        ((∀ row ∈ rows, ¬ Mistimed row) → ∃ times,
          List.Forall₂ (fun row ms => RowTime fallback.millis (Json.fields row) ms) rows times ∧
          sql (.arr rows) dimensions metrics now =
            groupBy (.arr (List.zipWith groupRow times rows)) dimensions metrics ∧
          ((∀ ms ∈ times, Timestamp.leastSecond ≤ ms) →
            ∃ table, sql (.arr rows) dimensions metrics now = .ok table))) := by
  constructor
  · exact fun hnow => sql_of_early hnow rows dimensions metrics
  · intro hnow
    obtain ⟨fallback, hbefore⟩ := Instant.exists_isTenMinutesBefore_iff.mpr hnow
    have hfallback := Instant.addSeconds?_fallbackAge_eq_some_iff.mpr hbefore
    refine ⟨fallback, hbefore, ?_, ?_⟩
    · intro before row after hrows hcut hmistimed
      subst hrows
      exact sql_of_mistimed hfallback hcut hmistimed dimensions metrics
    · intro htimed
      obtain ⟨times, htimes⟩ := exists_rowTimes htimed fallback.millis
      refine ⟨times, htimes, sql_of_rowTimes hfallback htimes dimensions metrics, fun hleast => ?_⟩
      obtain ⟨table, htable⟩ := exists_timedRows_of_rowTimes htimes hleast
      rw [sql_arr hfallback, htable]
      exact ⟨_, rfl⟩

/-- A clock at the start of the calendar. -/
def firstClock : Instant :=
  ⟨Instant.firstSecond, 0, by decide, by decide, Instant.epoch.nanos_lt⟩

/-- An edit that says when it was made. -/
def datedRow : Json :=
  .obj [("timestamp", .ofInt 1000), ("site", .str "en"), ("edits", .ofInt 1)]

theorem rowTime_datedRow (fallback : Int) : RowTime fallback datedRow.fields 1000 := by
  refine .timestamp rfl ?_ rfl
  rw [← truthy_eq_false_iff]
  exact Bool.noConfusion

/-- At the start of the calendar a row with a time of its own is not pivoted, though as an
event it is. In 1970 it is, and a row whose time is no time is refused. -/
theorem sql_firstClock :
    (firstClock.nanosFrom1970 < (Instant.firstSecond + 600) * Instant.nanosPerSecond ∧
      (∀ fallback, RowTime fallback datedRow.fields 1000) ∧
      sql (.arr [datedRow]) ["site"] ["edits"] firstClock = .error .abort ∧
      groupBy (.arr [groupRow 1000 datedRow]) ["site"] ["edits"] =
        .ok [⟨"en:edits", [⟨.ofInt 1, 1000⟩]⟩]) ∧
    (Instant.firstSecond + 600) * Instant.nanosPerSecond ≤ Instant.epoch.nanosFrom1970 ∧
      ¬ TooEarly datedRow ∧ Mistimed flaggedRow ∧
      sql (.arr [datedRow, flaggedRow]) ["site"] ["edits"] .epoch =
        .error ReplyError.unreadableSqlTimestamp.fault ∧
      ¬ Mistimed datedRow ∧ ∃ table,
        groupBy (.arr [groupRow 1000 datedRow]) ["site"] ["edits"] = .ok table ∧
        sql (.arr [datedRow]) ["site"] ["edits"] .epoch = .ok table := by
  obtain ⟨habandoned, _⟩ := sql_eq_groupBy [datedRow] ["site"] ["edits"] firstClock
  obtain ⟨_, hpivoted⟩ := sql_eq_groupBy [datedRow] ["site"] ["edits"] .epoch
  obtain ⟨_, hmixed⟩ := sql_eq_groupBy [datedRow, flaggedRow] ["site"] ["edits"] .epoch
  have hfirst : firstClock.nanosFrom1970 <
      (Instant.firstSecond + 600) * Instant.nanosPerSecond := by decide
  have hepoch : (Instant.firstSecond + 600) * Instant.nanosPerSecond ≤
      Instant.epoch.nanosFrom1970 := by decide
  have hdated : ¬ Mistimed datedRow := fun h => h.2 (.number _)
  have hflagged : Mistimed flaggedRow := ⟨rfl, nofun⟩
  have hcut : ¬ TooEarly datedRow :=
    not_tooEarly_of_rowTime (rowTime_datedRow 0) (by decide)
  obtain ⟨_, _, hrefused, _⟩ := hmixed hepoch
  obtain ⟨_, _, _, htable⟩ := hpivoted hepoch
  obtain ⟨times, htimes, hsame, hok⟩ := htable (by simpa using hdated)
  have h1000 : times = [1000] := by
    obtain ⟨ms, rest, hms, hrest, rfl⟩ := List.forall₂_cons_left_iff.mp htimes
    cases hrest
    rw [hms.unique (rowTime_datedRow _)]
  subst h1000
  obtain ⟨table, hsql⟩ := hok (by decide)
  refine ⟨⟨hfirst, rowTime_datedRow, habandoned hfirst, rfl⟩, hepoch, hcut, hflagged, ?_,
    hdated, table, hsame.symm.trans hsql, hsql⟩
  exact hrefused [datedRow] flaggedRow [] rfl (by simpa using hcut) hflagged

end Reply

end DruidPanels
