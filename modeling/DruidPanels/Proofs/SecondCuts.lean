import DruidPanels.Proofs.Itemwise
import DruidPanels.Proofs.RowTimes
import Mathlib.Order.Bounds.Basic

/-! # Cutting times to the second

The times of buckets and of SQL rows are cut to the start of their second, the last multiple
of a thousand milliseconds up to them. That start is a number of sixty-four bits unless the
time lies less than a second above the least of these numbers; then the cut is abandoned
(`CutsTo`). All that is readable is cut so, and nothing else is (`times_cutsTo`). -/

namespace DruidPanels

namespace Timestamp

/-- `start` is the last start of a second up to `ms`. -/
def IsSecondOf (ms start : Int) : Prop := IsGreatest {n | 1000 ∣ n ∧ n ≤ ms} start

theorem isSecondOf_iff {ms start : Int} : IsSecondOf ms start ↔ start = ms / 1000 * 1000 := by
  have hfloor : IsSecondOf ms (ms / 1000 * 1000) := by
    refine ⟨⟨Int.dvd_mul_left _ _, by omega⟩, ?_⟩
    rintro n ⟨hdvd, hle⟩
    omega
  constructor
  · exact fun h => h.unique hfloor
  · rintro rfl
    exact hfloor

/-- What comes of a cut: the start of the second if sixty-four bits can hold it, and
nothing if they cannot. -/
inductive CutsTo (ms : Int) : Except Fault Int → Prop
  | second {start : Int} (hsecond : IsSecondOf ms start) (hfits : Word.fits start = true) :
      CutsTo ms (.ok start)
  | abandoned {start : Int} (hsecond : IsSecondOf ms start) (hfits : Word.fits start = false) :
      CutsTo ms (.error .abort)

theorem cutsTo_cutToSecond (ms : Int) : CutsTo ms (cutToSecond ms) := by
  have hsecond : IsSecondOf ms (ms / 1000 * 1000) := isSecondOf_iff.mpr rfl
  cases hfits : Word.fits (ms / 1000 * 1000) with
  | true =>
    have hcut : cutToSecond ms = .ok (ms / 1000 * 1000) := if_pos hfits
    rw [hcut]
    exact .second hsecond hfits
  | false =>
    have hcut : cutToSecond ms = .error .abort := if_neg (Bool.not_eq_true _ ▸ hfits)
    rw [hcut]
    exact .abandoned hsecond hfits

theorem exists_cutToSecond_iff {ms : Int} (hgreatest : ms ≤ Word.greatest) :
    (∃ start, cutToSecond ms = .ok start) ↔ leastSecond ≤ ms := by
  by_cases hleast : leastSecond ≤ ms
  · exact iff_of_true ⟨_, cutToSecond_of_le hleast hgreatest⟩ hleast
  · rw [cutToSecond_of_lt (Int.not_le.mp hleast)]
    exact iff_of_false nofun hleast

end Timestamp

namespace Reply

open Timestamp (IsTime IsSecondOf CutsTo leastSecond)

/-! ## SQL rows -/

/-- The values of a row, with the second of its time. -/
def RowCutsTo (fallback : Int) (row : Json) (timed : Fields × Int) : Prop :=
  timed.1 = row.fields ∧ ∃ ms, RowTime fallback row.fields ms ∧ IsSecondOf ms timed.2 ∧
    Word.fits timed.2 = true

theorem sql_arr {now fallback : Instant} (h : now.addSeconds? (-fallbackAge) = some fallback)
    (rows : List Json) (dimensions metrics : List String) :
    sql (.arr rows) dimensions metrics now =
      (rows.mapM (timedRow fallback.millis)).map (pivot dimensions metrics) := by
  unfold sql items
  simp only [h]
  change (rows.mapM (timedRow fallback.millis) >>= fun timed => _) = _
  cases rows.mapM (timedRow fallback.millis) <;> rfl

/-- The first row that cannot be timed decides how an SQL reply fails. -/
theorem sql_of_timedRow {now fallback : Instant} {before after : List Json} {row : Json}
    {fault : Fault} (hnow : now.addSeconds? (-fallbackAge) = some fallback)
    (hbefore : ∀ r ∈ before, ∀ e, timedRow fallback.millis r = .error e → e = fault)
    (h : timedRow fallback.millis row = .error fault) (dimensions metrics : List String) :
    sql (.arr (before ++ row :: after)) dimensions metrics now = .error fault := by
  rw [sql_arr hnow, Itemwise.mapM_append_cons_eq_error hbefore h]
  rfl

theorem sql_of_mistimed {now fallback : Instant} {before after : List Json} {row : Json}
    (hnow : now.addSeconds? (-fallbackAge) = some fallback)
    (hbefore : ∀ r ∈ before, ¬ TooEarly r) (h : Mistimed row) (dimensions metrics : List String) :
    sql (.arr (before ++ row :: after)) dimensions metrics now =
      .error ReplyError.unreadableSqlTimestamp.fault := by
  refine sql_of_timedRow hnow (fun r hr e he => ?_) (timedRow_of_mistimed h _) dimensions metrics
  rcases timedRow_cases r fallback with hmistimed | hearly | ⟨ms, hms, hleast⟩
  · rw [timedRow_of_mistimed hmistimed] at he
    exact (Except.error.inj he).symm
  · exact absurd hearly (hbefore r hr)
  · cases he.symm.trans (timedRow_of_leastSecond_le hms hleast)

theorem sql_of_tooEarly {now fallback : Instant} {before after : List Json} {row : Json}
    (hnow : now.addSeconds? (-fallbackAge) = some fallback)
    (hbefore : ∀ r ∈ before, ¬ Mistimed r) (h : TooEarly row) (dimensions metrics : List String) :
    sql (.arr (before ++ row :: after)) dimensions metrics now = .error .abort := by
  refine sql_of_timedRow hnow (fun r hr e he => ?_) (timedRow_of_tooEarly h _) dimensions metrics
  rcases timedRow_cases r fallback with hmistimed | hearly | ⟨ms, hms, hleast⟩
  · exact absurd hmistimed (hbefore r hr)
  · rw [timedRow_of_tooEarly hearly] at he
    exact (Except.error.inj he).symm
  · cases he.symm.trans (timedRow_of_leastSecond_le hms hleast)

theorem rowCutsTo_of_timedRow {row : Json} {timed : Fields × Int} {fallback : Instant}
    (h : timedRow fallback.millis row = .ok timed) : RowCutsTo fallback.millis row timed := by
  rcases timedRow_cases row fallback with hmistimed | hearly | ⟨ms, hms, hleast⟩
  · cases h.symm.trans (timedRow_of_mistimed hmistimed _)
  · cases h.symm.trans (timedRow_of_tooEarly hearly _)
  · cases h.symm.trans (timedRow_of_leastSecond_le hms hleast)
    exact ⟨rfl, ms, hms, Timestamp.isSecondOf_iff.mpr rfl,
      (Timestamp.fits_second_iff hms.fits.2).mpr hleast⟩

theorem exists_timedRows_iff {rows : List Json} {fallback : Instant} :
    (∃ timed, rows.mapM (timedRow fallback.millis) = .ok timed) ↔
      ¬ ∃ row ∈ rows, Mistimed row ∨ TooEarly row := by
  rw [Itemwise.exists_mapM_eq_ok_iff]
  simp only [exists_timedRow_iff, not_exists, not_and, not_or]

/-- **Times are cut to their second, but for those next to the least number.** A value is
the time of a bucket if it is a number or the text of an instant. It is a number of
milliseconds in sixty-four bits then, which is cut to the start of its second. Only a time
less than a second above the least number has a start that needs more than sixty-four
bits, and there the cut is abandoned. Any other value makes the reply unusable. The same
goes for the rows of an SQL reply, whose times come from the row or from the clock: they
are all cut to their seconds, or the first row decides that gives a time that cannot be
read or one that cannot be cut. -/
theorem times_cutsTo (value : Json) (rows : List Json) (dimensions metrics : List String)
    (now : Instant) :
    (IsTime value → ∃ ms, Timestamp.millis? value = some ms ∧ Word.fits ms = true ∧
      CutsTo ms (Timestamp.ofBucket value) ∧
      ((∃ start, Timestamp.ofBucket value = .ok start) ↔ leastSecond ≤ ms)) ∧
    (¬ IsTime value →
      Timestamp.ofBucket value = .error (ReplyError.unreadableTimestamp value).fault) ∧
    ∀ fallback, now.addSeconds? (-fallbackAge) = some fallback →
      ((∀ row ∈ rows, ¬ Mistimed row) → (∀ row ∈ rows, ¬ TooEarly row) →
        ∃ timed, List.Forall₂ (RowCutsTo fallback.millis) rows timed ∧
          sql (.arr rows) dimensions metrics now = .ok (pivot dimensions metrics timed)) ∧
      ∀ before row after, rows = before ++ row :: after →
        ((∀ r ∈ before, ¬ TooEarly r) → Mistimed row →
          sql (.arr rows) dimensions metrics now =
            .error ReplyError.unreadableSqlTimestamp.fault) ∧
        ((∀ r ∈ before, ¬ Mistimed r) → TooEarly row →
          sql (.arr rows) dimensions metrics now = .error .abort) := by
  refine ⟨fun h => ?_, fun h => ?_, fun fallback hnow => ⟨fun hmistimed hearly => ?_, ?_⟩⟩
  · obtain ⟨ms, hms⟩ := Timestamp.isTime_iff.mp h
    have hfits := Timestamp.millis?_fits hms
    have hcut : Timestamp.ofBucket value = Timestamp.cutToSecond ms := by
      rw [Timestamp.ofBucket, hms]
    rw [hcut]
    exact ⟨ms, hms, Word.fits_iff.mpr hfits, Timestamp.cutsTo_cutToSecond ms,
      Timestamp.exists_cutToSecond_iff hfits.2⟩
  · rw [Timestamp.ofBucket, Timestamp.millis?_of_not_isTime h]
  · have hnone : ¬ ∃ row ∈ rows, Mistimed row ∨ TooEarly row := by
      intro hfails
      obtain ⟨row, hrow, hfails⟩ := hfails
      exact hfails.elim (hmistimed row hrow) (hearly row hrow)
    obtain ⟨timed, htimed⟩ := exists_timedRows_iff.mpr hnone
    refine ⟨timed, (Itemwise.mapM_eq_ok_iff.mp htimed).imp fun _ _ => rowCutsTo_of_timedRow, ?_⟩
    rw [sql_arr hnow, htimed]
    rfl
  · intro before row after hrows
    subst hrows
    exact ⟨fun hbefore h => sql_of_mistimed hnow hbefore h dimensions metrics,
      fun hbefore h => sql_of_tooEarly hnow hbefore h dimensions metrics⟩

/-- A row at the least number of milliseconds. -/
def earliestRow : Json := .obj [("timestamp", .ofInt Word.least), ("edits", .ofInt 1)]

theorem tooEarly_earliestRow : TooEarly earliestRow := by
  refine ⟨Word.least, by decide, fun _ => .timestamp rfl ?_ rfl⟩
  rw [← truthy_eq_false_iff]
  exact Bool.noConfusion

/-- A row whose time is no time. -/
def flaggedRow : Json := .obj [("timestamp", .bool true), ("edits", .ofInt 1)]

/-- A row a millisecond before 1970. -/
def sixtiesRow : Json := .obj [("__time", .ofInt (-1)), ("edits", .ofInt 1)]

theorem rowTime_sixtiesRow (fallback : Int) : RowTime fallback sixtiesRow.fields (-1) := by
  refine .time .missing rfl ?_ rfl
  rw [← truthy_eq_false_iff]
  exact Bool.noConfusion

/-- The cut of the least number of milliseconds is abandoned, in a bucket and in a row, but
not behind a row whose time cannot be read. A millisecond before 1970 is cut. -/
theorem times_cutsTo_least :
    (IsTime (.ofInt Word.least) ∧ Timestamp.ofBucket (.ofInt Word.least) = .error .abort) ∧
    (¬ IsTime .null ∧
      Timestamp.ofBucket .null = .error (ReplyError.unreadableTimestamp .null).fault) ∧
    (TooEarly earliestRow ∧
      sql (.arr [earliestRow, flaggedRow]) [] ["edits"] .epoch = .error .abort) ∧
    (Mistimed flaggedRow ∧
      sql (.arr [flaggedRow, earliestRow]) [] ["edits"] .epoch =
        .error ReplyError.unreadableSqlTimestamp.fault) ∧
    ¬ Mistimed sixtiesRow ∧ ¬ TooEarly sixtiesRow ∧ ∃ start, IsSecondOf (-1) start ∧
      sql (.arr [sixtiesRow]) [] ["edits"] .epoch =
        .ok (pivot [] ["edits"] [(sixtiesRow.fields, start)]) := by
  obtain ⟨hread, _, hearly⟩ :=
    times_cutsTo (.ofInt Word.least) [earliestRow, flaggedRow] [] ["edits"] .epoch
  obtain ⟨_, hrefused, hunreadable⟩ :=
    times_cutsTo .null [flaggedRow, earliestRow] [] ["edits"] .epoch
  obtain ⟨_, _, hsixties⟩ := times_cutsTo .null [sixtiesRow] [] ["edits"] .epoch
  have hfallback : Instant.epoch.addSeconds? (-fallbackAge) =
      some ⟨-600, 0, by decide, by decide, by decide⟩ := by decide
  have htooEarly := tooEarly_earliestRow
  have hmistimed : Mistimed flaggedRow := ⟨rfl, nofun⟩
  have htimed : ¬ Mistimed sixtiesRow := fun h => Bool.false_ne_true h.1
  have hnotEarly : ¬ TooEarly sixtiesRow :=
    not_tooEarly_of_rowTime (rowTime_sixtiesRow 0) (by decide)
  refine ⟨⟨.number _, ?_⟩, ⟨nofun, hrefused nofun⟩, ⟨htooEarly, ?_⟩, ⟨hmistimed, ?_⟩,
    htimed, hnotEarly, ?_⟩
  · obtain ⟨ms, hms, _, hcuts, hiff⟩ := hread (.number _)
    have hleast : Word.least = ms := Option.some.inj hms
    cases hcut : Timestamp.ofBucket (.ofInt Word.least) with
    | ok start =>
      have hle := hiff.mp ⟨start, hcut⟩
      rw [← hleast] at hle
      exact absurd hle (by decide)
    | error fault =>
      rw [hcut] at hcuts
      cases hcuts
      rfl
  · exact ((hearly _ hfallback).2 [] earliestRow [flaggedRow] rfl).2 nofun htooEarly
  · exact ((hunreadable _ hfallback).2 [] flaggedRow [earliestRow] rfl).1 nofun hmistimed
  · obtain ⟨timed, hall, hsql⟩ := (hsixties _ hfallback).1 (by simpa using htimed)
      (by simpa using hnotEarly)
    obtain ⟨row, rest, ⟨hfields, ms, hms, hsecond, _⟩, hrest, rfl⟩ :=
      List.forall₂_cons_left_iff.mp hall
    cases hrest
    rw [hms.unique (rowTime_sixtiesRow _)] at hsecond
    refine ⟨row.2, hsecond, ?_⟩
    rw [hsql, ← hfields]

end Reply

end DruidPanels
