import DruidPanels.Proofs.WholeSeconds
import DruidPanels.Reply.Pivot

/-! # Times of SQL rows

A row has the time that it gives as `timestamp`, else the one that it gives as `__time`,
else the one ten minutes before the clock (`RowTime`). A value that is there may still
count as not given, and one that is given may be none that can be read: as `__time` it is
passed over, as `timestamp` it leaves the row without a time (`Mistimed`). A time that is
read may lie in a second that sixty-four bits cannot hold (`TooEarly`). -/

namespace DruidPanels

namespace Timestamp

/-- A value that can be read as a time: a number, or a text that gives an instant between
any blanks. -/
inductive IsTime : Json → Prop
  | number (n : Number) : IsTime (.num n)
  | text {s : String} {t : Instant} (h : Instant.parse? (Text.trim s) = some t) : IsTime (.str s)

theorem isTime_iff {value : Json} : IsTime value ↔ ∃ ms, millis? value = some ms := by
  constructor
  · intro h
    cases h with
    | number n => exact ⟨_, rfl⟩
    | text h => exact ⟨_, Option.map_eq_some_iff.mpr ⟨_, h, rfl⟩⟩
  · rintro ⟨ms, hms⟩
    cases value with
    | num n => exact .number n
    | str s =>
      obtain ⟨t, ht, _⟩ := Option.map_eq_some_iff.mp hms
      exact .text ht
    | null | bool | arr | obj => cases hms

theorem millis?_of_not_isTime {value : Json} (h : ¬ IsTime value) : millis? value = none := by
  cases hms : millis? value with
  | none => rfl
  | some ms => exact absurd (isTime_iff.mpr ⟨ms, hms⟩) h

end Timestamp

namespace Reply

open Timestamp (IsTime)

/-! ## What a row gives -/

/-- A value that does not count: none, null, `false`, zero or an empty text. -/
inductive NotGiven : Option Json → Prop
  | missing : NotGiven none
  | null : NotGiven (some .null)
  | no : NotGiven (some (.bool false))
  | zero : NotGiven (some (.num (.int 0)))
  | floatZero {x : Float} (h : (x == 0) = true) : NotGiven (some (.num (.float x)))
  | emptyText : NotGiven (some (.str ""))

theorem truthy_eq_false_iff {value : Option Json} :
    truthy (orNull value) = false ↔ NotGiven value := by
  constructor
  · intro h
    match value with
    | none => exact .missing
    | some .null => exact .null
    | some (.bool b) =>
      cases h
      exact .no
    | some (.num (.int n)) =>
      have hzero : n = 0 := Classical.not_not.mp (of_decide_eq_false h)
      exact hzero ▸ .zero
    | some (.num (.float x)) =>
      refine .floatZero ?_
      exact (Bool.not_eq_false' ..).mp h
    | some (.str s) =>
      have hempty : s.isEmpty = true := (Bool.not_eq_false' ..).mp h
      have : s = "" := String.isEmpty_iff.mp hempty
      exact this ▸ .emptyText
    | some (.arr items) => cases h
    | some (.obj fields) => cases h
  · intro h
    cases h with
    | floatZero hx => exact congrArg not hx
    | missing | null | no | zero | emptyText => rfl

theorem truthy_of_given {value : Option Json} (h : ¬ NotGiven value) :
    truthy (orNull value) = true := by
  rw [← Bool.not_eq_false, truthy_eq_false_iff]
  exact h

theorem exists_of_given {value : Option Json} (h : ¬ NotGiven value) :
    ∃ given, value = some given :=
  Option.ne_none_iff_exists'.mp fun hnone => h (hnone ▸ .missing)

/-- The time of a row: its own `timestamp`, else its own `__time` if that is readable, else
`fallback`. -/
inductive RowTime (fallback : Int) (row : Fields) : Int → Prop
  | timestamp {value : Json} {ms : Int} (hvalue : Fields.get? row "timestamp" = some value)
      (hgiven : ¬ NotGiven (some value)) (hread : Timestamp.millis? value = some ms) :
      RowTime fallback row ms
  | time {value : Json} {ms : Int} (htimestamp : NotGiven (Fields.get? row "timestamp"))
      (hvalue : Fields.get? row "__time" = some value) (hgiven : ¬ NotGiven (some value))
      (hread : Timestamp.millis? value = some ms) : RowTime fallback row ms
  | fallback (htimestamp : NotGiven (Fields.get? row "timestamp"))
      (htime : ∀ value, Fields.get? row "__time" = some value → ¬ NotGiven (some value) →
        Timestamp.millis? value = none) : RowTime fallback row fallback

theorem sqlTime_of_given {fallback : Int} {row : Fields} {value : Json}
    (hvalue : Fields.get? row "timestamp" = some value) (hgiven : ¬ NotGiven (some value)) :
    sqlTime fallback row = match Timestamp.millis? value with
      | some ms => .ok ms
      | none => .error ReplyError.unreadableSqlTimestamp.fault := by
  have htruthy : truthy (orNull (Fields.get? row "timestamp")) = true :=
    truthy_of_given (hvalue ▸ hgiven)
  simp only [sqlTime, htruthy, if_true]
  rw [hvalue]
  rfl

/-- A row without a `timestamp` takes its `__time` if that is given and readable. -/
theorem sqlTime_of_notGiven {fallback : Int} {row : Fields}
    (h : NotGiven (Fields.get? row "timestamp")) :
    sqlTime fallback row = .ok (if truthy (orNull (Fields.get? row "__time")) then
      (Timestamp.millis? (orNull (Fields.get? row "__time"))).getD fallback else fallback) := by
  simp only [sqlTime, truthy_eq_false_iff.mpr h, Bool.false_eq_true, if_false]
  split <;> rfl

theorem sqlTime_of_time {fallback ms : Int} {row : Fields} {value : Json}
    (h : NotGiven (Fields.get? row "timestamp")) (hvalue : Fields.get? row "__time" = some value)
    (hgiven : ¬ NotGiven (some value)) (hread : Timestamp.millis? value = some ms) :
    sqlTime fallback row = .ok ms := by
  have htruthy : truthy (orNull (some value)) = true := truthy_of_given hgiven
  have htime : Timestamp.millis? (orNull (some value)) = some ms := hread
  rw [sqlTime_of_notGiven h, hvalue, if_pos htruthy, htime, Option.getD_some]

theorem sqlTime_of_fallback {fallback : Int} {row : Fields}
    (h : NotGiven (Fields.get? row "timestamp"))
    (hnone : ∀ value, Fields.get? row "__time" = some value → ¬ NotGiven (some value) →
      Timestamp.millis? value = none) : sqlTime fallback row = .ok fallback := by
  rw [sqlTime_of_notGiven h]
  by_cases htime : NotGiven (Fields.get? row "__time")
  · rw [truthy_eq_false_iff.mpr htime, if_neg Bool.false_ne_true]
  · rw [if_pos (truthy_of_given htime)]
    obtain ⟨value, hvalue⟩ := exists_of_given htime
    have hread : Timestamp.millis? (orNull (some value)) = none :=
      hnone value hvalue (hvalue ▸ htime)
    rw [hvalue, hread, Option.getD_none]

theorem sqlTime_of_rowTime {fallback ms : Int} {row : Fields} (h : RowTime fallback row ms) :
    sqlTime fallback row = .ok ms := by
  cases h with
  | timestamp hvalue hgiven hread => rw [sqlTime_of_given hvalue hgiven, hread]
  | time htimestamp hvalue hgiven hread => exact sqlTime_of_time htimestamp hvalue hgiven hread
  | fallback htimestamp htime => exact sqlTime_of_fallback htimestamp htime

theorem RowTime.unique {fallback ms other : Int} {row : Fields} (h : RowTime fallback row ms)
    (h' : RowTime fallback row other) : ms = other :=
  Except.ok.inj ((sqlTime_of_rowTime h).symm.trans (sqlTime_of_rowTime h'))

/-! ## Rows that have a time -/

/-- The row gives a time that cannot be read. -/
def Mistimed (row : Json) : Prop :=
  truthy (orNull (Fields.get? row.fields "timestamp")) = true ∧
    ¬ IsTime (orNull (Fields.get? row.fields "timestamp"))

theorem sqlTime_of_mistimed {row : Json} (h : Mistimed row) (fallback : Int) :
    sqlTime fallback row.fields = .error ReplyError.unreadableSqlTimestamp.fault := by
  simp only [sqlTime, h.1, if_true, Timestamp.millis?_of_not_isTime h.2]

/-- Every row has a time, unless it gives one that cannot be read. -/
theorem exists_rowTime {row : Json} (h : ¬ Mistimed row) (fallback : Int) :
    ∃ ms, RowTime fallback row.fields ms := by
  by_cases htimestamp : NotGiven (Fields.get? row.fields "timestamp")
  · by_cases htime : NotGiven (Fields.get? row.fields "__time")
    · exact ⟨fallback, .fallback htimestamp fun _ hvalue hgiven => absurd (hvalue ▸ htime) hgiven⟩
    · obtain ⟨value, hvalue⟩ := exists_of_given htime
      rw [hvalue] at htime
      cases hread : Timestamp.millis? value with
      | some ms => exact ⟨ms, .time htimestamp hvalue htime hread⟩
      | none =>
        refine ⟨fallback, .fallback htimestamp fun value' hvalue' _ => ?_⟩
        cases hvalue.symm.trans hvalue'
        exact hread
  · obtain ⟨value, hvalue⟩ := exists_of_given htimestamp
    have htime : IsTime (orNull (Fields.get? row.fields "timestamp")) :=
      Classical.not_not.mp fun hnot => h ⟨truthy_of_given htimestamp, hnot⟩
    rw [hvalue] at htimestamp htime
    obtain ⟨ms, hms⟩ := Timestamp.isTime_iff.mp htime
    exact ⟨ms, .timestamp hvalue htimestamp hms⟩

theorem RowTime.fits {fallback : Instant} {row : Fields} {ms : Int}
    (h : RowTime fallback.millis row ms) : Word.least ≤ ms ∧ ms ≤ Word.greatest := by
  cases h with
  | timestamp _ _ hread => exact Timestamp.millis?_fits hread
  | time _ _ _ hread => exact Timestamp.millis?_fits hread
  | fallback => exact fallback.millis_fits

theorem timedRow_of_mistimed {row : Json} (h : Mistimed row) (fallback : Int) :
    timedRow fallback row = .error ReplyError.unreadableSqlTimestamp.fault := by
  rw [timedRow, sqlTime_of_mistimed h]
  rfl

theorem timedRow_of_rowTime {fallback ms : Int} {row : Json} (h : RowTime fallback row.fields ms) :
    timedRow fallback row = (Timestamp.cutToSecond ms).map (row.fields, ·) := by
  rw [timedRow, sqlTime_of_rowTime h]
  rfl

/-- The row gives a time that lies before the least second. -/
def TooEarly (row : Json) : Prop :=
  ∃ ms, ms < Timestamp.leastSecond ∧ ∀ fallback, RowTime fallback row.fields ms

/-- The clock has no time before the least second, so a row with such a time gives it. -/
theorem RowTime.tooEarly {fallback : Instant} {row : Json} {ms : Int}
    (h : RowTime fallback.millis row.fields ms) (hlt : ms < Timestamp.leastSecond) :
    TooEarly row := by
  refine ⟨ms, hlt, fun _ => ?_⟩
  cases h with
  | timestamp hvalue hgiven hread => exact .timestamp hvalue hgiven hread
  | time htimestamp hvalue hgiven hread => exact .time htimestamp hvalue hgiven hread
  | fallback => exact absurd (Timestamp.leastSecond_le_millis fallback) (Int.not_le.mpr hlt)

theorem not_tooEarly_of_rowTime {fallback ms : Int} {row : Json}
    (h : RowTime fallback row.fields ms) (hleast : Timestamp.leastSecond ≤ ms) :
    ¬ TooEarly row := by
  intro hearly
  obtain ⟨other, hlt, hother⟩ := hearly
  rw [(hother fallback).unique h] at hlt
  exact absurd hleast (Int.not_le.mpr hlt)

theorem timedRow_of_tooEarly {row : Json} (h : TooEarly row) (fallback : Int) :
    timedRow fallback row = .error .abort := by
  obtain ⟨ms, hlt, hms⟩ := h
  rw [timedRow_of_rowTime (hms fallback), Timestamp.cutToSecond_of_lt hlt]
  rfl

/-- The time of any other row is cut to its second. -/
theorem timedRow_of_leastSecond_le {fallback : Instant} {row : Json} {ms : Int}
    (h : RowTime fallback.millis row.fields ms) (hleast : Timestamp.leastSecond ≤ ms) :
    timedRow fallback.millis row = .ok (row.fields, ms / 1000 * 1000) := by
  rw [timedRow_of_rowTime h, Timestamp.cutToSecond_of_le hleast h.fits.2]
  rfl

/-- A row can be timed, or gives a time that cannot be read, or one that is too early. -/
theorem timedRow_cases (row : Json) (fallback : Instant) :
    Mistimed row ∨ TooEarly row ∨ ∃ ms, RowTime fallback.millis row.fields ms ∧
      Timestamp.leastSecond ≤ ms := by
  by_cases hmistimed : Mistimed row
  · exact .inl hmistimed
  · obtain ⟨ms, hms⟩ := exists_rowTime hmistimed fallback.millis
    by_cases hleast : Timestamp.leastSecond ≤ ms
    · exact .inr (.inr ⟨ms, hms, hleast⟩)
    · exact .inr (.inl (hms.tooEarly (Int.not_le.mp hleast)))

theorem exists_timedRow_iff {row : Json} {fallback : Instant} :
    (∃ timed, timedRow fallback.millis row = .ok timed) ↔ ¬ Mistimed row ∧ ¬ TooEarly row := by
  constructor
  · intro hread
    obtain ⟨timed, htimed⟩ := hread
    refine ⟨fun hmistimed => ?_, fun hearly => ?_⟩
    · cases htimed.symm.trans (timedRow_of_mistimed hmistimed _)
    · cases htimed.symm.trans (timedRow_of_tooEarly hearly _)
  · intro hnot
    obtain ⟨hmistimed, hearly⟩ := hnot
    rcases timedRow_cases row fallback with h | h | ⟨ms, hms, hleast⟩
    · exact absurd h hmistimed
    · exact absurd h hearly
    · exact ⟨_, timedRow_of_leastSecond_le hms hleast⟩

end Reply

end DruidPanels
