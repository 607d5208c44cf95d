import DruidPanels.Proofs.DateMath
import DruidPanels.Proofs.UnitStarts

/-! # Rounding to units

A rounding lies between two starts of its unit: down it gives the first of them, up the
millisecond before the second (`Brackets`). They are the starts around the instant, as
they should be, unless a minute or an hour is rounded to before 1970 inside a unit:
then the count of seconds is cut toward 1970, and both roundings are those of the unit
after (`brackets_iff`). -/

namespace DruidPanels

namespace TimeUnit

/-- Cutting the count of seconds toward 1970 leads to the start after this second. -/
def Overshoots (second : Int) (unit : TimeUnit) : Prop :=
  (unit = .minute ∨ unit = .hour) ∧ second < 0 ∧ ¬ unit.StartsAt second

instance (second : Int) (unit : TimeUnit) : Decidable (unit.Overshoots second) :=
  inferInstanceAs (Decidable (_ ∧ _))

theorem Overshoots.startsAt_epoch {second : Int} {unit : TimeUnit} (h : unit.Overshoots second) :
    unit.StartsAt 0 := by
  rcases h.1 with rfl | rfl <;> decide

/-- The number of the unit that a second is rounded to. -/
def roundedNumber (second : Int) (unit : TimeUnit) : Int :=
  if unit.Overshoots second then unit.numberAt second + 1 else unit.numberAt second

theorem roundedNumber_of_ne {second : Int} {unit : TimeUnit} (hminute : unit ≠ .minute)
    (hhour : unit ≠ .hour) : unit.roundedNumber second = unit.numberAt second :=
  if_neg fun hover => hover.1.elim hminute hhour

theorem roundedNumber_of_startsAt {second : Int} {unit : TimeUnit} (h : unit.StartsAt second) :
    unit.roundedNumber second = unit.numberAt second :=
  if_neg fun hover => hover.2.2 h

/-- To take off a remainder that has the sign of the count is to round toward 0. -/
theorem sub_tmod_eq (n : Int) {width : Int} (h : 0 < width) :
    n - n.tmod width = (if n < 0 ∧ n % width ≠ 0 then n / width + 1 else n / width) * width := by
  have hdiv := Int.mul_ediv_add_emod n width
  have hwidth : (width.natAbs : Int) = width := Int.natAbs_of_nonneg h.le
  rw [Int.tmod_eq_emod]
  simp only [Int.dvd_iff_emod_eq_zero]
  by_cases hn : 0 ≤ n ∨ n % width = 0
  · rw [if_pos hn, if_neg (by omega), Int.mul_comm]
    omega
  · rw [if_neg hn, if_pos (by omega), Int.add_mul, Int.mul_comm (n / width)]
    omega

theorem startSecond_add_reach {unit : TimeUnit} {number count : Int}
    (h : unit.reach = .seconds count) :
    unit.startSecond number + count = unit.startSecond (number + 1) := by
  cases unit <;> cases h <;> simp only [startSecond, Instant.secondsPerDay] <;> omega

theorem startSecond_roundedNumber_minute (n : Int) :
    TimeUnit.minute.startSecond (TimeUnit.minute.roundedNumber n) = n - n.tmod 60 := by
  rw [sub_tmod_eq n (by decide)]
  simp [roundedNumber, Overshoots, StartsAt, numberAt, startSecond]

theorem startSecond_roundedNumber_hour (n : Int) :
    TimeUnit.hour.startSecond (TimeUnit.hour.roundedNumber n) = n - n.tmod 3600 := by
  rw [sub_tmod_eq n (by decide)]
  simp [roundedNumber, Overshoots, StartsAt, numberAt, startSecond]

end TimeUnit

namespace Step

theorem orUnrepresentable_eq_ok_iff {found : Option Instant} {t : Instant} :
    orUnrepresentable found = .ok t ↔ found = some t := by
  cases found <;> simp [orUnrepresentable]

/-- The start of a unit is a full second of the calendar, the start of the unit that the
instant is rounded to. -/
theorem startOf_eq_ok_iff {unit : TimeUnit} {t s : Instant} :
    startOf unit t = .ok s ↔
      s.seconds = unit.startSecond (unit.roundedNumber t.seconds) ∧ s.nanos = 0 := by
  cases unit with
  | minute =>
    rw [TimeUnit.startSecond_roundedNumber_minute, ← Instant.of?_eq_some_iff]
    exact orUnrepresentable_eq_ok_iff
  | hour =>
    rw [TimeUnit.startSecond_roundedNumber_hour, ← Instant.of?_eq_some_iff]
    exact orUnrepresentable_eq_ok_iff
  | second =>
    rw [TimeUnit.roundedNumber_of_ne (by decide) (by decide), ← Instant.of?_eq_some_iff]
    exact orUnrepresentable_eq_ok_iff
  | day =>
    rw [TimeUnit.roundedNumber_of_ne (by decide) (by decide), ← Instant.of?_eq_some_iff]
    have hday : Instant.of? (TimeUnit.day.startSecond (TimeUnit.day.numberAt t.seconds)) 0 =
        some t.startOfDay := Instant.of?_eq_some_iff.mpr ⟨rfl, rfl⟩
    rw [hday]
    simp [startOf]
  | week =>
    rw [TimeUnit.roundedNumber_of_ne (by decide) (by decide), ← Instant.of?_eq_some_iff]
    have hmonday : (t.epochDay - daysSinceMonday t.epochDay) * Instant.secondsPerDay =
        TimeUnit.week.startSecond (TimeUnit.week.numberAt t.seconds) := by
      simp only [TimeUnit.startSecond, TimeUnit.numberAt, Instant.epochDay, daysSinceMonday,
        Instant.secondsPerDay]
      omega
    simp only [startOf, hmonday]
    cases Instant.of? (TimeUnit.week.startSecond (TimeUnit.week.numberAt t.seconds)) 0 <;> simp
  | month =>
    rw [TimeUnit.roundedNumber_of_ne (by decide) (by decide), ← Instant.of?_eq_some_iff]
    have hvalid : t.date.valid = true := Date.valid_ofEpochDay _
    change _ ↔ Instant.ofDate? (Date.ofMonthNumber t.date.monthNumber) = some s
    rw [Date.ofMonthNumber_monthNumber hvalid]
    exact orUnrepresentable_eq_ok_iff
  | year =>
    rw [TimeUnit.roundedNumber_of_ne (by decide) (by decide), ← Instant.of?_eq_some_iff]
    change _ ↔ Instant.ofDate? (Date.ofMonthNumber (12 * t.date.year)) = some s
    rw [Date.ofMonthNumber_year]
    exact orUnrepresentable_eq_ok_iff

theorem shiftBy_one_of_seconds {unit : TimeUnit} {count : Int}
    (hreach : unit.reach = .seconds count) (hspan : count.natAbs ≤ spanBound) {s : Instant}
    (hnanos : s.nanos = 0) :
    shiftBy 1 unit s = orUnrepresentable (Instant.of? (s.seconds + count) 0) := by
  have hleap : s.isLeap = false := by simp [Instant.isLeap, hnanos, Instant.nanosPerSecond]
  simp only [shiftBy, hreach, Int.one_mul, if_neg (Nat.not_lt.mpr hspan),
    Instant.addSeconds?_of_not_leap hleap, hnanos]

theorem shiftBy_one_of_months {unit : TimeUnit} {count month : Int}
    (hreach : unit.reach = .months count) {s : Instant}
    (hseconds : s.seconds = Date.monthStart month * Instant.secondsPerDay)
    (hnanos : s.nanos = 0) :
    shiftBy 1 unit s = orUnrepresentable
      (Instant.of? (Date.monthStart (month + count) * Instant.secondsPerDay) 0) := by
  have hdate : s.date = Date.ofMonthNumber month := by
    rw [Instant.date, Instant.epochDay, hseconds, TimeUnit.date_startSecond_month]
  have hsecond : s.secondOfDay = 0 := by
    rw [Instant.secondOfDay, hseconds, Int.mul_emod_left]
  simp only [shiftBy, hreach, Int.one_mul, Instant.addMonths?, hdate, hsecond, hnanos,
    Date.addMonths_ofMonthNumber, Int.add_zero]
  rfl

/-- One unit on from the start of a unit is the next start. -/
theorem shiftBy_one_eq_ok_iff {unit : TimeUnit} {number : Int} {s t : Instant}
    (hseconds : s.seconds = unit.startSecond number) (hnanos : s.nanos = 0) :
    shiftBy 1 unit s = .ok t ↔
      t.seconds = unit.startSecond (number + 1) ∧ t.nanos = 0 := by
  rw [← Instant.of?_eq_some_iff, ← orUnrepresentable_eq_ok_iff]
  cases unit with
  | month => rw [shiftBy_one_of_months rfl hseconds hnanos]; rfl
  | year =>
    rw [shiftBy_one_of_months rfl hseconds hnanos,
      show 12 * number + 12 = 12 * (number + 1) by omega]
    rfl
  | second | minute | hour | day | week =>
    rw [shiftBy_one_of_seconds rfl (by decide) hnanos, hseconds,
      TimeUnit.startSecond_add_reach rfl]

/-- The millisecond before a full second. -/
theorem ofMillis?_sub_one_eq_some_iff {next t : Instant} (hnanos : next.nanos = 0) :
    Instant.ofMillis? (next.millis - 1) = some t ↔
      t.seconds = next.seconds - 1 ∧ t.nanos = 999000000 := by
  have hmillis : next.millis = next.seconds * 1000 := by simp [Instant.millis, hnanos]
  rw [Instant.ofMillis?, hmillis, show (next.seconds * 1000 - 1) / 1000 = next.seconds - 1 by omega,
    show ((next.seconds * 1000 - 1) % 1000).toNat = 999 by omega, Instant.of?_eq_some_iff]

end Step

/-- The answers to the roundings of an instant are those between two starts of a unit: the
first start, and the millisecond before the second. Without such an instant in the
calendar there is no answer, nor is there one up without the second start. -/
structure Brackets {ε : Type} (answer : Rounding → Except ε Instant) (start next : Int) :
    Prop where
  down_iff : ∀ s, answer .down = .ok s ↔ s.seconds = start ∧ s.nanos = 0
  up_iff : ∀ e, answer .up = .ok e ↔ Instant.firstSecond ≤ start ∧ next ≤ Instant.lastSecond ∧
    e.seconds = next - 1 ∧ e.nanos = 999000000

theorem mapError_eq_ok_iff {ε δ α : Type} {result : Except ε α} {f : ε → δ} {a : α} :
    result.mapError f = .ok a ↔ result = .ok a := by
  cases result with
  | ok b =>
    change Except.ok b = Except.ok a ↔ _
    rw [Except.ok.injEq, Except.ok.injEq]
  | error fault => exact ⟨nofun, nofun⟩

theorem Brackets.mapError {ε δ : Type} {answer : Rounding → Except ε Instant} {start next : Int}
    (h : Brackets answer start next) (f : ε → δ) :
    Brackets (fun rounding => (answer rounding).mapError f) start next :=
  ⟨fun s => mapError_eq_ok_iff.trans (h.down_iff s),
    fun e => mapError_eq_ok_iff.trans (h.up_iff e)⟩

/-- An instant is not rounded to two different units, unless the calendar lacks the starts
of both. -/
theorem Brackets.start_eq {ε : Type} {answer : Rounding → Except ε Instant}
    {start next start' next' : Int} (h : Brackets answer start next)
    (h' : Brackets answer start' next') (hfirst : Instant.firstSecond ≤ start)
    (hlast : start ≤ Instant.lastSecond) : start = start' := by
  have hdown := (h.down_iff ⟨start, 0, hfirst, hlast, by decide⟩).mpr ⟨rfl, rfl⟩
  exact ((h'.down_iff _).mp hdown).1

namespace Step

theorem roundTo_up_eq_ok_iff {unit : TimeUnit} {t e : Instant} :
    roundTo .up unit t = .ok e ↔ ∃ s next, startOf unit t = .ok s ∧ shiftBy 1 unit s = .ok next ∧
      Instant.ofMillis? (next.millis - 1) = some e := by
  change (startOf unit t >>= fun start => shiftBy 1 unit start >>= fun next =>
    orUnrepresentable (Instant.ofMillis? (next.millis - 1))) = .ok e ↔ _
  cases startOf unit t with
  | error fault => simp [bind, Except.bind]
  | ok s =>
    cases hnext : shiftBy 1 unit s with
    | error fault => simp [bind, Except.bind, hnext]
    | ok next => simp [bind, Except.bind, hnext, orUnrepresentable_eq_ok_iff]

theorem brackets_roundedNumber (unit : TimeUnit) (t : Instant) :
    Brackets (fun rounding => roundTo rounding unit t)
      (unit.startSecond (unit.roundedNumber t.seconds))
      (unit.startSecond (unit.roundedNumber t.seconds + 1)) := by
  refine ⟨fun s => startOf_eq_ok_iff, fun e => ?_⟩
  have hlt := unit.startSecond_lt_succ (unit.roundedNumber t.seconds)
  rw [roundTo_up_eq_ok_iff]
  constructor
  · rintro ⟨s, next, hs, hnext, he⟩
    obtain ⟨hseconds, hnanos⟩ := startOf_eq_ok_iff.mp hs
    obtain ⟨hnextSeconds, hnextNanos⟩ := (shiftBy_one_eq_ok_iff hseconds hnanos).mp hnext
    obtain ⟨heSeconds, heNanos⟩ := (ofMillis?_sub_one_eq_some_iff hnextNanos).mp he
    exact ⟨hseconds ▸ s.firstSecond_le, hnextSeconds ▸ next.le_lastSecond,
      hnextSeconds ▸ heSeconds, heNanos⟩
  · rintro ⟨hfirst, hlast, he⟩
    let s : Instant := ⟨unit.startSecond (unit.roundedNumber t.seconds), 0, hfirst,
      (hlt.trans_le hlast).le, by decide⟩
    let next : Instant := ⟨unit.startSecond (unit.roundedNumber t.seconds + 1), 0,
      (hfirst.trans_lt hlt).le, hlast, by decide⟩
    exact ⟨s, next, startOf_eq_ok_iff.mpr ⟨rfl, rfl⟩, (shiftBy_one_eq_ok_iff rfl rfl).mpr ⟨rfl, rfl⟩,
      (ofMillis?_sub_one_eq_some_iff rfl).mpr he⟩

/-- A rounding leads out of every leap second. -/
theorem not_leap_of_roundTo {rounding : Rounding} {unit : TimeUnit} {t s : Instant}
    (h : roundTo rounding unit t = .ok s) : s.isLeap = false := by
  have hbrackets := brackets_roundedNumber unit t
  cases rounding with
  | down => rw [Instant.isLeap, ((hbrackets.down_iff s).mp h).2]; rfl
  | up => rw [Instant.isLeap, ((hbrackets.up_iff s).mp h).2.2.2]; rfl

/-! ## Rounding again -/

/-- A start is rounded down to itself. -/
theorem roundTo_down_start {unit : TimeUnit} {t s : Instant} (h : roundTo .down unit t = .ok s) :
    roundTo .down unit s = .ok s := by
  obtain ⟨hseconds, hnanos⟩ := startOf_eq_ok_iff.mp h
  have hstart : unit.StartsAt s.seconds := hseconds ▸ unit.startsAt_startSecond _
  refine startOf_eq_ok_iff.mpr ⟨?_, hnanos⟩
  rw [TimeUnit.roundedNumber_of_startsAt hstart, TimeUnit.startSecond_numberAt hstart]

/-- The last millisecond of a unit is rounded up to itself, if it is not taken past the
next start. -/
theorem roundTo_up_again_iff {unit : TimeUnit} {t e : Instant} (h : roundTo .up unit t = .ok e) :
    roundTo .up unit e = .ok e ↔ ¬ unit.Overshoots e.seconds := by
  obtain ⟨hfirst, hlast, hseconds, hnanos⟩ := ((brackets_roundedNumber unit t).up_iff e).mp h
  generalize unit.roundedNumber t.seconds = number at *
  have hlt := unit.startSecond_lt_succ number
  have hnumber : unit.numberAt e.seconds = number :=
    TimeUnit.numberAt_eq (by omega) (by omega)
  refine ((brackets_roundedNumber unit e).up_iff e).trans ?_
  by_cases hover : unit.Overshoots e.seconds
  · -- the second rounding is a unit ahead of the first
    have hnext := unit.startSecond_lt_succ (number + 1)
    rw [TimeUnit.roundedNumber, if_pos hover, hnumber]
    simp only [hover, not_true_eq_false, iff_false]
    omega
  · rw [TimeUnit.roundedNumber, if_neg hover, hnumber]
    exact ⟨fun _ => hover, fun _ => ⟨hfirst, hlast, hseconds, hnanos⟩⟩

end Step

namespace TimeExpression

/-- The expression is one rounding of `t` to a unit and nothing else. -/
def IsRounding (now : Instant) (expression : String) (t : Instant) (unit : TimeUnit) : Prop :=
  ∃ letter, TimeUnit.ofChar? letter = some unit ∧
    anchor? now (core expression) = some (t, ['/', letter])

theorem resolve_isRounding {now t : Instant} {expression : String} {unit : TimeUnit}
    (h : IsRounding now expression t unit) (rounding : Rounding) :
    resolve now rounding expression = (Step.roundTo rounding unit t).mapError
      (stepFault (String.ofList (core expression))) := by
  obtain ⟨letter, hunit, hanchor⟩ := h
  rw [resolve_eq, hanchor]
  have hread : Step.readAll ['/', letter] = ([.round unit], true) := by
    simp [Step.readAll, Step.readUpTo, Step.first?, hunit]
  simp only [Step.runText, hread]
  change ((Step.roundTo rounding unit t >>= pure) >>= fun result => _).mapError _ = _
  cases Step.roundTo rounding unit t <;> rfl

theorem resolve_isRounding_eq_ok_iff {now t s : Instant} {expression : String} {unit : TimeUnit}
    (h : IsRounding now expression t unit) (rounding : Rounding) :
    resolve now rounding expression = .ok s ↔ Step.roundTo rounding unit t = .ok s := by
  rw [resolve_isRounding h, mapError_eq_ok_iff]

/-- **A rounding lies between the starts around its instant, unless it is cut toward
1970.** For an expression that rounds an instant to a unit, the answers are those
between the last start not after the instant and the first start after it, exactly if the
rounding does not overshoot; if it does, both answers are those of the unit after. To
round an answer again changes nothing, except up where this overshoots. -/
theorem brackets_iff {now t : Instant} {expression : String} {unit : TimeUnit}
    (h : IsRounding now expression t unit) :
    ∃ start next after : Int,
      IsGreatest {n | unit.StartsAt n ∧ n ≤ t.seconds} start ∧
      IsLeast {n | unit.StartsAt n ∧ t.seconds < n} next ∧
      IsLeast {n | unit.StartsAt n ∧ next < n} after ∧
      (Brackets (fun rounding => resolve now rounding expression) start next ↔
        ¬ unit.Overshoots t.seconds) ∧
      (unit.Overshoots t.seconds →
        Brackets (fun rounding => resolve now rounding expression) next after) ∧
      ∀ rounding answer, resolve now rounding expression = .ok answer →
        ∀ now' again, IsRounding now' again answer unit →
          (resolve now' rounding again = .ok answer ↔
            rounding = .down ∨ ¬ unit.Overshoots answer.seconds) := by
  have hstart := unit.isGreatest_startSecond t.seconds
  have hnext := unit.isLeast_startSecond t.seconds
  have hafter := unit.isLeast_startSecond (unit.startSecond (unit.numberAt t.seconds + 1))
  rw [unit.numberAt_startSecond] at hafter
  have hbrackets : Brackets (fun rounding => resolve now rounding expression)
      (unit.startSecond (unit.roundedNumber t.seconds))
      (unit.startSecond (unit.roundedNumber t.seconds + 1)) := by
    simp only [resolve_isRounding h]
    exact (Step.brackets_roundedNumber unit t).mapError _
  refine ⟨_, _, _, hstart, hnext, hafter, ?_, ?_, ?_⟩
  · constructor
    · intro hright hover
      rw [TimeUnit.roundedNumber, if_pos hover] at hbrackets
      -- 1970 starts a unit, so the calendar has the start that is rounded to
      have hepoch : unit.startSecond (unit.numberAt t.seconds + 1) ≤ 0 :=
        hnext.2 ⟨hover.startsAt_epoch, hover.2.1⟩
      have hfirst := t.firstSecond_le.trans hnext.1.2.le
      have hlast := hepoch.trans (show 0 ≤ Instant.lastSecond by decide)
      have hsame := hbrackets.start_eq hright hfirst hlast
      have := unit.startSecond_lt_succ (unit.numberAt t.seconds)
      omega
    · intro hexact
      rwa [TimeUnit.roundedNumber, if_neg hexact] at hbrackets
  · intro hover
    rwa [TimeUnit.roundedNumber, if_pos hover] at hbrackets
  · intro rounding answer hanswer now' again hagain
    rw [resolve_isRounding_eq_ok_iff h] at hanswer
    rw [resolve_isRounding_eq_ok_iff hagain]
    cases rounding with
    | down => simp [Step.roundTo_down_start hanswer]
    | up => simp [Step.roundTo_up_again_iff hanswer]

def halfMinuteBefore1970 : Instant := ⟨-30, 0, by decide, by decide, Instant.epoch.nanos_lt⟩

/-- Half a minute before 1970 is rounded down to 1970. -/
theorem resolve_halfMinuteBefore1970 :
    IsRounding .epoch "1969-12-31T23:59:30Z||/m" halfMinuteBefore1970 .minute ∧
      TimeUnit.minute.Overshoots halfMinuteBefore1970.seconds ∧
      resolve .epoch .down "1969-12-31T23:59:30Z||/m" = .ok .epoch := by
  have hrounding : IsRounding .epoch "1969-12-31T23:59:30Z||/m" halfMinuteBefore1970 .minute :=
    ⟨'m', rfl, by decide +kernel⟩
  have hover : TimeUnit.minute.Overshoots halfMinuteBefore1970.seconds := by decide
  refine ⟨hrounding, hover, ?_⟩
  obtain ⟨_, next, _, _, hnext, _, _, hafter, _⟩ := brackets_iff hrounding
  have hepoch : IsLeast {n | TimeUnit.minute.StartsAt n ∧ (-30 : Int) < n} 0 := by
    refine ⟨⟨by decide, by decide⟩, ?_⟩
    rintro n ⟨hstart, hlt⟩
    simp only [TimeUnit.StartsAt] at hstart
    omega
  exact ((hafter hover).down_iff .epoch).mpr ⟨hepoch.unique hnext, rfl⟩

end TimeExpression

end DruidPanels
