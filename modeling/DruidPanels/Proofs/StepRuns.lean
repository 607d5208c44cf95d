import DruidPanels.Proofs.Directions
import DruidPanels.Proofs.StepTexts

/-! # Runs of steps

Where a step leads is said without the arithmetic of instants: a shift by seconds moves
the second alone, a shift by months keeps the time of day and, as far as the month allows,
the day (`Leads`). Outside leap seconds the run of a text is just that, step after step,
for the steps that the text spells, and nothing of a run is left but the instant that it
reached (`runText_eq_ok_iff_leadsAll`). -/

namespace DruidPanels

namespace Instant

/-! ## Instants at a distance -/

/-- `s` comes just so many seconds after `t`. -/
structure SecondsOn (count : Int) (t s : Instant) : Prop where
  seconds : s.seconds = t.seconds + count
  nanos : s.nanos = t.nanos

/-- `s` lies in the month that comes just so many months after that of `t`, at the same
time of the same day, or of the last day if the month is shorter. -/
structure MonthsOn (count : Int) (t s : Instant) : Prop where
  month : s.date.monthNumber = t.date.monthNumber + count
  day : s.date.day = min t.date.day (Calendar.monthLength s.date.year s.date.month)
  secondOfDay : s.secondOfDay = t.secondOfDay
  nanos : s.nanos = t.nanos

theorem addSeconds?_eq_some_iff {t s : Instant} (ht : t.isLeap = false) {count : Int} :
    t.addSeconds? count = some s ↔ SecondsOn count t s := by
  rw [addSeconds?_of_not_leap ht, of?_eq_some_iff]
  exact ⟨fun h => ⟨h.1, h.2⟩, fun h => ⟨h.seconds, h.nanos⟩⟩

/-- A second is the second of its day on its date. -/
theorem seconds_eq_iff {s : Instant} {d : Date} (hd : d.valid = true) {second : Int}
    (hfirst : 0 ≤ second) (hlast : second < secondsPerDay) :
    s.seconds = d.toEpochDay * secondsPerDay + second ↔ s.date = d ∧ s.secondOfDay = second := by
  have hday : s.epochDay = d.toEpochDay ↔ s.date = d := by
    constructor
    · intro h
      rw [date, h, Date.ofEpochDay_toEpochDay hd]
    · intro h
      rw [← h, date, Date.toEpochDay_ofEpochDay]
  rw [← hday]
  simp only [epochDay, secondOfDay, secondsPerDay] at *
  omega

theorem addMonths?_eq_some_iff {t s : Instant} {count : Int} :
    t.addMonths? count = some s ↔ MonthsOn count t s := by
  have htDate : t.date.valid = true := Date.valid_ofEpochDay _
  have hsDate : s.date.valid = true := Date.valid_ofEpochDay _
  obtain ⟨_, _, hday, _⟩ := (Date.valid_iff _).mp htDate
  obtain ⟨hfirst, hlast⟩ := t.secondOfDay_bounds
  rw [addMonths?, of?_eq_some_iff, seconds_eq_iff (Date.valid_addMonths hday count) hfirst hlast,
    eq_comm (a := s.date), Date.addMonths_eq_iff hsDate]
  constructor
  · rintro ⟨⟨⟨hmonth, hday⟩, hsecond⟩, hnanos⟩
    exact ⟨hmonth, hday, hsecond, hnanos⟩
  · rintro ⟨hmonth, hday, hsecond, hnanos⟩
    exact ⟨⟨⟨hmonth, hday⟩, hsecond⟩, hnanos⟩

end Instant

namespace Step

/-! ## Where steps lead -/

/-- A step leads from `t` to an instant of the calendar: by its seconds or its months on,
or to the rounding of `t`. -/
inductive Leads (rounding : Rounding) (t : Instant) : Step → Instant → Prop
  | seconds {amount count : Int} {unit : TimeUnit} {s : Instant}
      (hreach : unit.reach = .seconds count) (h : Instant.SecondsOn (amount * count) t s) :
      Leads rounding t (.shift amount unit) s
  | months {amount count : Int} {unit : TimeUnit} {s : Instant}
      (hreach : unit.reach = .months count) (h : Instant.MonthsOn (amount * count) t s) :
      Leads rounding t (.shift amount unit) s
  | round {unit : TimeUnit} {s : Instant} (h : roundTo rounding unit t = .ok s) :
      Leads rounding t (.round unit) s

/-- Steps lead on, each from the instant that the one before it led to. -/
inductive LeadsAll (rounding : Rounding) : Instant → List Step → Instant → Prop
  | nil {t : Instant} : LeadsAll rounding t [] t
  | cons {t next s : Instant} {step : Step} {rest : List Step} (hstep : Leads rounding t step next)
      (hrest : LeadsAll rounding next rest s) : LeadsAll rounding t (step :: rest) s

/-! ## One step -/

/-- No two instants of the calendar are further apart than a span can be. -/
theorem natAbs_le_spanBound {count : Int} {t s : Instant} (h : Instant.SecondsOn count t s) :
    count.natAbs ≤ spanBound := by
  have htFirst := t.firstSecond_le
  have htLast := t.le_lastSecond
  have hsFirst := s.firstSecond_le
  have hsLast := s.le_lastSecond
  have hseconds := h.seconds
  simp only [Instant.firstSecond, Instant.lastSecond] at *
  simp only [spanBound, Word.greatest]
  omega

theorem shiftBy_eq_ok_iff {amount : Int} {unit : TimeUnit} {t s : Instant}
    (ht : t.isLeap = false) {rounding : Rounding} :
    shiftBy amount unit t = .ok s ↔ Leads rounding t (.shift amount unit) s := by
  cases hreach : unit.reach with
  | seconds count =>
    constructor
    · intro h
      obtain ⟨hseconds, hnanos⟩ := parts_of_shiftBy hreach ht h
      exact .seconds hreach ⟨hseconds, hnanos⟩
    · intro h
      cases h with
      | months hmonths => rw [hreach] at hmonths; cases hmonths
      | seconds hseconds h =>
        cases hreach.symm.trans hseconds
        have hspan := natAbs_le_spanBound h
        simp only [shiftBy, hreach, if_neg (Nat.not_lt.mpr hspan)]
        exact orUnrepresentable_eq_ok_iff.mpr ((Instant.addSeconds?_eq_some_iff ht).mpr h)
  | months count =>
    simp only [shiftBy, hreach, orUnrepresentable_eq_ok_iff, Instant.addMonths?_eq_some_iff]
    constructor
    · exact .months hreach
    · intro h
      cases h with
      | seconds hseconds => rw [hreach] at hseconds; cases hseconds
      | months hmonths h =>
        cases hreach.symm.trans hmonths
        exact h

theorem run_eq_ok_iff {rounding : Rounding} {step : Step} {t s : Instant}
    (ht : t.isLeap = false) : run rounding t step = .ok s ↔ Leads rounding t step s := by
  cases step with
  | shift amount unit => exact shiftBy_eq_ok_iff ht
  | round unit =>
    constructor
    · exact .round
    · rintro (_ | _ | h)
      exact h

theorem Leads.not_leap {rounding : Rounding} {step : Step} {t s : Instant}
    (h : Leads rounding t step s) (ht : t.isLeap = false) : s.isLeap = false := by
  cases h with
  | seconds _ h => rwa [Instant.isLeap, h.nanos]
  | months _ h => rwa [Instant.isLeap, h.nanos]
  | round h => exact not_leap_of_roundTo h

/-! ## All steps -/

theorem foldlM_eq_ok_iff {rounding : Rounding} {steps : List Step} {t s : Instant}
    (ht : t.isLeap = false) :
    steps.foldlM (run rounding) t = .ok s ↔ LeadsAll rounding t steps s := by
  induction steps generalizing t with
  | nil =>
    constructor
    · intro h
      cases h
      exact .nil
    · intro h
      cases h
      rfl
  | cons step rest ih =>
    rw [List.foldlM_cons, Itemwise.bind_eq_ok_iff]
    constructor
    · rintro ⟨next, hstep, hrest⟩
      have hleads := (run_eq_ok_iff ht).mp hstep
      exact .cons hleads ((ih (hleads.not_leap ht)).mp hrest)
    · intro h
      cases h with
      | cons hstep hrest =>
        exact ⟨_, (run_eq_ok_iff ht).mpr hstep, (ih (hstep.not_leap ht)).mpr hrest⟩

/-- What comes after a text that is run is run from where the text led. -/
theorem runText_append {rounding : Rounding} {t s : Instant} {text : List Char}
    (h : runText rounding t text = .ok s) (rest : List Char) :
    runText rounding t (text ++ rest) = runText rounding s rest := by
  obtain ⟨hcomplete, hrun⟩ := runText_eq_ok_iff.mp h
  have hspells : SpellsAll (readAll text).1 text := readAll_eq_iff.mp (by rw [← hcomplete])
  unfold runText
  rw [readAll_append hspells]
  dsimp only
  rw [List.foldlM_append, hrun]
  rfl

/-- **Date math reads the steps of its text and takes one after the other.** From an
instant outside leap seconds a text leads somewhere if and only if it spells steps that
each lead from the instant reached to one of the calendar, and then it leads where they
do. And once a text has led to an instant, whatever follows it is run as if it were run
from that instant, answers and refusals alike. -/
theorem runText_eq_ok_iff_leadsAll (rounding : Rounding) (t : Instant) (text : List Char) :
    (t.isLeap = false → ∀ s, runText rounding t text = .ok s ↔
      ∃ steps, SpellsAll steps text ∧ LeadsAll rounding t steps s) ∧
    ∀ s, runText rounding t text = .ok s →
      ∀ rest, runText rounding t (text ++ rest) = runText rounding s rest := by
  refine ⟨fun ht s => ?_, fun s h rest => runText_append h rest⟩
  rw [runText_eq_ok_iff]
  constructor
  · rintro ⟨hcomplete, hrun⟩
    exact ⟨_, readAll_eq_iff.mp (by rw [← hcomplete]), (foldlM_eq_ok_iff ht).mp hrun⟩
  · rintro ⟨steps, hspells, hleads⟩
    rw [readAll_eq_iff.mpr hspells]
    exact ⟨rfl, (foldlM_eq_ok_iff ht).mpr hleads⟩

/-- Noon on the last day of January 2024. -/
def noonLateJanuary : Instant := ⟨1706702400, 0, by decide, by decide, Instant.epoch.nanos_lt⟩

/-- The last millisecond of February 2024. -/
def endOfFebruary : Instant := ⟨1709251199, 999000000, by decide, by decide, by decide⟩

/-- A month and then six hours back lead to the morning of the last day of February, which
is a day of the leap year; the day is rounded up. -/
theorem runText_noonLateJanuary :
    noonLateJanuary.isLeap = false ∧
      runText .up noonLateJanuary "+1M-06H/d".toList = .ok endOfFebruary ∧
      (∃ steps, SpellsAll steps "+1M-06H/d".toList ∧
        LeadsAll .up noonLateJanuary steps endOfFebruary) ∧
      runText .up noonLateJanuary "+1M-06H/d-q".toList =
        runText .up endOfFebruary "-q".toList := by
  have hleap : noonLateJanuary.isLeap = false := by decide
  have hrun : runText .up noonLateJanuary "+1M-06H/d".toList = .ok endOfFebruary := by
    decide +kernel
  obtain ⟨hiff, happend⟩ := runText_eq_ok_iff_leadsAll .up noonLateJanuary "+1M-06H/d".toList
  exact ⟨hleap, hrun, (hiff hleap _).mp hrun, happend _ hrun "-q".toList⟩

end Step

end DruidPanels
