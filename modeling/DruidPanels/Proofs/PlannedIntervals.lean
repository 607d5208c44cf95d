import DruidPanels.Proofs.Fields
import DruidPanels.Proofs.FinestWidths
import DruidPanels.Proofs.StartEdges
import DruidPanels.Proofs.TrimmedTexts
import DruidPanels.Proofs.WrittenInstants
import DruidPanels.Proofs.WrittenQuery
import DruidPanels.Service

/-! # Intervals of planned windows

A window has the granularity that is asked for (`Window.asked`), by a name or by a budget. It
ends where its range ends and does not start after that: its start is the one that its
granularity is due (`Granularity.StartsWindow`), held at the end. The broker gets it as one
text with one slash, and both sides of the slash are read back as the edges of the window,
cut to the millisecond (`ReadsBack`). A lookup asks over the range itself, in the same words
(`readsBack_plan`). -/

namespace DruidPanels

/-! ## Texts of intervals -/

/-- The text is two texts around its only slash. In years of four digits they are read as
`start` and `stop`, cut to the millisecond, and the first is not after the second. -/
structure ReadsBack (text : String) (start stop : Instant) : Prop where
  sides : ∃ first last : String, text = first ++ "/" ++ last ∧
    '/' ∉ first.toList ∧ '/' ∉ last.toList ∧
    (start.InFourDigitYear → Instant.parse? first = some start.cutToMilli) ∧
    (stop.InFourDigitYear → Instant.parse? last = some stop.cutToMilli)
  ordered : start.cutToMilli ≤ stop.cutToMilli

theorem readsBack_intervalText {start stop : Instant} (hstart : start.Regular)
    (hstop : stop.Regular) (hle : start ≤ stop) :
    ReadsBack (intervalText start stop) start stop where
  sides := ⟨start.rfc3339, stop.rfc3339, rfl, start.slash_not_mem_rfc3339,
    stop.slash_not_mem_rfc3339, fun hyear => Instant.parse?_rfc3339 hyear hstart,
    fun hyear => Instant.parse?_rfc3339 hyear hstop⟩
  ordered := Instant.cutToMilli_le_cutToMilli hle

/-! ## Starts -/

namespace Instant

theorem startOfDay_le (t : Instant) : t.startOfDay ≤ t := by
  have hday : t.epochDay * secondsPerDay ≤ t.seconds := by
    simp only [epochDay, secondsPerDay]
    omega
  rcases Int.lt_or_eq_of_le hday with hlt | heq
  · exact .inl hlt
  · exact .inr ⟨heq, Nat.zero_le _⟩

end Instant

namespace Granularity

/-- Where a window starts that is planned for a range. Days, those of a time zone included,
start with the UTC day of the range, and not after the range. A finer width starts at its
next edge, but at the end of the range if that edge comes after it, and with the range if
the calendar has no such instant. All others start with the range. -/
def StartsWindow (range : TimeRange) (start : Instant) : Granularity → Prop
  | .simple .day => range.start.IsStartOfDay start ∧ start ≤ range.start
  | .period _ _ => range.start.IsStartOfDay start ∧ start ≤ range.start
  | .simple w => ∃ edge, w.IsNextEdge range.start edge ∧ (start.AtMillis edge ∨
      (start = range.stop ∧ ∃ t : Instant, t.AtMillis edge ∧ range.stop < t) ∨
      (start = range.start ∧ ∀ t : Instant, ¬ t.AtMillis edge))
  | .all => start = range.start
  | .named _ => start = range.start

theorem startsWindow_of_ne_day {w : BucketWidth} (h : w ≠ .day) (range : TimeRange)
    (start : Instant) : (simple w).StartsWindow range start ↔
      ∃ edge, w.IsNextEdge range.start edge ∧ (start.AtMillis edge ∨
        (start = range.stop ∧ ∃ t : Instant, t.AtMillis edge ∧ range.stop < t) ∨
        (start = range.start ∧ ∀ t : Instant, ¬ t.AtMillis edge)) := by
  cases w with
  | day => exact absurd rfl h
  | minute | fifteenMinutes | thirtyMinutes | hour => rfl

/-- What a name stands for, in any case and with any blanks around it: the whole range, a
width, or a granularity that only the broker knows. -/
inductive NamedBy (name : String) : Granularity → Prop
  | all (h : Text.equalsIgnoringCase (Text.trim name) "all" = true) : NamedBy name .all
  | width {w : BucketWidth} (h : Text.equalsIgnoringCase w.name (Text.trim name) = true) :
      NamedBy name (.simple w)
  | other (hall : Text.equalsIgnoringCase (Text.trim name) "all" = false)
      (hwidth : ∀ w : BucketWidth, Text.equalsIgnoringCase w.name (Text.trim name) = false) :
      NamedBy name (.named (Text.trim name))

theorem namedBy_ofName (name : String) : NamedBy name (ofName name) := by
  unfold ofName
  dsimp only
  split
  · next hall => exact .all hall
  · next hall =>
    cases hfound : BucketWidth.ofName? (Text.trim name) with
    | some w =>
      have hname := List.find?_some hfound
      rw [Text.trim_trim] at hname
      exact .width hname
    | none =>
      refine .other (Bool.eq_false_iff.mpr hall) fun w => Bool.eq_false_iff.mpr ?_
      have hname := List.find?_eq_none.mp hfound w w.mem_all
      rwa [Text.trim_trim] at hname

/-- No name stands for a period. -/
theorem ofName_ne_period (name length zone : String) : ofName name ≠ .period length zone := by
  intro hperiod
  have hnamed := namedBy_ofName name
  rw [hperiod] at hnamed
  cases hnamed

/-- A start that is moved and then held at the end of the range. -/
theorem startsWindow_held {g : Granularity} (hperiod : ∀ length zone, g ≠ .period length zone)
    (range : TimeRange) :
    g.StartsWindow range (if range.stop < g.alignStart range.start then range.stop
      else g.alignStart range.start) := by
  have hordered : range.start ≤ range.stop := Instant.le_of_lt range.ordered
  cases g with
  | period length zone => exact absurd rfl (hperiod length zone)
  | all | named name => exact if_neg (Instant.not_lt_of_le hordered)
  | simple w =>
    by_cases hday : w = .day
    · subst hday
      have hle := range.start.startOfDay_le
      have hstart : ¬ range.stop < range.start.startOfDay :=
        Instant.not_lt_of_le (Instant.le_trans hle hordered)
      rw [alignStart, if_neg hstart]
      exact ⟨range.start.isStartOfDay_startOfDay, hle⟩
    · obtain ⟨edge, hedge, _, hstart⟩ :=
        (aligns_of_ne_day hday _ _).mp ((simple w).aligns_alignStart range.start)
      rw [startsWindow_of_ne_day hday]
      refine ⟨edge, hedge, ?_⟩
      split
      · next hpast =>
        rcases hstart with hat | ⟨hstays, _⟩
        · exact .inr (.inl ⟨rfl, _, hat, hpast⟩)
        · rw [hstays] at hpast
          exact absurd hpast (Instant.not_lt_of_le hordered)
      · exact hstart.imp id .inr

/-- Days of a time zone start where days start. -/
theorem StartsWindow.inTimeZone {g : Granularity} {range : TimeRange} {start : Instant}
    (h : g.StartsWindow range start) (zone : Option String) :
    (g.inTimeZone zone).StartsWindow range start := by
  unfold Granularity.inTimeZone
  split
  · split
    · exact h
    · exact h
  · exact h

theorem regular_alignStart {t : Instant} (h : t.Regular) (g : Granularity) :
    (g.alignStart t).Regular := by
  cases g with
  | all | named name | period length zone => exact h
  | simple w =>
    by_cases hday : w = .day
    · subst hday
      exact Instant.regular_of_not_leap rfl
    · rw [alignStart_of_ne_day hday]
      rcases w.ceiling_cases_nextEdge t with hedge | ⟨hstays, _⟩
      · exact Instant.regular_of_not_leap hedge.not_leap
      · rwa [hstays]

end Granularity

namespace Window

variable (range : TimeRange) (budget : Option Nat) (name zone : Option String)

/-- The granularity that a window is asked for in: that of the name, which overrides the
budget, and without a name the finest that keeps to the budget. -/
def asked : Granularity :=
  match name with
  | some name => .ofName name
  | none => .simple (BucketWidth.finest range.start range.stop budget)

theorem asked_ne_period (length zone : String) : asked range budget name ≠ .period length zone := by
  cases name with
  | some name => exact Granularity.ofName_ne_period name length zone
  | none => nofun

theorem granularity_plan : (plan range budget name zone).granularity =
    (asked range budget name).inTimeZone zone := by
  cases name <;> simp only [plan, asked]

theorem start_plan : (plan range budget name zone).start =
    if range.stop < (asked range budget name).alignStart range.start then range.stop
    else (asked range budget name).alignStart range.start := by
  unfold plan asked
  cases name <;> with_reducible rfl

theorem startsWindow_plan :
    (asked range budget name).StartsWindow range (plan range budget name zone).start := by
  rw [start_plan]
  exact Granularity.startsWindow_held (asked_ne_period range budget name) range

theorem start_le_stop_plan : (plan range budget name zone).start ≤ range.stop := by
  rw [start_plan]
  split
  · exact range.stop.le_refl
  · next hnot => exact Instant.le_of_not_lt hnot

theorem regular_start_plan (hstart : range.start.Regular) (hstop : range.stop.Regular) :
    (plan range budget name zone).start.Regular := by
  rw [start_plan]
  split
  · exact hstop
  · exact Granularity.regular_alignStart hstart _

end Window

/-! ## Lookups -/

theorem Overrides.get?_apply (o : Overrides) (body : Fields) {key : String}
    (h : key ≠ "postAggregations") : Fields.get? (o.apply body) key = Fields.get? body key := by
  unfold Overrides.apply
  split
  · rw [Fields.get?_insert, if_neg h]
  · rfl

theorem QuerySpec.get?_intervals_filterValues (o : Overrides) (dataSource dimension : String)
    (filters : List FilterDescriptor) (search : String) (intervals : List String)
    (vars : Variables) :
    Fields.get? ((filterValues dataSource dimension filters search intervals vars).body o)
      "intervals" = some (.ofTexts intervals) := by
  rw [filterValues, body, o.get?_apply _ (by decide)]
  simp [NativeQuery.toFields, NativeQuery.rest, QueryScope.toFields]

/-- What a lookup asks, and of which datasource and dimension. -/
theorem Service.lookupSpec_eq_ok {s : Service} {lookup : FilterLookup} {spec : QuerySpec}
    (h : s.lookupSpec lookup = .ok spec) :
    ∃ (dataSource dimension : String) (range : TimeRange),
      lookup.target.dataSource? = some dataSource ∧
      lookup.target.lookupDimension.bind Text.trimmed? = some dimension ∧
      lookup.range.resolve s.now = .ok range ∧
      spec = .filterValues dataSource dimension lookup.target.filters lookup.search
        [intervalText range.start range.stop] lookup.vars := by
  unfold lookupSpec at h
  dsimp only at h
  split at h
  · next dataSource hdataSource =>
    split at h
    · next dimension hdimension =>
      obtain ⟨range, hrange, hspec⟩ := Itemwise.bind_eq_ok_iff.mp h
      cases hspec
      exact ⟨dataSource, dimension, range, hdataSource, hdimension, hrange, rfl⟩
    · cases h
  · cases h

/-- A lookup is sent over the resolved range. -/
theorem Service.get?_intervals_lookupSpec {s : Service} {lookup : FilterLookup}
    {spec : QuerySpec} (h : s.lookupSpec lookup = .ok spec) :
    ∃ range, lookup.range.resolve s.now = .ok range ∧
      Fields.get? (spec.body s.overrides) "intervals" =
        some (.ofTexts [intervalText range.start range.stop]) := by
  obtain ⟨_, _, range, _, _, hrange, rfl⟩ := lookupSpec_eq_ok h
  exact ⟨range, hrange, QuerySpec.get?_intervals_filterValues _ _ _ _ _ _ _⟩

namespace Window

/-- **Planned intervals are in order and are read back.** For every range, budget,
granularity and time zone, the window that is planned ends with the range and does not
start after its end. Its granularity is the one that the name stands for, or without a name
the finest within the budget, with days in the time zone if there is one, and it starts
where that granularity is due. Its intervals are one text. If the edges of the range are regular, as
they are in every range that is resolved on a regular clock, this text is read back as the
edges of the window, as far as they lie in years of four digits, cut to the millisecond
and never the other way round. A lookup is sent over one such text as well, for the range
that it resolves to. -/
theorem readsBack_plan (range : TimeRange) (budget : Option Nat) (name zone : Option String) :
    let w := plan range budget name zone
    let g := asked range budget name
    (w.stop = range.stop ∧ w.start ≤ w.stop ∧ w.granularity = g.inTimeZone zone ∧
      (∀ n ∈ name, g.NamedBy n) ∧
      g.StartsWindow range w.start ∧ w.granularity.StartsWindow range w.start) ∧
    (∃ text, w.intervals = [text] ∧
      (range.start.Regular → range.stop.Regular → ReadsBack text w.start w.stop)) ∧
    (∀ (now : Instant) (first last : String), now.Regular →
      TimeRange.resolve now first last = .ok range → range.start.Regular ∧ range.stop.Regular) ∧
    ∀ (s : Service) (lookup : FilterLookup) (spec : QuerySpec), s.lookupSpec lookup = .ok spec →
      ∃ resolved text, lookup.range.resolve s.now = .ok resolved ∧
        Fields.get? (spec.body s.overrides) "intervals" = some (.ofTexts [text]) ∧
        (s.now.Regular → ReadsBack text resolved.start resolved.stop) := by
  intro w g
  have hle : w.start ≤ range.stop := start_le_stop_plan range budget name zone
  have hgranularity : w.granularity = g.inTimeZone zone :=
    granularity_plan range budget name zone
  have hstarts : g.StartsWindow range w.start := startsWindow_plan range budget name zone
  refine ⟨⟨rfl, hle, hgranularity, ?_, hstarts, ?_⟩, ⟨_, rfl, ?_⟩,
    fun now first last hnow hrange => TimeRange.regular_of_resolve hnow hrange, ?_⟩
  · intro n hn
    cases hn
    exact Granularity.namedBy_ofName n
  · rw [hgranularity]
    exact hstarts.inTimeZone zone
  · intro hstart hstop
    exact readsBack_intervalText (regular_start_plan range budget name zone hstart hstop) hstop hle
  · intro s lookup spec hspec
    obtain ⟨resolved, hresolved, hfield⟩ := Service.get?_intervals_lookupSpec hspec
    refine ⟨resolved, _, hresolved, hfield, fun hnow => ?_⟩
    obtain ⟨hstart, hstop⟩ := TimeRange.regular_of_resolve hnow hresolved
    exact readsBack_intervalText hstart hstop (Instant.le_of_lt resolved.ordered)

/-- An hour from the middle of the leap second of 2016 on. -/
def hourFromLeapSecond : TimeRange where
  start := ⟨1483228799, 1500400000, by decide, by decide, by decide⟩
  stop := ⟨1483232400, 999, by decide, by decide, by decide⟩
  ordered := .inl (by decide)

/-- A lookup of pages in the last hour. -/
def lastHourLookup : FilterLookup where
  target := { PanelTarget.ofDataSource "wiki" with lookupDimension := some "page" }
  range := ⟨.text "now-1h", .text "now"⟩
  search := ""
  vars := .empty

theorem readsBack_hourFromLeapSecond :
    let w := plan hourFromLeapSecond none (some "all") none
    let rounded := plan hourFromLeapSecond none (some " Hour ") none
    let s : Service := ⟨hourFromLeapSecond.start, .empty, none⟩
    hourFromLeapSecond.start.Regular ∧ hourFromLeapSecond.stop.Regular ∧
      w.start = hourFromLeapSecond.start ∧ w.start.InFourDigitYear ∧ w.stop.InFourDigitYear ∧
      w.intervals = ["2016-12-31T23:59:60.500Z/2017-01-01T01:00:00.000Z"] ∧
      ReadsBack "2016-12-31T23:59:60.500Z/2017-01-01T01:00:00.000Z" w.start w.stop ∧
      rounded.granularity = .simple .hour ∧ Granularity.NamedBy " Hour " (.simple .hour) ∧
      rounded.start.AtMillis (412009 * 3600000) ∧
      (Granularity.simple .hour).StartsWindow hourFromLeapSecond rounded.start ∧
      s.now.Regular ∧ ∃ (spec : QuerySpec) (resolved : TimeRange) (text : String),
        s.lookupSpec lastHourLookup = .ok spec ∧
        Fields.get? (spec.body s.overrides) "intervals" = some (.ofTexts [text]) ∧
        ReadsBack text resolved.start resolved.stop := by
  intro w rounded s
  have hstart : hourFromLeapSecond.start.Regular := fun _ => by decide
  have hstop : hourFromLeapSecond.stop.Regular := Instant.regular_of_not_leap (by decide)
  have hw : w.start = hourFromLeapSecond.start := by decide +kernel
  have hintervals : w.intervals = ["2016-12-31T23:59:60.500Z/2017-01-01T01:00:00.000Z"] := by
    decide +kernel
  obtain ⟨_, ⟨text, htext, hback⟩, _, hlookup⟩ :=
    readsBack_plan hourFromLeapSecond none (some "all") none
  obtain ⟨⟨_, _, hgranularity, hnamed, hstarts, _⟩, _⟩ :=
    readsBack_plan hourFromLeapSecond none (some " Hour ") none
  have hsame : [text] = ["2016-12-31T23:59:60.500Z/2017-01-01T01:00:00.000Z"] :=
    htext.symm.trans hintervals
  cases hsame
  have hhour : asked hourFromLeapSecond none (some " Hour ") = .simple .hour := by decide +kernel
  rw [hhour] at hgranularity hnamed hstarts
  have hedge : rounded.start.AtMillis (412009 * 3600000) :=
    ⟨by decide +kernel, by decide +kernel⟩
  have hanswered : (s.lookupSpec lastHourLookup).toOption.isSome = true := by decide +kernel
  obtain ⟨spec, hspec⟩ : ∃ spec, s.lookupSpec lastHourLookup = .ok spec := by
    cases hlooked : s.lookupSpec lastHourLookup with
    | error e =>
      rw [hlooked] at hanswered
      cases hanswered
    | ok spec => exact ⟨spec, rfl⟩
  obtain ⟨resolved, resolvedText, _, hfield, hresolved⟩ := hlookup s lastHourLookup spec hspec
  exact ⟨hstart, hstop, hw, by decide +kernel, by decide +kernel, hintervals,
    hback hstart hstop, hgranularity, hnamed _ rfl, hedge, hstarts, hstart, spec, resolved, resolvedText, hspec,
    hfield, hresolved hstart⟩

end Window

end DruidPanels
