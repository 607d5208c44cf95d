import DruidPanels.Proofs.FanOut

/-! # Targets with a written query

A target may carry its query as text: SQL, or a raw query that the editor shows or has
saved. What a target asks reads both raw texts; whether it is skipped reads the shown
one only. So a target whose one query is saved is skipped although it asks for
something, and no other target with a written query is (`skipped_of_written`). -/

namespace DruidPanels

namespace QuerySpec

/-- The query was written as text and not put together from the editor's fields. -/
def isWritten : QuerySpec → Bool
  | .sql _ => true
  | .raw _ => true
  | .native _ => false

end QuerySpec

def TimeRange.firstSecond : TimeRange where
  start := .epoch
  stop := ⟨1, 0, by decide, by decide, Instant.epoch.nanos_lt⟩
  ordered := .inl Int.one_pos

namespace PanelTarget

/-- A target of a datasource that says nothing else. -/
def ofDataSource (name : String) : PanelTarget where
  label := none
  hidden := false
  dataSource := some name
  chosenKind := none
  filters := []
  aggregators := []
  postAggregators := []
  groupBy := []
  orderBy := none
  limit := none
  metric := none
  dimension := none
  selectDimensions := []
  selectMetrics := []
  selectThreshold := none
  maxDataPoints := none
  overridesGranularity := false
  customGranularity := none
  sql := none
  liveRawQuery := none
  savedRawQuery := none
  rawFilter := none
  rawAggregator := none
  rawPostAggregator := none
  lookupDimension := none

/-- All that the target asks stands in its saved raw query: there is no SQL, no shown
raw query and no aggregator, and the kind is not select. -/
def asksOnlySaved (t : PanelTarget) : Bool :=
  t.sql?.isNone && (Text.unlessBlank? t.liveRawQuery).isNone && t.rawAggregator?.isNone &&
    t.aggregators.isEmpty && t.kind ≠ .select &&
    (RawText.query? (Text.unlessBlank? t.savedRawQuery)).isSome

theorem isWritten_querySpec (t : PanelTarget) (window : Window) (vars : Variables) :
    (t.querySpec window vars).isWritten =
      (t.sql?.isSome || (RawText.query? t.rawQuery?).isSome) := by
  unfold querySpec
  cases t.sql? with
  | some sql => rfl
  | none => cases RawText.query? t.rawQuery? <;> rfl

/-- With no SQL and no shown raw query, what the target asks hangs on the saved one. -/
theorem isWritten_of_none {t : PanelTarget} (window : Window) (vars : Variables)
    (hsql : t.sql? = none) (hlive : Text.unlessBlank? t.liveRawQuery = none) :
    (t.querySpec window vars).isWritten =
      (RawText.query? (Text.unlessBlank? t.savedRawQuery)).isSome := by
  rw [isWritten_querySpec, hsql, rawQuery?, hlive, Option.none_or, Option.isSome_none,
    Bool.false_or]

theorem skipped_eq_asksOnlySaved {t : PanelTarget} {window : Window} {vars : Variables}
    (hvisible : t.hidden = false) (hsource : t.dataSource?.isSome = true)
    (hwritten : (t.querySpec window vars).isWritten = true) :
    t.skipped = t.asksOnlySaved := by
  unfold skipped hasSource asksOnlySaved
  rw [hvisible, Option.isNone_eq_false_iff.mpr hsource]
  cases hsql : t.sql? with
  | some sql => simp
  | none =>
    cases hlive : Text.unlessBlank? t.liveRawQuery with
    | some live => simp
    | none =>
      -- only here do the two differ: the query reads the saved text, the skip does not
      rw [isWritten_of_none window vars hsql hlive] at hwritten
      cases t.rawAggregator? <;> simp [hwritten]

/-- **A written query is dropped exactly if it is saved and nothing else is there.** Of
the visible targets of a datasource that ask SQL or a raw query, those are skipped that
have no SQL, no shown raw query and no aggregators and are of no select kind. Such a
target answers with no series and sends nothing; any other sends its query. -/
theorem skipped_of_written {t : PanelTarget} {window : Window} {vars : Variables}
    (hvisible : t.hidden = false) (hsource : t.dataSource?.isSome = true)
    (hwritten : (t.querySpec window vars).isWritten = true) :
    t.skipped = t.asksOnlySaved ∧
      ∀ (s : Service) (range : TimeRange) (budget : Option Nat)
        (waiting : List (String × BrokerReply)),
        (t.asksOnlySaved = true →
          (s.queryTarget range budget vars t).exchange waiting = ⟨.ok [], [], waiting⟩) ∧
        (t.asksOnlySaved = false →
          let spec := t.querySpec (s.window range budget t) vars
          ((s.queryTarget range budget vars t).exchange waiting).sent =
            [.post spec.endpoint (spec.render s.overrides)]) := by
  have hskipped := skipped_eq_asksOnlySaved hvisible hsource hwritten
  refine ⟨hskipped, fun s range budget waiting => ⟨fun h => ?_, fun h => ?_⟩⟩
  · rw [s.exchange_queryTarget, hskipped, h, if_pos rfl]
  · rw [s.exchange_queryTarget, hskipped, h, if_neg Bool.false_ne_true]
    rfl

/-- A target that shows a blank raw query and has saved one for time series. -/
def savedSeries : PanelTarget :=
  { ofDataSource "wiki" with
    liveRawQuery := some " "
    savedRawQuery := some "\x7b\"queryType\":\"timeseries\"\x7d" }

theorem skipped_savedSeries :
    savedSeries.hidden = false ∧ savedSeries.dataSource?.isSome = true ∧
      (savedSeries.querySpec ⟨.all, .epoch, .epoch⟩ .empty).isWritten = true ∧
      savedSeries.asksOnlySaved = true ∧ savedSeries.skipped = true ∧
      ((⟨.epoch, .empty, none⟩ : Service).queryTarget .firstSecond none .empty savedSeries).exchange
        [] = ⟨.ok [], [], []⟩ := by
  have hsource : savedSeries.dataSource?.isSome = true := by decide
  have hwritten : (savedSeries.querySpec ⟨.all, .epoch, .epoch⟩ .empty).isWritten = true := by
    decide +kernel
  have hsaved : savedSeries.asksOnlySaved = true := by decide +kernel
  obtain ⟨hskipped, hdone⟩ := skipped_of_written rfl hsource hwritten
  exact ⟨rfl, hsource, hwritten, hsaved, hskipped.trans hsaved, (hdone _ _ _ _).1 hsaved⟩

end PanelTarget

end DruidPanels
