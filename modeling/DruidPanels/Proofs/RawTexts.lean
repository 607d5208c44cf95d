import DruidPanels.Proofs.DescriptorValues
import DruidPanels.Proofs.NativeBody
import DruidPanels.Proofs.WrittenQuery

/-! # Raw texts of a target

A target may carry filters, aggregators, post-aggregators and a query of its own as JSON
text. Nobody checks these texts before they are used: a text of the wrong form counts as
absent, and a filter of the wrong form is passed over. What a target asks hangs on its raw
texts only through what each of them gives (`querySpec_withTexts`), so no text that gives
nothing can disturb another (`querySpec_rawTexts`). -/

namespace DruidPanels

/-! ## What one text gives -/

namespace RawText

/-- The text lists these entries: those of an array, or a lone object. -/
inductive Lists (text : String) : List Json → Prop
  | array {items : List Json} (h : Json.parse? text = some (.arr items)) : Lists text items
  | object {fields : Fields} (h : Json.parse? text = some (.obj fields)) :
      Lists text [.obj fields]

/-- There is no text, or one that is neither an array nor an object. -/
def Unlisted (field : Option String) : Prop := ∀ text ∈ field, ∀ items, ¬ Lists text items

/-- The entries that a text gives where it may be absent. -/
inductive Gives : Option String → List Json → Prop
  | listed {text : String} {items : List Json} (h : Lists text items) : Gives (some text) items
  | unlisted {field : Option String} (h : Unlisted field) : Gives field []

/-- There is no text, or one that is no object. -/
def Unasked (field : Option String) : Prop :=
  ∀ text ∈ field, ∀ fields, Json.parse? text ≠ some (.obj fields)

/-- The query that a text asks where it may be absent. -/
inductive Asks : Option String → Option Fields → Prop
  | object {text : String} {fields : Fields} (h : Json.parse? text = some (.obj fields)) :
      Asks (some text) (some fields)
  | unasked {field : Option String} (h : Unasked field) : Asks field none

theorem entries_of_lists {text : String} {items : List Json} (h : Lists text items) :
    entries (some text) = items := by
  unfold entries
  rw [Option.bind_some]
  cases h with
  | array h => rw [h]
  | object h => rw [h]

theorem unlisted_iff {field : Option String} :
    Unlisted field ↔
      ∀ value ∈ field.bind Json.parse?, value.items? = none ∧ value.fields? = none := by
  constructor
  · intro h value hvalue
    obtain ⟨text, htext, hparsed⟩ := Option.bind_eq_some_iff.mp hvalue
    cases value with
    | arr items => exact absurd (.array hparsed) (h text htext items)
    | obj fields => exact absurd (.object hparsed) (h text htext _)
    | null | bool | num | str => exact ⟨rfl, rfl⟩
  · intro h text htext items hlists
    cases hlists with
    | array hparsed => cases (h _ (Option.bind_eq_some_iff.mpr ⟨text, htext, hparsed⟩)).1
    | object hparsed => cases (h _ (Option.bind_eq_some_iff.mpr ⟨text, htext, hparsed⟩)).2

theorem entries_of_unlisted {field : Option String} (h : Unlisted field) : entries field = [] := by
  unfold entries
  cases hvalue : field.bind Json.parse? with
  | none => rfl
  | some value =>
    obtain ⟨hitems, hfields⟩ := unlisted_iff.mp h value hvalue
    cases value with
    | arr => cases hitems
    | obj => cases hfields
    | null | bool | num | str => rfl

theorem gives_iff {field : Option String} {items : List Json} :
    Gives field items ↔ entries field = items := by
  constructor
  · intro h
    cases h with
    | listed hlists => exact entries_of_lists hlists
    | unlisted hnone => exact entries_of_unlisted hnone
  · rintro rfl
    by_cases hnone : Unlisted field
    · rw [entries_of_unlisted hnone]
      exact .unlisted hnone
    · unfold Unlisted at hnone
      push Not at hnone
      obtain ⟨text, rfl, items, hlists⟩ := hnone
      rw [entries_of_lists hlists]
      exact .listed hlists

/-- What is listed is read from a text, so no object of it has a repeated key. -/
theorem distinctKeys_of_gives {field : Option String} {items : List Json}
    (h : Gives field items) : ∀ item ∈ items, item.distinctKeys = true := by
  cases h with
  | unlisted => nofun
  | listed hlists =>
    cases hlists with
    | array hparsed => exact Json.distinctKeys_arr_iff.mp (Json.distinctKeys_of_parse? hparsed)
    | object hparsed =>
      intro item hitem
      rw [List.mem_singleton.mp hitem]
      exact Json.distinctKeys_of_parse? hparsed

theorem query?_eq_some_iff {field : Option String} {fields : Fields} :
    query? field = some fields ↔ ∃ text ∈ field, Json.parse? text = some (.obj fields) := by
  unfold query?
  rw [Option.bind_eq_some_iff]
  constructor
  · rintro ⟨value, hvalue, hfields⟩
    obtain ⟨text, htext, hparsed⟩ := Option.bind_eq_some_iff.mp hvalue
    cases value with
    | obj found =>
      cases hfields
      exact ⟨text, htext, hparsed⟩
    | null | bool | num | str | arr => cases hfields
  · rintro ⟨text, rfl, hparsed⟩
    exact ⟨_, hparsed, rfl⟩

theorem unasked_iff {field : Option String} : Unasked field ↔ query? field = none := by
  constructor
  · intro h
    refine Option.eq_none_iff_forall_ne_some.mpr fun fields hsome => ?_
    obtain ⟨text, htext, hparsed⟩ := query?_eq_some_iff.mp hsome
    exact h text htext fields hparsed
  · intro hnone text htext fields hparsed
    cases hnone.symm.trans (query?_eq_some_iff.mpr ⟨text, htext, hparsed⟩)

theorem asks_iff {field : Option String} {query : Option Fields} :
    Asks field query ↔ query? field = query := by
  constructor
  · intro h
    cases h with
    | object hparsed => exact query?_eq_some_iff.mpr ⟨_, rfl, hparsed⟩
    | unasked hnone => exact unasked_iff.mp hnone
  · rintro rfl
    cases hquery : query? field with
    | some fields =>
      obtain ⟨text, rfl, hparsed⟩ := query?_eq_some_iff.mp hquery
      exact .object hparsed
    | none => exact .unasked (unasked_iff.mpr hquery)

instance : DecidablePred Unlisted := fun _ => decidable_of_iff _ unlisted_iff.symm

instance : DecidablePred Unasked := fun _ => decidable_of_iff _ unasked_iff.symm

end RawText

/-- The scope that every native query has. -/
def NativeQuery.scope : NativeQuery → QueryScope
  | .timeseries scope _ => scope
  | .topN scope _ _ _ _ => scope
  | .groupBy scope _ _ _ => scope
  | .select scope _ _ _ => scope

/-- The raw texts that list entries. -/
inductive RawList where
  | filter | aggregator | postAggregator
deriving DecidableEq, Repr

/-- The texts of a target that are read as JSON. -/
structure RawTexts where
  filter : Option String
  aggregator : Option String
  postAggregator : Option String
  liveQuery : Option String
  savedQuery : Option String

namespace RawTexts

def withoutList (texts : RawTexts) : RawList → RawTexts
  | .filter => { texts with filter := none }
  | .aggregator => { texts with aggregator := none }
  | .postAggregator => { texts with postAggregator := none }

def withoutQueries (texts : RawTexts) : RawTexts :=
  { texts with liveQuery := none, savedQuery := none }

end RawTexts

/-- What raw texts give: filters, aggregates and a query. -/
structure RawParts where
  filters : List FilterDescriptor
  aggregations : List Json
  postAggregations : List Json
  query : Option Fields

namespace PanelTarget

/-! ## What the texts of a target give -/

def rawTexts (t : PanelTarget) : RawTexts where
  filter := t.rawFilter
  aggregator := t.rawAggregator
  postAggregator := t.rawPostAggregator
  liveQuery := t.liveRawQuery
  savedQuery := t.savedRawQuery

def withTexts (t : PanelTarget) (texts : RawTexts) : PanelTarget :=
  { t with
    rawFilter := texts.filter
    rawAggregator := texts.aggregator
    rawPostAggregator := texts.postAggregator
    liveRawQuery := texts.liveQuery
    savedRawQuery := texts.savedQuery }

def rawList? (t : PanelTarget) : RawList → Option String
  | .filter => t.rawFilter?
  | .aggregator => t.rawAggregator?
  | .postAggregator => t.rawPostAggregator?

/-- The raw texts of a target give these parts. Of the filter text these are the
descriptors that its entries say; an entry that says none is passed over. -/
structure RawGives (t : PanelTarget) (p : RawParts) : Prop where
  filters : ∃ items, RawText.Gives t.rawFilter? items ∧
    Itemwise.Sifts FilterDescriptor.Describes items p.filters
  aggregations : RawText.Gives t.rawAggregator? p.aggregations
  postAggregations : RawText.Gives t.rawPostAggregator? p.postAggregations
  query : RawText.Asks t.rawQuery? p.query

def rawParts (t : PanelTarget) : RawParts where
  filters := (RawText.entries t.rawFilter?).filterMap (FilterDescriptor.decoder.ofJson? ·)
  aggregations := RawText.entries t.rawAggregator?
  postAggregations := RawText.entries t.rawPostAggregator?
  query := RawText.query? t.rawQuery?

theorem sifts_describes_iff {field : Option String} {items : List Json}
    {filters : List FilterDescriptor} (h : RawText.Gives field items) :
    Itemwise.Sifts FilterDescriptor.Describes items filters ↔
      items.filterMap (FilterDescriptor.decoder.ofJson? ·) = filters :=
  Itemwise.sifts_iff fun item hitem _ =>
    FilterDescriptor.ofJson?_eq_some_iff (RawText.distinctKeys_of_gives h item hitem)

theorem rawGives_iff {t : PanelTarget} {p : RawParts} : t.RawGives p ↔ p = t.rawParts := by
  constructor
  · intro h
    obtain ⟨items, hitems, hsifts⟩ := h.filters
    have hfilters := (sifts_describes_iff hitems).mp hsifts
    rw [← RawText.gives_iff.mp hitems] at hfilters
    cases p with
    | mk filters aggregations postAggregations query =>
      unfold rawParts
      rw [RawText.gives_iff.mp h.aggregations, RawText.gives_iff.mp h.postAggregations,
        RawText.asks_iff.mp h.query, hfilters]
  · rintro rfl
    have hitems : RawText.Gives t.rawFilter? (RawText.entries t.rawFilter?) :=
      RawText.gives_iff.mpr rfl
    exact {
      filters := ⟨_, hitems, (sifts_describes_iff hitems).mpr rfl⟩
      aggregations := RawText.gives_iff.mpr rfl
      postAggregations := RawText.gives_iff.mpr rfl
      query := RawText.asks_iff.mpr rfl }

-- the second entry is no object and the third has no type: the fourth stays
example :
    let filters := "[\x7b\"type\":\"regex\"\x7d,42,\x7b\x7d,\x7b\"type\":\"search\"\x7d]"
    let t : PanelTarget := { ofDataSource "wiki" with rawFilter := some filters }
    t.rawParts.filters.map FilterDescriptor.kind = [.regex, .search] := by
  decide +kernel

/-- Texts that give the same can stand for each other: filters, aggregates and a query are
all that is read of them. -/
theorem querySpec_withTexts {t : PanelTarget} {texts : RawTexts}
    (h : (t.withTexts texts).rawParts = t.rawParts) (window : Window) (vars : Variables) :
    (t.withTexts texts).querySpec window vars = t.querySpec window vars := by
  have hfilters : (t.withTexts texts).allFilters = t.allFilters :=
    congrArg (fun p => t.filters ++ p.filters) h
  have haggregates : (t.withTexts texts).aggregates = t.aggregates :=
    congrArg (fun p : RawParts => (⟨t.aggregators ++ p.aggregations,
      t.postAggregators ++ p.postAggregations⟩ : Aggregates)) h
  have hquery : RawText.query? (t.withTexts texts).rawQuery? = RawText.query? t.rawQuery? :=
    congrArg RawParts.query h
  have hscope : (t.withTexts texts).scope window vars = t.scope window vars := by
    unfold scope
    rw [hfilters]
    rfl
  have hnative : (t.withTexts texts).nativeQuery window vars = t.nativeQuery window vars := by
    unfold nativeQuery
    rw [hscope, haggregates]
    rfl
  unfold querySpec
  rw [haggregates, hnative, hquery]
  rfl

/-! ## What a target asks -/

theorem rawParts_withoutList {t : PanelTarget} {list : RawList}
    (h : RawText.Unlisted (t.rawList? list)) :
    (t.withTexts (t.rawTexts.withoutList list)).rawParts = t.rawParts := by
  unfold rawParts
  cases list with
  | filter =>
    have hnone : RawText.entries t.rawFilter? = [] := RawText.entries_of_unlisted h
    rw [hnone]
    rfl
  | aggregator =>
    have hnone : RawText.entries t.rawAggregator? = [] := RawText.entries_of_unlisted h
    rw [hnone]
    rfl
  | postAggregator =>
    have hnone : RawText.entries t.rawPostAggregator? = [] := RawText.entries_of_unlisted h
    rw [hnone]
    rfl

theorem rawParts_withoutQueries {t : PanelTarget} (h : RawText.Unasked t.rawQuery?) :
    (t.withTexts t.rawTexts.withoutQueries).rawParts = t.rawParts := by
  unfold rawParts
  rw [RawText.unasked_iff.mp h]
  rfl

/-- What a target asks where its raw texts give these parts. SQL wins over a raw query,
and a raw query over the editor's fields; each list holds the structured entries first. -/
inductive Asked (t : PanelTarget) (p : RawParts) (window : Window) (vars : Variables) :
    QuerySpec → Prop
  | sql {text : String} (hsql : t.sql? = some text) :
      Asked t p window vars (.sql {
        text := vars.expand text
        dimensions := t.groupBy.map vars.expand
        metrics := Metrics.names (t.aggregators ++ p.aggregations)
          (t.postAggregators ++ p.postAggregations) })
  | raw {body : Fields} (hsql : t.sql? = none) (hquery : p.query = some body) :
      Asked t p window vars (.raw (Fields.insert "intervals" (.ofTexts window.intervals) body))
  | native {query : NativeQuery} (hsql : t.sql? = none) (hquery : p.query = none)
      (hscope : query.scope = {
        dataSource := t.dataSource?.getD ""
        granularity := window.granularity
        intervals := window.intervals
        filter := FilterTree.compile (t.filters ++ p.filters) vars })
      (hselect : t.kind = .select → query.aggregates = ⟨[], []⟩)
      (haggregates : t.kind ≠ .select → query.aggregates =
        ⟨t.aggregators ++ p.aggregations, t.postAggregators ++ p.postAggregations⟩) :
      Asked t p window vars (.native query)

theorem scope_nativeQuery (t : PanelTarget) (window : Window) (vars : Variables) :
    (t.nativeQuery window vars).scope = t.scope window vars := by
  unfold nativeQuery
  cases t.kind <;> rfl

theorem aggregates_nativeQuery (t : PanelTarget) (window : Window) (vars : Variables) :
    (t.nativeQuery window vars).aggregates =
      if t.kind = .select then ⟨[], []⟩ else t.aggregates := by
  unfold nativeQuery
  cases t.kind <;> rfl

theorem asked_querySpec (t : PanelTarget) (window : Window) (vars : Variables) :
    t.Asked t.rawParts window vars (t.querySpec window vars) := by
  unfold querySpec
  cases hsql : t.sql? with
  | some sql => exact .sql hsql
  | none =>
    cases hquery : RawText.query? t.rawQuery? with
    | some body => exact .raw hsql hquery
    | none =>
      have haggregates := t.aggregates_nativeQuery window vars
      refine .native hsql hquery ?_ ?_ ?_
      · exact t.scope_nativeQuery window vars
      · intro hselect
        rw [haggregates, if_pos hselect]
      · intro hother
        rw [haggregates, if_neg hother]
        rfl

/-- **Raw texts of the wrong form count as absent.** A filter, aggregator or
post-aggregator text that is neither an array nor an object can be taken away, and so can
the raw queries where the one that is read is no object: the target asks the same. Whatever
the texts give is asked behind the structured entries, in order, and a filter of the wrong
form is missing alone. -/
theorem querySpec_rawTexts (t : PanelTarget) (window : Window) (vars : Variables) :
    (∀ list, RawText.Unlisted (t.rawList? list) →
      (t.withTexts (t.rawTexts.withoutList list)).querySpec window vars =
        t.querySpec window vars) ∧
    (RawText.Unasked t.rawQuery? →
      (t.withTexts t.rawTexts.withoutQueries).querySpec window vars =
        t.querySpec window vars) ∧
    ∃ p, (∀ p', t.RawGives p' ↔ p' = p) ∧ t.Asked p window vars (t.querySpec window vars) := by
  refine ⟨fun list hlist => ?_, fun hquery => ?_, t.rawParts, fun p' => rawGives_iff, ?_⟩
  · exact querySpec_withTexts (rawParts_withoutList hlist) window vars
  · exact querySpec_withTexts (rawParts_withoutQueries hquery) window vars
  · exact t.asked_querySpec window vars

/-- A target whose raw texts are all of the wrong form but for the saved query, and that
one is hidden by the shown one. -/
def misspelt : PanelTarget :=
  { savedSeries with
    liveRawQuery := some "[1]"
    rawFilter := some "42"
    rawAggregator := some "null"
    rawPostAggregator := some "\x7boops" }

theorem querySpec_misspelt :
    let asked (texts : RawTexts) :=
      (misspelt.withTexts texts).querySpec ⟨.all, .epoch, .epoch⟩ .empty
    RawText.Unlisted misspelt.rawFilter? ∧ RawText.Unlisted misspelt.rawAggregator? ∧
      RawText.Unlisted misspelt.rawPostAggregator? ∧ RawText.Unasked misspelt.rawQuery? ∧
      ¬ RawText.Unasked misspelt.savedRawQuery ∧
      asked (misspelt.rawTexts.withoutList .filter) = asked misspelt.rawTexts ∧
      asked (misspelt.rawTexts.withoutList .aggregator) = asked misspelt.rawTexts ∧
      asked (misspelt.rawTexts.withoutList .postAggregator) = asked misspelt.rawTexts ∧
      asked misspelt.rawTexts.withoutQueries = asked misspelt.rawTexts := by
  have hfilter : RawText.Unlisted misspelt.rawFilter? := by decide +kernel
  have haggregator : RawText.Unlisted misspelt.rawAggregator? := by decide +kernel
  have hpost : RawText.Unlisted misspelt.rawPostAggregator? := by decide +kernel
  have hquery : RawText.Unasked misspelt.rawQuery? := by decide +kernel
  have hsaved : ¬ RawText.Unasked misspelt.savedRawQuery := by decide +kernel
  obtain ⟨hlists, hqueries, _⟩ := misspelt.querySpec_rawTexts ⟨.all, .epoch, .epoch⟩ .empty
  exact ⟨hfilter, haggregator, hpost, hquery, hsaved, hlists .filter hfilter,
    hlists .aggregator haggregator, hlists .postAggregator hpost, hqueries hquery⟩

end PanelTarget

end DruidPanels
