import DruidPanels.Proofs.Exchange
import DruidPanels.Proofs.FilterMeaning
import DruidPanels.Proofs.PlannedIntervals
import DruidPanels.Proofs.RawTexts

/-! # Filters of lookups

A panel passes the rows that its structured and its raw filters pass. A lookup looks among
those that the structured filters pass: it leaves the raw ones out. So the rows that it
finds are those of the panel in which the search is found just as far as the raw filters
demand nothing new (`filterValues_narrows_iff`). -/

namespace DruidPanels

/-! ## Demands -/

/-- What a filter demands of a row: that a leaf holds of it, or that it does not. -/
structure Demand where
  leaf : Fields
  negated : Bool

namespace Demand

/-- The demand is met by a row, if `meaning` says of which rows a leaf holds. -/
def Met {Row : Type} (meaning : Fields → Row → Prop) (row : Row) (d : Demand) : Prop :=
  meaning d.leaf row ↔ d.negated = false

/-- One leaf is to hold and not to hold. -/
def Contradict (demands : List Demand) : Prop :=
  ∃ leaf, ⟨leaf, false⟩ ∈ demands ∧ ⟨leaf, true⟩ ∈ demands

/-- Whatever leaves mean, a row that meets the demands meets this one as well. -/
def Follows (demands : List Demand) (d : Demand) : Prop :=
  ∀ {Row : Type} (meaning : Fields → Row → Prop) (row : Row),
    (∀ g ∈ demands, g.Met meaning row) → d.Met meaning row

/-- Leaves mean what they like, so a demand follows from others just if it is one of them
or they cannot be met. -/
theorem follows_iff {demands : List Demand} {d : Demand} :
    Follows demands d ↔ d ∈ demands ∨ Contradict demands := by
  constructor
  · intro h
    by_contra hnot
    obtain ⟨hnew, hpossible⟩ := not_or.mp hnot
    -- the leaf of the demand means its opposite, every other leaf what is demanded of it
    let meaning : Fields → Unit → Prop := fun leaf _ =>
      leaf = d.leaf ∧ d.negated = true ∨ leaf ≠ d.leaf ∧ ⟨leaf, false⟩ ∈ demands
    have hall : ∀ g ∈ demands, g.Met meaning () := by
      intro g hg
      obtain ⟨leaf, negated⟩ := g
      by_cases hleaf : leaf = d.leaf
      · have hother : negated ≠ d.negated := by
          rintro rfl
          rw [hleaf] at hg
          exact hnew hg
        cases negated <;> cases hnegated : d.negated <;> simp_all [Met, meaning]
      · cases negated with
        | false => simp [Met, meaning, hleaf, hg]
        | true =>
          have hother : ⟨leaf, false⟩ ∉ demands := fun hpos => hpossible ⟨leaf, hpos, hg⟩
          simp [Met, meaning, hleaf, hother]
    have hd := h meaning () hall
    cases hnegated : d.negated <;> simp [Met, meaning, hnegated] at hd
  · rintro (hmem | ⟨leaf, hpos, hneg⟩) Row meaning row hall
    · exact hall d hmem
    · have hholds : meaning leaf row := (hall _ hpos).mpr rfl
      cases (hall _ hneg).mp hholds

/-- One demand put in the place of others asks for as much as all of them together just if
each of the others follows from what is left. -/
theorem narrows_iff {kept others : List Demand} {put : Demand} :
    (∀ {Row : Type} (meaning : Fields → Row → Prop) (row : Row),
      (∀ d ∈ kept ++ [put], d.Met meaning row) ↔
        (∀ d ∈ kept ++ others, d.Met meaning row) ∧ put.Met meaning row) ↔
      Contradict (kept ++ [put]) ∨ ∀ d ∈ others, d ∈ kept ++ [put] := by
  constructor
  · intro h
    by_contra hnot
    obtain ⟨hpossible, hnew⟩ := not_or.mp hnot
    refine hnew fun d hd => (follows_iff.mp ?_).resolve_right hpossible
    intro Row meaning row hall
    exact ((h meaning row).mp hall).1 d (List.mem_append_right kept hd)
  · intro h Row meaning row
    have hfollows : ∀ d ∈ others, Follows (kept ++ [put]) d := fun d hd =>
      follows_iff.mpr (h.symm.imp (· d hd) id)
    constructor
    · intro hall
      refine ⟨List.forall_mem_append.mpr ⟨?_, ?_⟩, hall put (by simp)⟩
      · exact (List.forall_mem_append.mp hall).1
      · exact fun d hd => hfollows d hd meaning row hall
    · rintro ⟨hall, hput⟩
      exact List.forall_mem_append.mpr
        ⟨(List.forall_mem_append.mp hall).1, List.forall_mem_singleton.mpr hput⟩

end Demand

namespace FilterDescriptor

/-- What a filter demands under variables. -/
def demand (vars : Variables) (f : FilterDescriptor) : Demand := ⟨f.leaf vars, f.negate⟩

/-- The leaf that finds a text in a dimension, in any case. -/
def searchLeaf (dimension text : String) : Fields :=
  [("type", .str "search"), ("dimension", .str dimension),
    ("query", .obj [("type", .str "insensitive_contains"), ("value", .str text)])]

/-- Variables are not expanded in a search. -/
theorem demand_insensitiveSearch (vars : Variables) (dimension text : String) :
    (insensitiveSearch dimension text).demand vars = ⟨searchLeaf dimension text, false⟩ := rfl

theorem holds_ofDescriptor {Row : Type} (meaning : Fields → Row → Prop) (row : Row)
    (vars : Variables) (f : FilterDescriptor) :
    (FilterTree.ofDescriptor vars f).Holds meaning row ↔ (f.demand vars).Met meaning row := by
  unfold FilterTree.ofDescriptor demand Demand.Met
  cases f.negate <;> simp [FilterTree.Holds]

end FilterDescriptor

theorem FilterTree.passes_compile {Row : Type} (meaning : Fields → Row → Prop) (row : Row)
    (filters : List FilterDescriptor) (vars : Variables) :
    Passes meaning row (compile filters vars) ↔
      ∀ d ∈ filters.map (FilterDescriptor.demand vars), d.Met meaning row := by
  rw [compile, passes_conjunction, List.forall_mem_map, List.forall_mem_map]
  simp only [FilterDescriptor.holds_ofDescriptor]

/-! ## Lookups -/

namespace Service

variable {s : Service} {lookup : FilterLookup} {query : NativeQuery}

theorem sent_filterValues (h : s.lookupSpec lookup = .ok (.native query))
    (waiting : List (String × BrokerReply)) :
    ((s.filterValues lookup).exchange waiting).sent =
      [.post nativeEndpoint ((QuerySpec.native query).render s.overrides)] := by
  unfold filterValues
  rw [h]
  change ((s.ask (.native query)).exchange waiting).sent = _
  rw [ask, Session.exchange_send]
  rfl

theorem passes_lookup {dimension : String} (h : s.lookupSpec lookup = .ok (.native query))
    (hdimension : lookup.target.lookupDimension.bind Text.trimmed? = some dimension)
    {Row : Type} (meaning : Fields → Row → Prop) (row : Row) :
    FilterTree.Passes meaning row query.scope.filter ↔
      ∀ d ∈ lookup.target.filters.map (FilterDescriptor.demand lookup.vars) ++
        [⟨FilterDescriptor.searchLeaf dimension lookup.search, false⟩], d.Met meaning row := by
  obtain ⟨_, dimension', _, _, hdimension', _, hspec⟩ := lookupSpec_eq_ok h
  cases hdimension.symm.trans hdimension'
  cases hspec
  change FilterTree.Passes meaning row (FilterTree.compile _ _) ↔ _
  rw [FilterTree.passes_compile, List.map_append, List.map_singleton,
    FilterDescriptor.demand_insensitiveSearch]

end Service

theorem PanelTarget.passes_querySpec {t : PanelTarget} {window : Window} {vars : Variables}
    {query : NativeQuery} (h : t.querySpec window vars = .native query) {Row : Type}
    (meaning : Fields → Row → Prop) (row : Row) :
    FilterTree.Passes meaning row query.scope.filter ↔
      ∀ d ∈ t.filters.map (FilterDescriptor.demand vars) ++
        t.rawParts.filters.map (FilterDescriptor.demand vars), d.Met meaning row := by
  have hasked := t.asked_querySpec window vars
  rw [h] at hasked
  cases hasked with
  | native hsql hquery hscope hselect haggregates =>
    rw [hscope, FilterTree.passes_compile, List.map_append]

namespace Service

open FilterDescriptor FilterTree

/-- **A lookup leaves raw filters out.** Let a lookup be answered, and let the panel of its
target send a native query. The lookup sends one query. Whatever leaves mean, a row passes
its filter if it meets the structured filters of the target and the search is found in the
dimension; a row passes the filter of the panel if it meets the structured filters and the
raw ones. The lookup therefore finds the rows of the panel in which the search is found,
and no others, exactly if every raw filter demands what a structured filter or the search
demands already, or if these contradict each other, so that no row is found at all. -/
theorem filterValues_narrows_iff {s : Service} {lookup : FilterLookup} {window : Window}
    {query panel : NativeQuery} (h : s.lookupSpec lookup = .ok (.native query))
    (hpanel : lookup.target.querySpec window lookup.vars = .native panel)
    (waiting : List (String × BrokerReply)) :
    ((s.filterValues lookup).exchange waiting).sent =
        [.post nativeEndpoint ((QuerySpec.native query).render s.overrides)] ∧
      ∃ dimension, lookup.target.lookupDimension.bind Text.trimmed? = some dimension ∧
        let search : Fields := searchLeaf dimension lookup.search
        let structured := lookup.target.filters.map (demand lookup.vars)
        let raw := lookup.target.rawParts.filters.map (demand lookup.vars)
        (∀ {Row : Type} (meaning : Fields → Row → Prop) (row : Row),
          Passes meaning row query.scope.filter ↔
            (∀ d ∈ structured, d.Met meaning row) ∧ meaning search row) ∧
        (∀ {Row : Type} (meaning : Fields → Row → Prop) (row : Row),
          Passes meaning row panel.scope.filter ↔
            (∀ d ∈ structured, d.Met meaning row) ∧ ∀ d ∈ raw, d.Met meaning row) ∧
        ((∀ {Row : Type} (meaning : Fields → Row → Prop) (row : Row),
          Passes meaning row query.scope.filter ↔
            Passes meaning row panel.scope.filter ∧ meaning search row) ↔
          Demand.Contradict (structured ++ [⟨search, false⟩]) ∨
            ∀ d ∈ raw, d ∈ structured ++ [⟨search, false⟩]) := by
  obtain ⟨_, dimension, _, _, hdimension, _, _⟩ := lookupSpec_eq_ok h
  refine ⟨sent_filterValues h waiting, dimension, hdimension, ?_⟩
  intro search structured raw
  have hfound {Row : Type} (meaning : Fields → Row → Prop) (row : Row) :
      Demand.Met meaning row ⟨search, false⟩ ↔ meaning search row := iff_true_right rfl
  refine ⟨fun meaning row => ?_, fun meaning row => ?_, ?_⟩
  · rw [passes_lookup h hdimension, List.forall_mem_append, List.forall_mem_singleton, hfound]
  · rw [PanelTarget.passes_querySpec hpanel, List.forall_mem_append]
  · rw [← Demand.narrows_iff]
    simp only [passes_lookup h hdimension, PanelTarget.passes_querySpec hpanel, hfound,
      search, structured, raw]

/-- A lookup of pages for a target whose only filter, a raw one, keeps to one site. -/
def oneSiteLookup : FilterLookup where
  target := { PanelTarget.ofDataSource "wiki" with
    aggregators := [.obj [("type", .str "count"), ("name", .str "edits")]]
    lookupDimension := some " page "
    rawFilter := some "\x7b\"type\":\"selector\",\"dimension\":\"site\",\"value\":\"en\"\x7d" }
  range := ⟨.text "now-1h", .text "now"⟩
  search := "Main"
  vars := .empty

/-- The lookup finds pages of other sites than the panel shows. -/
theorem filterValues_widens_oneSite :
    let s : Service := ⟨.epoch, .empty, none⟩
    let window : Window := ⟨.all, .epoch, .epoch⟩
    ∃ query panel : NativeQuery, s.lookupSpec oneSiteLookup = .ok (.native query) ∧
      oneSiteLookup.target.querySpec window .empty = .native panel ∧
      ((s.filterValues oneSiteLookup).exchange []).sent =
        [.post nativeEndpoint ((QuerySpec.native query).render .empty)] ∧
      ¬ ∀ {Row : Type} (meaning : Fields → Row → Prop) (row : Row),
        Passes meaning row query.scope.filter ↔
          Passes meaning row panel.scope.filter ∧ meaning (searchLeaf "page" "Main") row := by
  intro s window
  have hanswered : (s.lookupSpec oneSiteLookup).toOption.isSome = true := by decide +kernel
  have hnative : oneSiteLookup.target.querySpec window .empty =
      .native (oneSiteLookup.target.nativeQuery window .empty) := by
    have hquery : RawText.query? oneSiteLookup.target.rawQuery? = none := by decide +kernel
    rw [PanelTarget.querySpec, hquery]
    rfl
  have hkinds : oneSiteLookup.target.rawParts.filters.map FilterDescriptor.kind = [.selector] := by
    decide +kernel
  have hdimension : oneSiteLookup.target.lookupDimension.bind Text.trimmed? = some "page" := by
    decide +kernel
  obtain ⟨query, hlookup⟩ : ∃ query, s.lookupSpec oneSiteLookup = .ok (.native query) := by
    cases hspec : s.lookupSpec oneSiteLookup with
    | error e =>
      rw [hspec] at hanswered
      cases hanswered
    | ok spec =>
      obtain ⟨_, _, _, _, _, _, rfl⟩ := lookupSpec_eq_ok hspec
      exact ⟨_, rfl⟩
  obtain ⟨hsent, dimension, hasked, _, _, hiff⟩ := filterValues_narrows_iff hlookup hnative []
  cases hdimension.symm.trans hasked
  refine ⟨query, _, hlookup, hnative, hsent, fun hnarrows => ?_⟩
  -- the target has no structured filters, so the search alone would have to demand the site
  obtain ⟨leaf, hpos, hneg⟩ | hdemanded := hiff.mp hnarrows
  · cases List.mem_singleton.mp hneg
  · obtain ⟨f, hf, hkind⟩ : ∃ f ∈ oneSiteLookup.target.rawParts.filters, f.kind = .selector := by
      have hmem : FilterKind.selector ∈
          oneSiteLookup.target.rawParts.filters.map FilterDescriptor.kind := by
        rw [hkinds]
        exact List.mem_singleton_self _
      simpa only [List.mem_map] using hmem
    have hsame := List.mem_singleton.mp (hdemanded _ (List.mem_map_of_mem hf))
    have hleaf : f.leaf .empty = searchLeaf "page" "Main" := congrArg Demand.leaf hsame
    rw [FilterDescriptor.leaf, hkind] at hleaf
    simp [searchLeaf, FilterKind.name] at hleaf

end Service

end DruidPanels
