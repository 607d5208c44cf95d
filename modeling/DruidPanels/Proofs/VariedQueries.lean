import DruidPanels.Query.Spec

/-! # Queries under two sets of variables

What a target asks hangs on the variables of its panel through texts alone. Two sets of
variables make two queries of one target that match part by part (`PanelTarget.Varies`):
they differ where a text of the target is expanded, and each of them has there that text,
expanded once with its own variables. All other parts are the same, and so is the place
that the queries are sent to (`querySpec_varies`). -/

namespace DruidPanels

namespace FilterKind

/-- Variables are expanded in the value of a selector, the pattern of a regular expression
and the function of a script, and nowhere else in a filter. -/
inductive ExpandsIn : FilterKind → String → Prop
  | value : ExpandsIn .selector "value"
  | pattern : ExpandsIn .regex "pattern"
  | function : ExpandsIn .javaScript "function"

theorem expandsIn_iff {kind : FilterKind} {key : String} :
    kind.ExpandsIn key ↔ kind.expandedField? = some key := by
  constructor
  · intro h
    cases h <;> rfl
  · intro h
    cases kind with
    | selector => cases h; exact .value
    | regex => cases h; exact .pattern
    | javaScript => cases h; exact .function
    | search | other => cases h

end FilterKind

section Filters

variable (v w : Variables)

/-! ## Filters -/

namespace FilterDescriptor

/-- An entry of a filter and what it is under two sets of variables. A text is expanded
where its kind has variables; any other value, and any other text, is kept. -/
inductive EntryVaries (kind : FilterKind) :
    String × Json → String × Json → String × Json → Prop
  | expanded {key text : String} (h : kind.ExpandsIn key) :
      EntryVaries kind (key, .str text) (key, .str (v.expand text)) (key, .str (w.expand text))
  | kept {entry : String × Json}
      (h : ∀ text, entry.2 = .str text → ¬ kind.ExpandsIn entry.1) :
      EntryVaries kind entry entry entry

/-- The entries of a filter, each in its place. -/
inductive EntriesVary (kind : FilterKind) : Fields → Fields → Fields → Prop
  | nil : EntriesVary kind [] [] []
  | cons {entry left right : String × Json} {entries lefts rights : Fields}
      (h : EntryVaries v w kind entry left right) (rest : EntriesVary kind entries lefts rights) :
      EntriesVary kind (entry :: entries) (left :: lefts) (right :: rights)

/-- A filter and the trees that it is compiled to: leaves of its kind, or such leaves under
a `not` if it is negated. -/
inductive TreeVaries : FilterDescriptor → FilterTree → FilterTree → Prop
  | leaf {f : FilterDescriptor} {left right : Fields} (hnegate : f.negate = false)
      (h : EntriesVary v w f.kind f.fields left right) :
      TreeVaries f (.leaf (("type", .str f.kind.name) :: left))
        (.leaf (("type", .str f.kind.name) :: right))
  | not {f : FilterDescriptor} {left right : Fields} (hnegate : f.negate = true)
      (h : EntriesVary v w f.kind f.fields left right) :
      TreeVaries f (.not (.leaf (("type", .str f.kind.name) :: left)))
        (.not (.leaf (("type", .str f.kind.name) :: right)))

/-- Filters and their trees, each in its place. -/
inductive TreesVary : List FilterDescriptor → List FilterTree → List FilterTree → Prop
  | nil : TreesVary [] [] []
  | cons {f : FilterDescriptor} {left right : FilterTree} {filters : List FilterDescriptor}
      {lefts rights : List FilterTree} (h : TreeVaries v w f left right)
      (rest : TreesVary filters lefts rights) :
      TreesVary (f :: filters) (left :: lefts) (right :: rights)

/-- Filters and what they are compiled to together: nothing for none, the tree of a lone
one, or the trees of all under an `and`. -/
inductive FilterVaries : List FilterDescriptor → Option FilterTree → Option FilterTree → Prop
  | none : FilterVaries [] none none
  | one {f : FilterDescriptor} {left right : FilterTree} (h : TreeVaries v w f left right) :
      FilterVaries [f] (some left) (some right)
  | all {f g : FilterDescriptor} {filters : List FilterDescriptor}
      {lefts rights : List FilterTree} (h : TreesVary v w (f :: g :: filters) lefts rights) :
      FilterVaries (f :: g :: filters) (some (.and lefts)) (some (.and rights))

theorem entryVaries_expandField (kind : FilterKind) (key : String) (value : Json) :
    EntryVaries v w kind (key, value) (key, expandField kind v key value)
      (key, expandField kind w key value) := by
  cases value with
  | str text =>
    by_cases h : kind.expandedField? = some key
    · simp only [expandField, if_pos h]
      exact .expanded (FilterKind.expandsIn_iff.mpr h)
    · simp only [expandField, if_neg h]
      exact .kept fun _ _ hin => h (FilterKind.expandsIn_iff.mp hin)
  | null | bool | num | arr | obj => exact .kept nofun

theorem entriesVary_expandField (kind : FilterKind) (fields : Fields) :
    EntriesVary v w kind fields
      (fields.map fun (key, value) => (key, expandField kind v key value))
      (fields.map fun (key, value) => (key, expandField kind w key value)) := by
  induction fields with
  | nil => exact .nil
  | cons entry rest ih => exact .cons (entryVaries_expandField v w kind entry.1 entry.2) ih

theorem treeVaries_ofDescriptor (f : FilterDescriptor) :
    TreeVaries v w f (FilterTree.ofDescriptor v f) (FilterTree.ofDescriptor w f) := by
  have hfields := entriesVary_expandField v w f.kind f.fields
  unfold FilterTree.ofDescriptor leaf
  cases hnegate : f.negate with
  | false => exact .leaf hnegate hfields
  | true => exact .not hnegate hfields

theorem treesVary_map (filters : List FilterDescriptor) :
    TreesVary v w filters (filters.map (FilterTree.ofDescriptor v))
      (filters.map (FilterTree.ofDescriptor w)) := by
  induction filters with
  | nil => exact .nil
  | cons f rest ih => exact .cons (treeVaries_ofDescriptor v w f) ih

theorem filterVaries_compile (filters : List FilterDescriptor) :
    FilterVaries v w filters (FilterTree.compile filters v) (FilterTree.compile filters w) := by
  match filters with
  | [] => exact .none
  | [f] => exact .one (treeVaries_ofDescriptor v w f)
  | f :: g :: rest => exact .all (treesVary_map v w (f :: g :: rest))

/-! ## Filters without variables -/

variable {v w}

theorem EntriesVary.eq {kind : FilterKind} {entries left right : Fields}
    (h : EntriesVary v w kind entries left right) (hkind : ∀ key, ¬ kind.ExpandsIn key) :
    left = entries ∧ right = entries := by
  induction h with
  | nil => exact ⟨rfl, rfl⟩
  | cons hentry _ ih =>
    obtain ⟨rfl, rfl⟩ := ih
    cases hentry with
    | expanded hin => exact absurd hin (hkind _)
    | kept => exact ⟨rfl, rfl⟩

theorem TreeVaries.eq {f : FilterDescriptor} {left right : FilterTree}
    (h : TreeVaries v w f left right) (hkind : ∀ key, ¬ f.kind.ExpandsIn key) : left = right := by
  cases h with
  | leaf _ hfields | not _ hfields =>
    obtain ⟨rfl, rfl⟩ := hfields.eq hkind
    rfl

end FilterDescriptor

end Filters

/-! ## Targets -/

namespace PanelTarget

section Queries

variable (t : PanelTarget) (v w : Variables)

/-- The scopes of two native queries. Their filters are those of the target, the structured
ones and then the raw ones. -/
structure ScopeVaries (left right : QueryScope) : Prop where
  dataSource : left.dataSource = right.dataSource
  granularity : left.granularity = right.granularity
  intervals : left.intervals = right.intervals
  filter : FilterDescriptor.FilterVaries v w t.allFilters left.filter right.filter

/-- Two native queries of the target. They rank, cut and aggregate alike; a top list ranks
the dimension that is written, and groups are formed by the dimensions that are written,
each expanded. -/
inductive NativeVaries : NativeQuery → NativeQuery → Prop
  | timeseries {left right : QueryScope} {aggregates : Aggregates}
      (h : t.ScopeVaries v w left right) :
      NativeVaries (.timeseries left aggregates) (.timeseries right aggregates)
  | topN {left right : QueryScope} {aggregates : Aggregates} {metric : Option String}
      {threshold : Option Nat} (h : t.ScopeVaries v w left right) :
      NativeVaries
        (.topN left aggregates (v.expand (t.dimension.getD "")) metric threshold)
        (.topN right aggregates (w.expand (t.dimension.getD "")) metric threshold)
  | groupBy {left right : QueryScope} {aggregates : Aggregates} {limit : Option RowLimit}
      (h : t.ScopeVaries v w left right) :
      NativeVaries (.groupBy left aggregates (t.groupBy.map v.expand) limit)
        (.groupBy right aggregates (t.groupBy.map w.expand) limit)
  | select {left right : QueryScope} {dimensions metrics : List String} {pageSize : Nat}
      (h : t.ScopeVaries v w left right) :
      NativeVaries (.select left dimensions metrics pageSize)
        (.select right dimensions metrics pageSize)

/-- Two queries that the target asks. SQL is its text, pivoted by its dimensions, all of
them expanded; a raw query is the same for all variables. -/
inductive Varies : QuerySpec → QuerySpec → Prop
  | sql {text : String} {metrics : List String} (htext : t.sql? = some text) :
      Varies (.sql ⟨v.expand text, t.groupBy.map v.expand, metrics⟩)
        (.sql ⟨w.expand text, t.groupBy.map w.expand, metrics⟩)
  | raw {body : Fields} : Varies (.raw body) (.raw body)
  | native {left right : NativeQuery} (h : t.NativeVaries v w left right) :
      Varies (.native left) (.native right)

theorem scopeVaries_scope (window : Window) :
    t.ScopeVaries v w (t.scope window v) (t.scope window w) where
  dataSource := rfl
  granularity := rfl
  intervals := rfl
  filter := FilterDescriptor.filterVaries_compile v w t.allFilters

theorem nativeVaries_nativeQuery (window : Window) :
    t.NativeVaries v w (t.nativeQuery window v) (t.nativeQuery window w) := by
  have hscope := t.scopeVaries_scope v w window
  unfold nativeQuery
  cases t.kind with
  | topN => exact .topN hscope
  | groupBy => exact .groupBy hscope
  | select => exact .select hscope
  | timeseries | unknown => exact .timeseries hscope

theorem varies_querySpec (window : Window) :
    t.Varies v w (t.querySpec window v) (t.querySpec window w) := by
  unfold querySpec
  cases hsql : t.sql? with
  | some text => exact .sql hsql
  | none =>
    cases RawText.query? t.rawQuery? with
    | some body => exact .raw
    | none => exact .native (t.nativeVaries_nativeQuery v w window)

variable {t v w}

theorem Varies.endpoint_eq {left right : QuerySpec} (h : t.Varies v w left right) :
    left.endpoint = right.endpoint := by
  cases h <;> rfl

end Queries

/-- **Variables reach known places and no others.** Whatever two sets of variables, the
queries of a target are of one kind and sent to one endpoint. A raw query is the same, and
so are the dimensions and metrics of a select query. Other queries differ at most in the
SQL text, in the dimensions of SQL and of groups, in the dimension of a top list, and in
the value, pattern or function of a filter, structured or raw: each is the text written
there, expanded under the one set and under the other. Filters of any other kind are
compiled to the same tree. -/
theorem querySpec_varies (t : PanelTarget) (window : Window) (v w : Variables) :
    t.Varies v w (t.querySpec window v) (t.querySpec window w) ∧
      (t.querySpec window v).endpoint = (t.querySpec window w).endpoint ∧
      ∀ f ∈ t.allFilters, (f.kind = .search ∨ ∃ name, f.kind = .other name) →
        FilterTree.ofDescriptor v f = FilterTree.ofDescriptor w f := by
  have hvaries := t.varies_querySpec v w window
  refine ⟨hvaries, hvaries.endpoint_eq, fun f _ hkind => ?_⟩
  have hnever : ∀ key, ¬ f.kind.ExpandsIn key := by
    rintro key hin
    obtain hsearch | ⟨name, hother⟩ := hkind
    · rw [hsearch] at hin
      cases hin
    · rw [hother] at hin
      cases hin
  exact (FilterDescriptor.treeVaries_ofDescriptor v w f).eq hnever

end PanelTarget

end DruidPanels
