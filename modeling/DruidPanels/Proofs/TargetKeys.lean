import DruidPanels.Proofs.Layouts
import DruidPanels.Proofs.WrittenQuery

/-! # Keys of a target

The editor stores a target as an object with some thirty keys, writes null for what was
cleared, and leaves keys of its own in it. A target is read of its known keys alone, and of
those that are not null; the others can be taken away, and the rest can stand in any order
(`ofJson?_of_perm`). -/

namespace DruidPanels

theorem Draft.ofFields_eq_map (fields : Fields) :
    ofFields fields = fields.map fun (key, value) => (.text key, ofJson value) := by
  induction fields with
  | nil => rfl
  | cons entry rest ih => rw [ofFields, ih, List.map_cons]

namespace PanelTarget

/-- The keys that a target is read by. -/
def knownKeys : List String :=
  ["refId", "hide", "druidDS", "queryType", "filters", "aggregators", "postAggregators",
   "groupBy", "orderBy", "limit", "druidMetric", "dimension", "selectDimensions",
   "selectMetrics", "selectThreshold", "maxDataPoints", "shouldOverrideGranularity",
   "customGranularity", "sql", "currentLucaSQL", "currentSql", "currentRawQuery", "rawQuery",
   "rawFilter", "currentRawFilter", "rawAggregator", "currentRawAggregator",
   "rawPostAggregator", "currentRawPostAggregator", "currentFilter"]

theorem names_layout :
    (layout.fields.flatMap fun field => field.name :: field.aliases) = knownKeys :=
  rfl

theorem find?_answers_eq_none {key : String} (h : key ∉ knownKeys) :
    layout.fields.find? (·.answers key) = none := by
  refine List.find?_eq_none.mpr fun field hfield hanswers => h ?_
  rw [← names_layout, List.mem_flatMap]
  refine ⟨field, hfield, ?_⟩
  rw [Field.answers, Bool.or_eq_true, beq_iff_eq, List.contains_iff_mem] at hanswers
  exact hanswers.elim (fun hname => hname ▸ List.mem_cons_self) (List.mem_cons_of_mem _)

theorem takesNull_text (name : String) (aliases : List String) : (text name aliases).TakesNull :=
  Layout.takesNull_optional name .text aliases

theorem takesNull_list {α : Type} (name : String) (decode : Decoder α) :
    (list name decode).TakesNull :=
  Layout.takesNull_defaulted name (.list decode) []

/-- Every field of a target takes null for nothing, whatever its type. -/
theorem takesNull_layout : layout.TakesNull := by
  unfold layout
  repeat' apply Layout.TakesNull.seq
  all_goals first
    | exact (takesNull_text _ _).map _
    | exact takesNull_text _ _
    | exact takesNull_list _ _
    | exact Layout.takesNull_defaulted _ _ _
    | exact Layout.takesNull_optional _ _ _

theorem ofJson?_eq_some_iff {fields : Fields} {t : PanelTarget} :
    ofJson? (.obj fields) = some t ↔
      decoder (.object (Draft.ofFields fields) true false) = .ok t := by
  unfold ofJson? Decoder.ofJson?
  rw [Draft.ofJson]
  cases decoder (.object (Draft.ofFields fields) true false) <;> simp [Except.toOption]

/-- **A target hangs on its known keys that are not null.** Take away from an object that is
read as a target any of its entries that are null or under an unknown key, and put the others
in any order: the object is still read, and as the same target. -/
theorem ofJson?_of_perm {fields kept dropped : Fields} {t : PanelTarget}
    (h : ofJson? (.obj fields) = some t) (hperm : fields.Perm (kept ++ dropped))
    (hidle : ∀ entry ∈ dropped, entry.2 = .null ∨ entry.1 ∉ knownKeys) :
    ofJson? (.obj kept) = some t := by
  have hentries : (Draft.ofFields fields).Perm
      (Draft.ofFields kept ++ Draft.ofFields dropped) := by
    simp only [Draft.ofFields_eq_map, ← List.map_append]
    exact hperm.map _
  refine ofJson?_eq_some_iff.mpr ?_
  refine takesNull_layout.decoder_of_perm (ofJson?_eq_some_iff.mp h) hentries ?_
  intro entry hentry
  rw [Draft.ofFields_eq_map] at hentry
  obtain ⟨⟨key, value⟩, hin, rfl⟩ := List.mem_map.mp hentry
  obtain hnull | hunknown := hidle _ hin
  · cases hnull
    exact .inl rfl
  · refine .inr fun _ hkey => ?_
    cases hkey
    exact find?_answers_eq_none hunknown

/-- A target as an editor might store it, with a cleared field and a key of its own. -/
def cleared : Fields :=
  [("hide", .null), ("collapsed", .bool true), ("currentSql", .str "SELECT 1"),
   ("druidDS", .str "wiki")]

theorem ofJson?_cleared :
    let sql : PanelTarget := { ofDataSource "wiki" with sql := some "SELECT 1" }
    let kept : Fields := [("druidDS", .str "wiki"), ("currentSql", .str "SELECT 1")]
    let dropped : Fields := [("collapsed", .bool true), ("hide", .null)]
    ofJson? (.obj cleared) = some sql ∧ cleared.Perm (kept ++ dropped) ∧
      (∀ entry ∈ dropped, entry.2 = .null ∨ entry.1 ∉ knownKeys) ∧
      ofJson? (.obj kept) = some sql := by
  intro sql kept dropped
  have hread : ofJson? (.obj cleared) = some sql := rfl
  have hperm : cleared.Perm (kept ++ dropped) := (List.reverse_perm cleared).symm
  have hidle : ∀ entry ∈ dropped, entry.2 = .null ∨ entry.1 ∉ knownKeys :=
    List.forall_mem_cons.mpr ⟨.inr (by decide), List.forall_mem_singleton.mpr (.inl rfl)⟩
  exact ⟨hread, hperm, hidle, ofJson?_of_perm hread hperm hidle⟩

end PanelTarget

end DruidPanels
