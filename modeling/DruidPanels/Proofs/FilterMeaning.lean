import DruidPanels.Proofs.FilterEntries

/-! # What filters mean

A filter tree has a meaning over any meaning of its leaves: `not` is negation, `and` is
conjunction, and no tree at all lets every row pass. Compiled filters mean what their
descriptors say (`passes_compile_iff`): a row passes if the leaf of each descriptor holds
of it, or does not hold where the descriptor is negated. -/

namespace DruidPanels

namespace FilterTree

variable {Row : Type} (meaning : Fields → Row → Prop) (row : Row)

mutual

/-- The tree holds of a row, if `meaning` says of which rows a leaf holds. -/
def Holds : FilterTree → Prop
  | .leaf fields => meaning fields row
  | .not inner => ¬ Holds inner
  | .and parts => AllHold parts

def AllHold : List FilterTree → Prop
  | [] => True
  | part :: rest => Holds part ∧ AllHold rest

end

/-- A row passes a filter that holds of it, and passes where there is no filter. -/
def Passes : Option FilterTree → Prop
  | none => True
  | some tree => Holds meaning row tree

theorem allHold_iff (trees : List FilterTree) :
    AllHold meaning row trees ↔ ∀ tree ∈ trees, Holds meaning row tree := by
  induction trees with
  | nil => simp [AllHold]
  | cons tree rest ih => simp [AllHold, ih]

theorem passes_conjunction (trees : List FilterTree) :
    Passes meaning row (conjunction trees) ↔ ∀ tree ∈ trees, Holds meaning row tree := by
  match trees with
  | [] => simp [conjunction, Passes]
  | [tree] => simp [conjunction, Passes]
  | first :: second :: rest =>
    change AllHold meaning row (first :: second :: rest) ↔ _
    exact allHold_iff meaning row _

end FilterTree

namespace FilterDescriptor

/-! ## What an object says -/

def typeOf (object : Fields) : String := ((Fields.get? object "type").bind Json.text?).getD ""

def negated (object : Fields) : Bool :=
  ((Fields.get? object "negate").bind negation?).getD false

/-- Where variables are expanded: in the value of a selector, the pattern of a regular
expression and the function of a script. -/
def expandsAt (type key : String) : Bool :=
  (type = "selector" && key = "value") || (type = "regex" && key = "pattern") ||
    (type = "javascript" && key = "function")

def writtenEntry (vars : Variables) (type : String) : String × Json → String × Json
  | (key, .str s) => (key, .str (if expandsAt type key then vars.expand s else s))
  | entry => entry

/-- The leaf that an object says: its type, and then all that is neither type nor negation,
in its order. -/
def writtenLeaf (vars : Variables) (object : Fields) : Fields :=
  ("type", .str (typeOf object)) ::
    (object.filter fun entry => isField entry.1).map (writtenEntry vars (typeOf object))

/-- The tree that an object says: its leaf, under a `not` if it is negated. -/
def writtenTree (vars : Variables) (object : Fields) : FilterTree :=
  if negated object then .not (.leaf (writtenLeaf vars object)) else .leaf (writtenLeaf vars object)

theorem holds_writtenTree {Row : Type} (meaning : Fields → Row → Prop) (row : Row)
    (vars : Variables) (object : Fields) :
    (writtenTree vars object).Holds meaning row ↔
      (meaning (writtenLeaf vars object) row ↔ negated object = false) := by
  unfold writtenTree
  cases negated object <;> simp [FilterTree.Holds]

theorem expandedField?_ofName (type key : String) :
    (FilterKind.ofName type).expandedField? = some key ↔ expandsAt type key = true := by
  unfold FilterKind.ofName expandsAt
  split_ifs with hselector hregex hscript hsearch
  · simp [hselector, FilterKind.expandedField?, eq_comm]
  · simp [hregex, FilterKind.expandedField?, eq_comm]
  · simp [hscript, FilterKind.expandedField?, eq_comm]
  · simp [hsearch, FilterKind.expandedField?]
  · simp [hselector, hregex, hscript, FilterKind.expandedField?]

namespace ReadFrom

variable {f : FilterDescriptor} {object : Fields}

theorem get?_type (h : f.ReadFrom object) :
    Fields.get? object "type" = some (.str (typeOf object)) := by
  obtain ⟨type, htype, _⟩ := h.kind
  rw [typeOf, htype]
  rfl

theorem kind_eq (h : f.ReadFrom object) : f.kind = .ofName (typeOf object) := by
  obtain ⟨type, htype, hkind⟩ := h.kind
  rw [hkind, typeOf, htype]
  rfl

theorem leaf_eq (h : f.ReadFrom object) (vars : Variables) :
    f.leaf vars = writtenLeaf vars object := by
  rw [leaf, writtenLeaf, h.kind_eq, FilterKind.name_ofName, h.fields]
  refine congrArg _ (List.map_congr_left fun entry _ => ?_)
  obtain ⟨key, value⟩ := entry
  cases value with
  | str s =>
    simp only [expandField, writtenEntry, expandedField?_ofName, ← apply_ite Json.str]
  | null | bool | num | arr | obj => rfl

theorem ofDescriptor_eq (h : f.ReadFrom object) (vars : Variables) :
    FilterTree.ofDescriptor vars f = writtenTree vars object := by
  rw [FilterTree.ofDescriptor, writtenTree, h.leaf_eq, h.negate]
  rfl

end ReadFrom

/-- Descriptors that are read are those of objects, one by one. -/
theorem exists_objects {drafts : List Draft} {filters : List FilterDescriptor}
    (h : List.Forall₂ (fun d f => decoder d = .ok f) drafts filters) :
    ∃ objects : List Fields,
      drafts.map Draft.toJson? = objects.map (fun object => some (.obj object)) ∧
        List.Forall₂ ReadFrom filters objects ∧
        ∀ object ∈ objects, Fields.get? object "type" = some (.str (typeOf object)) := by
  induction h with
  | nil => exact ⟨[], rfl, .nil, by simp⟩
  | cons hread _ ih =>
    obtain ⟨objects, hjson, hobjects, htypes⟩ := ih
    obtain ⟨object, hobject, hfrom⟩ := readFrom_of_decoder hread
    exact ⟨object :: objects, congrArg₂ _ hobject hjson, .cons hfrom hobjects,
      List.forall_mem_cons.mpr ⟨hfrom.get?_type, htypes⟩⟩

end FilterDescriptor

namespace FilterTree

open FilterDescriptor

/-- **Compiled filters mean what is written.** Let descriptors be read from drafts. What is
written are objects, with the flags of the descriptors. The compiled filter is nothing for
no objects, the tree of the one object, or the trees of all of them in order under one
`and`. And whatever leaves mean, a row passes it exactly if for every object its leaf holds
of the row if and only if it is not negated: the leaf is the type and all other entries
but the negation in their order, with variables expanded where the type has them. -/
theorem passes_compile_iff {drafts : List Draft} {filters : List FilterDescriptor}
    (hread : List.Forall₂ (fun d f => FilterDescriptor.decoder d = .ok f) drafts filters)
    (vars : Variables) :
    ∃ objects : List Fields,
      drafts.map Draft.toJson? = objects.map (fun object => some (.obj object)) ∧
      (∀ object ∈ objects, Fields.get? object "type" = some (.str (typeOf object))) ∧
      filters.map (·.negate) = objects.map negated ∧
      compile filters vars =
        (match objects with
        | [] => none
        | [object] => some (writtenTree vars object)
        | objects => some (.and (objects.map (writtenTree vars)))) ∧
      ∀ {Row : Type} (meaning : Fields → Row → Prop) (row : Row),
        Passes meaning row (compile filters vars) ↔
          ∀ object ∈ objects, (meaning (writtenLeaf vars object) row ↔ negated object = false) := by
  obtain ⟨objects, hjson, hobjects, htypes⟩ := exists_objects hread
  have hflags : filters.map (·.negate) = objects.map negated :=
    Itemwise.map_eq_map (hobjects.imp fun _ _ h => h.negate)
  have htrees : filters.map (ofDescriptor vars) = objects.map (writtenTree vars) :=
    Itemwise.map_eq_map (hobjects.imp fun _ _ h => h.ofDescriptor_eq vars)
  refine ⟨objects, hjson, htypes, hflags, ?_, fun meaning row => ?_⟩
  · rw [compile, htrees]
    match objects with
    | [] => rfl
    | [object] => rfl
    | first :: second :: rest => rfl
  · rw [compile, htrees, passes_conjunction, List.forall_mem_map]
    simp only [holds_writtenTree]

/-- All sites but one, and those of a list. -/
def siteDrafts : List Draft :=
  [.object [(.text "dimension", .text (some "site")), (.text "negate", .text (some " true ")),
      (.text "value", .text (some "$site")), (.text "type", .text (some "selector"))] true false,
    .object [(.text "type", .text (some "in")),
      (.text "values", .array [.text (some "$site")] true false)] true false]

def siteFilters : List FilterDescriptor :=
  [⟨.selector, true, [("dimension", .str "site"), ("value", .str "$site")]⟩,
    ⟨.other "in", false, [("values", .arr [.str "$site"])]⟩]

def siteVars : Variables := ⟨[("site", "en")]⟩

theorem passes_siteFilters :
    List.Forall₂ (fun d f => FilterDescriptor.decoder d = .ok f) siteDrafts siteFilters ∧
      ∀ {Row : Type} (meaning : Fields → Row → Prop) (row : Row),
        Passes meaning row (compile siteFilters siteVars) ↔
          ¬ meaning [("type", .str "selector"), ("dimension", .str "site"), ("value", .str "en")]
              row ∧
            meaning [("type", .str "in"), ("values", .arr [.str "$site"])] row := by
  have hread : List.Forall₂ (fun d f => FilterDescriptor.decoder d = .ok f) siteDrafts
      siteFilters := .cons rfl (.cons rfl .nil)
  refine ⟨hread, fun meaning row => ?_⟩
  obtain ⟨objects, hjson, -, -, -, hpasses⟩ := passes_compile_iff hread siteVars
  obtain rfl : objects =
      [[("dimension", .str "site"), ("negate", .str " true "), ("value", .str "$site"),
          ("type", .str "selector")],
        [("type", .str "in"), ("values", .arr [.str "$site"])]] :=
    List.map_injective_iff.mpr (fun _ _ h => Json.obj.inj (Option.some.inj h)) hjson.symm
  rw [hpasses meaning row, List.forall_mem_cons, List.forall_mem_singleton]
  refine and_congr ?_ ?_
  · have hexpand : siteVars.expand "$site" = "en" := by decide +kernel
    rw [← hexpand]
    exact iff_false_right (nofun : true ≠ false)
  · exact iff_true_right rfl

end FilterTree

end DruidPanels
