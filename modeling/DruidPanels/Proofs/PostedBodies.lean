import DruidPanels.Proofs.RawTexts

/-! # Posted bodies

The operator may set post-aggregations that take the place of those of every query but SQL.
They are put into the body when it is posted, which touches one key and nothing else. What
stands in a body without them is what the query holds: no part is null, and a part that may
be left out is there exactly if there is something to say (`body_overridden`). -/

namespace DruidPanels

/-! ## Putting a value under a key -/

namespace Fields

/-- One object is another with `value` under `key`: in the place of the key if it is there,
last otherwise. All other entries are the same and in the same order. -/
inductive Puts (key : String) (value : Json) : Fields → Fields → Prop
  | replaced {before after : Fields} {old : Json} (hbefore : key ∉ before.keys)
      (hafter : key ∉ after.keys) :
      Puts key value (before ++ (key, old) :: after) (before ++ (key, value) :: after)
  | appended {fields : Fields} (h : key ∉ fields.keys) :
      Puts key value fields (fields ++ [(key, value)])

theorem Puts.cons {key : String} {value : Json} {fields result : Fields}
    (h : Puts key value fields result) {entry : String × Json} (hkey : entry.1 ≠ key) :
    Puts key value (entry :: fields) (entry :: result) := by
  have hcons {rest : Fields} (hrest : key ∉ rest.keys) : key ∉ keys (entry :: rest) :=
    List.not_mem_cons_of_ne_of_not_mem (Ne.symm hkey) hrest
  cases h with
  | @replaced before _ old hbefore hafter =>
    exact .replaced (hcons hbefore) hafter
  | appended hnew => exact .appended (hcons hnew)

theorem puts_insert {fields : Fields} (h : fields.keys.Nodup) (key : String) (value : Json) :
    Puts key value fields (insert key value fields) := by
  induction fields with
  | nil => exact .appended List.not_mem_nil
  | cons entry rest ih =>
    obtain ⟨k, old⟩ := entry
    obtain ⟨hnew, hrest⟩ := List.nodup_cons.mp h
    by_cases hkey : k = key
    · subst hkey
      rw [insert, if_pos rfl]
      have hnone : k ∉ keys [] := List.not_mem_nil
      exact .replaced hnone hnew
    · rw [insert, if_neg hkey]
      exact (ih hrest).cons hkey

theorem keys_append (first second : Fields) : keys (first ++ second) = first.keys ++ second.keys :=
  List.map_append

theorem keys_entry?_sublist (key : String) (value : Option Json) :
    (keys ( entry? key value)).Sublist [key] := by
  cases value with
  | none => exact List.nil_sublist _
  | some value => exact List.Sublist.refl _

/-- No entry is null. -/
def NoNull (fields : Fields) : Prop := ∀ entry ∈ fields, entry.2 ≠ .null

@[simp]
theorem noNull_nil : NoNull [] := List.forall_mem_nil _

@[simp]
theorem noNull_append {first second : Fields} :
    NoNull (first ++ second) ↔ first.NoNull ∧ second.NoNull :=
  List.forall_mem_append

@[simp]
theorem noNull_cons {entry : String × Json} {rest : Fields} :
    NoNull (entry :: rest) ↔ entry.2 ≠ .null ∧ rest.NoNull :=
  List.forall_mem_cons

theorem noNull_entry?_map {α : Type} {key : String} {value : Option α} {toJson : α → Json}
    (h : ∀ a, toJson a ≠ .null) : NoNull ( entry? key (value.map toJson)) := by
  cases value with
  | none => exact noNull_nil
  | some a => exact noNull_cons.mpr ⟨h a, noNull_nil⟩

end Fields

@[simp]
theorem Json.ofTexts_ne_null (texts : List String) : ofTexts texts ≠ .null := by
  simp [ofTexts]

@[simp]
theorem Json.ofNat_ne_null (n : Nat) : ofNat n ≠ .null := by
  simp [ofNat, ofInt]

@[simp]
theorem Granularity.toJson_ne_null (g : Granularity) : g.toJson ≠ .null := by
  cases g <;> simp [toJson]

@[simp]
theorem FilterTree.toJson_ne_null (tree : FilterTree) : tree.toJson ≠ .null := by
  cases tree <;> simp [toJson]

@[simp]
theorem RowLimit.toJson_ne_null (limit : RowLimit) : limit.toJson ≠ .null := by
  simp [toJson]

/-! ## Bodies of native queries -/

namespace QueryScope

theorem noNull_toFields (s : QueryScope) : s.toFields.NoNull := by
  have hfilter : Fields.NoNull ( Fields.entry? "filter" (s.filter.map FilterTree.toJson)) :=
    Fields.noNull_entry?_map FilterTree.toJson_ne_null
  simp [toFields, hfilter]

theorem keys_toFields_sublist (s : QueryScope) : s.toFields.keys.Sublist keys :=
  (Fields.keys_entry?_sublist "filter" _).append_left ["dataSource", "granularity", "intervals"]

end QueryScope

namespace Aggregates

def keys : List String := ["aggregations", "postAggregations"]

theorem keys_toFields_sublist (a : Aggregates) : a.toFields.keys.Sublist keys := by
  rw [toFields, Fields.keys_append]
  exact (Fields.keys_entry?_sublist "aggregations" _).append
    (Fields.keys_entry?_sublist "postAggregations" _)

theorem unlessEmpty?_eq_some_iff {items : List Json} {value : Json} :
    unlessEmpty? items = some value ↔ items ≠ [] ∧ value = .arr items := by
  unfold unlessEmpty?
  cases items with
  | nil => simp
  | cons item rest => simp [eq_comm]

theorem noNull_toFields (a : Aggregates) : a.toFields.NoNull := by
  have hlist (key : String) (items : List Json) :
      Fields.NoNull ( Fields.entry? key (unlessEmpty? items)) := by
    cases items with
    | nil => exact Fields.noNull_nil
    | cons item rest => simp [unlessEmpty?, Fields.entry?]
  exact Fields.noNull_append.mpr ⟨hlist _ _, hlist _ _⟩

end Aggregates

namespace NativeQuery

/-- The keys that can stand in a body after the type, in their order. -/
def restKeys : NativeQuery → List String
  | .timeseries .. => QueryScope.keys ++ Aggregates.keys
  | .topN .. => QueryScope.keys ++ Aggregates.keys ++ ["dimension"] ++ ["metric"] ++ ["threshold"]
  | .groupBy .. => QueryScope.keys ++ Aggregates.keys ++ ["dimensions"] ++ ["limitSpec"]
  | .select .. => QueryScope.keys ++ ["dimensions", "metrics", "pagingSpec"]

theorem keys_rest_sublist (q : NativeQuery) : q.rest.keys.Sublist q.restKeys := by
  cases q with
  | timeseries scope aggregates =>
    rw [rest, Fields.keys_append]
    exact scope.keys_toFields_sublist.append aggregates.keys_toFields_sublist
  | topN scope aggregates dimension metric threshold =>
    simp only [rest, Fields.keys_append]
    have hparts := scope.keys_toFields_sublist.append aggregates.keys_toFields_sublist
    have hmetric := Fields.keys_entry?_sublist "metric" (metric.map .str)
    have hthreshold := Fields.keys_entry?_sublist "threshold" (threshold.map .ofNat)
    exact ((hparts.append_right ["dimension"]).append hmetric).append hthreshold
  | groupBy scope aggregates dimensions limit =>
    simp only [rest, Fields.keys_append]
    have hparts := scope.keys_toFields_sublist.append aggregates.keys_toFields_sublist
    have hlimit := Fields.keys_entry?_sublist "limitSpec" (limit.map RowLimit.toJson)
    exact (hparts.append_right ["dimensions"]).append hlimit
  | select scope dimensions metrics pageSize =>
    rw [rest, Fields.keys_append]
    exact scope.keys_toFields_sublist.append_right ["dimensions", "metrics", "pagingSpec"]

-- Which keys are there varies with the query, but all are among those of its kind.
theorem nodup_keys_toFields (q : NativeQuery) : q.toFields.keys.Nodup := by
  have hkeys : q.toFields.keys.Sublist ("queryType" :: q.restKeys) :=
    q.keys_rest_sublist.cons_cons "queryType"
  refine hkeys.nodup ?_
  cases q with
  | timeseries | topN | groupBy | select => exact of_decide_eq_true rfl

/-! ## What stands in a body -/

/-- The metric that ranks a top list. -/
def metric? : NativeQuery → Option String
  | .topN _ _ _ metric _ => metric
  | _ => none

/-- The length of a top list. -/
def threshold? : NativeQuery → Option Nat
  | .topN _ _ _ _ threshold => threshold
  | _ => none

/-- The rows that are left of the groups. -/
def limit? : NativeQuery → Option RowLimit
  | .groupBy _ _ _ limit => limit
  | _ => none

/-- The keys of the parts that can be left out. -/
def optionalKeys : List String :=
  ["filter", "aggregations", "postAggregations", "metric", "threshold", "limitSpec"]

/-- A query has something to say under a key that can be left out: an option of its kind is
set, or a list of its kind has an entry. -/
inductive Holds (q : NativeQuery) : String → Json → Prop
  | filter {tree : FilterTree} (h : q.scope.filter = some tree) : Holds q "filter" tree.toJson
  | aggregations (h : q.aggregates.aggregations ≠ []) :
      Holds q "aggregations" (.arr q.aggregates.aggregations)
  | postAggregations (h : q.aggregates.postAggregations ≠ []) :
      Holds q "postAggregations" (.arr q.aggregates.postAggregations)
  | metric {name : String} (h : q.metric? = some name) : Holds q "metric" (.str name)
  | threshold {n : Nat} (h : q.threshold? = some n) : Holds q "threshold" (.ofNat n)
  | limitSpec {limit : RowLimit} (h : q.limit? = some limit) : Holds q "limitSpec" limit.toJson

section Entries

variable (q : NativeQuery)

theorem get?_filter :
    Fields.get? q.toFields "filter" = q.scope.filter.map FilterTree.toJson := by
  cases q <;> simp [toFields, rest, scope, QueryScope.toFields, Aggregates.toFields]

theorem get?_aggregations :
    Fields.get? q.toFields "aggregations" =
      Aggregates.unlessEmpty? q.aggregates.aggregations := by
  rw [q.get?_of_aggregates (.inl rfl), Aggregates.get?_toFields]
  simp

theorem get?_postAggregations :
    Fields.get? q.toFields "postAggregations" =
      Aggregates.unlessEmpty? q.aggregates.postAggregations := by
  rw [q.get?_of_aggregates (.inr rfl), Aggregates.get?_toFields]
  simp

theorem get?_metric? : Fields.get? q.toFields "metric" = q.metric?.map .str := by
  cases q <;> simp [toFields, rest, metric?, QueryScope.toFields, Aggregates.toFields]

theorem get?_threshold? : Fields.get? q.toFields "threshold" = q.threshold?.map .ofNat := by
  cases q <;> simp [toFields, rest, threshold?, QueryScope.toFields, Aggregates.toFields]

theorem get?_limit? : Fields.get? q.toFields "limitSpec" = q.limit?.map RowLimit.toJson := by
  cases q <;> simp [toFields, rest, limit?, QueryScope.toFields, Aggregates.toFields]

end Entries

variable {q : NativeQuery}

theorem get?_of_holds {key : String} {value : Json} (h : q.Holds key value) :
    Fields.get? q.toFields key = some value := by
  cases h with
  | filter htree => rw [get?_filter, htree, Option.map_some]
  | aggregations hne =>
    rw [get?_aggregations]
    exact Aggregates.unlessEmpty?_eq_some_iff.mpr ⟨hne, rfl⟩
  | postAggregations hne =>
    rw [get?_postAggregations]
    exact Aggregates.unlessEmpty?_eq_some_iff.mpr ⟨hne, rfl⟩
  | metric hname => rw [get?_metric?, hname, Option.map_some]
  | threshold hn => rw [get?_threshold?, hn, Option.map_some]
  | limitSpec hlimit => rw [get?_limit?, hlimit, Option.map_some]

/-- A part that can be left out is in the body exactly if the query has something to say. -/
theorem get?_eq_some_iff_holds {key : String} (hkey : key ∈ optionalKeys) {value : Json} :
    Fields.get? q.toFields key = some value ↔ q.Holds key value := by
  refine ⟨fun h => ?_, get?_of_holds⟩
  simp only [optionalKeys, List.mem_cons, List.not_mem_nil, or_false] at hkey
  obtain rfl | rfl | rfl | rfl | rfl | rfl := hkey
  · rw [get?_filter] at h
    obtain ⟨tree, htree, rfl⟩ := Option.map_eq_some_iff.mp h
    exact .filter htree
  · rw [get?_aggregations] at h
    obtain ⟨hne, rfl⟩ := Aggregates.unlessEmpty?_eq_some_iff.mp h
    exact .aggregations hne
  · rw [get?_postAggregations] at h
    obtain ⟨hne, rfl⟩ := Aggregates.unlessEmpty?_eq_some_iff.mp h
    exact .postAggregations hne
  · rw [get?_metric?] at h
    obtain ⟨name, hname, rfl⟩ := Option.map_eq_some_iff.mp h
    exact .metric hname
  · rw [get?_threshold?] at h
    obtain ⟨n, hn, rfl⟩ := Option.map_eq_some_iff.mp h
    exact .threshold hn
  · rw [get?_limit?] at h
    obtain ⟨limit, hlimit, rfl⟩ := Option.map_eq_some_iff.mp h
    exact .limitSpec hlimit

theorem noNull_rest (q : NativeQuery) : q.rest.NoNull := by
  cases q with
  | timeseries scope aggregates =>
    exact Fields.noNull_append.mpr ⟨scope.noNull_toFields, aggregates.noNull_toFields⟩
  | topN scope aggregates dimension metric threshold =>
    have hmetric : Fields.NoNull ( Fields.entry? "metric" (metric.map .str)) :=
      Fields.noNull_entry?_map (by simp)
    have hthreshold : Fields.NoNull ( Fields.entry? "threshold" (threshold.map .ofNat)) :=
      Fields.noNull_entry?_map Json.ofNat_ne_null
    simp [rest, scope.noNull_toFields, aggregates.noNull_toFields, hmetric, hthreshold]
  | groupBy scope aggregates dimensions limit =>
    have hlimit : Fields.NoNull ( Fields.entry? "limitSpec" (limit.map RowLimit.toJson)) :=
      Fields.noNull_entry?_map RowLimit.toJson_ne_null
    simp [rest, scope.noNull_toFields, aggregates.noNull_toFields, hlimit]
  | select scope dimensions metrics pageSize =>
    simp [rest, scope.noNull_toFields]

theorem noNull_toFields (q : NativeQuery) : q.toFields.NoNull := by
  simp [toFields, q.noNull_rest]

end NativeQuery

/-! ## Bodies with and without overrides -/

namespace QuerySpec

/-- The body of a query without overrides, and its body where the operator has set `list`.
SQL is left alone. In any other body the list goes under one key. A native body is what the
query holds. -/
inductive Overridden (list : List Json) : QuerySpec → Fields → Fields → Prop
  | sql {q : SqlQuery} {body : Fields} : Overridden list (.sql q) body body
  | raw {object body : Fields} (hput : Fields.Puts "postAggregations" (.arr list) object body) :
      Overridden list (.raw object) object body
  | native {q : NativeQuery} {plain body : Fields} (hnull : plain.NoNull)
      (hholds : ∀ key ∈ NativeQuery.optionalKeys, ∀ value,
        Fields.get? plain key = some value ↔ q.Holds key value)
      (hput : Fields.Puts "postAggregations" (.arr list) plain body) :
      Overridden list (.native q) plain body

theorem overridden_native (q : NativeQuery) (list : List Json) :
    Overridden list (.native q) ((native q).body .empty) ((native q).body ⟨some list⟩) := by
  have hput := Fields.puts_insert q.nodup_keys_toFields "postAggregations" (.arr list)
  exact .native q.noNull_toFields (fun _ hkey _ => q.get?_eq_some_iff_holds hkey) hput

theorem overridden_raw {object : Fields} (h : object.keys.Nodup) (list : List Json) :
    Overridden list (.raw object) ((raw object).body .empty) ((raw object).body ⟨some list⟩) :=
  .raw (Fields.puts_insert h "postAggregations" (.arr list))

end QuerySpec

namespace PanelTarget

/-- A raw query is the object that its text holds, with the intervals of the window. -/
theorem querySpec_eq_raw {t : PanelTarget} {window : Window} {vars : Variables} {object : Fields}
    (h : t.querySpec window vars = .raw object) :
    ∃ text ∈ t.rawQuery?, ∃ written : Fields, Json.parse? text = some (.obj written) ∧
      written.keys.Nodup ∧
        object = Fields.insert "intervals" (.ofTexts window.intervals) written := by
  have hasked := t.asked_querySpec window vars
  rw [h] at hasked
  cases hasked with
  | @raw written _ hquery =>
    obtain ⟨text, htext, hparsed⟩ := RawText.query?_eq_some_iff.mp hquery
    have hkeys := (Json.distinctKeys_obj_iff.mp (Json.distinctKeys_of_parse? hparsed)).1
    exact ⟨text, htext, written, hparsed, hkeys, rfl⟩

theorem overridden_querySpec (t : PanelTarget) (window : Window) (vars : Variables)
    (list : List Json) :
    (t.querySpec window vars).Overridden list ((t.querySpec window vars).body .empty)
      ((t.querySpec window vars).body ⟨some list⟩) := by
  cases hspec : t.querySpec window vars with
  | sql q => exact .sql
  | native q => exact QuerySpec.overridden_native q list
  | raw object =>
    obtain ⟨_, _, written, _, hkeys, rfl⟩ := querySpec_eq_raw hspec
    exact QuerySpec.overridden_raw (Fields.nodup_keys_insert hkeys _ _) list

end PanelTarget

/-- **Overrides change one key.** Whatever post-aggregations the operator has set, and
whatever the query, of a target or a lookup: SQL is posted as it is, and in any other body
the list stands under `postAggregations`, in the place of those of the query or at the end,
with nothing else changed. Without overrides a raw query is the object that the user wrote,
with the intervals of the window put in the same way; and a native body has no null in it,
and has a filter, aggregations, post-aggregations, a metric, a threshold or a limit exactly
if the query, being of a kind that has them, holds them. -/
theorem QuerySpec.body_overridden :
    (∀ (t : PanelTarget) (window : Window) (vars : Variables) (list : List Json),
      let spec := t.querySpec window vars
      spec.Overridden list (spec.body .empty) (spec.body ⟨some list⟩) ∧
        ∀ object, spec = .raw object →
          ∃ text ∈ t.rawQuery?, ∃ written, Json.parse? text = some (.obj written) ∧
            Fields.Puts "intervals" (.ofTexts window.intervals) written (spec.body .empty)) ∧
    ∀ (dataSource dimension : String) (filters : List FilterDescriptor) (search : String)
        (intervals : List String) (vars : Variables) (list : List Json),
      let spec := QuerySpec.filterValues dataSource dimension filters search intervals vars
      spec.Overridden list (spec.body .empty) (spec.body ⟨some list⟩) := by
  constructor
  · intro t window vars list spec
    refine ⟨t.overridden_querySpec window vars list, fun object hspec => ?_⟩
    obtain ⟨text, htext, written, hparsed, hkeys, hobject⟩ := PanelTarget.querySpec_eq_raw hspec
    refine ⟨text, htext, written, hparsed, ?_⟩
    have hbody : spec.body .empty = object := congrArg (QuerySpec.body .empty) hspec
    rw [hbody, hobject]
    exact Fields.puts_insert hkeys "intervals" (.ofTexts window.intervals)
  · intro dataSource dimension filters search intervals vars list spec
    exact QuerySpec.overridden_native _ list

end DruidPanels
