import DruidPanels.Json.Decode
import DruidPanels.Proofs.DistinctKeys
import DruidPanels.Proofs.Itemwise
import Mathlib.Data.List.Perm.Basic

/-! # Objects read by a layout

A layout picks the values of its fields out of the entries of an object, in whatever order
they come, and passes over the entries that no field answers to. Where every field takes
null for nothing, what is built hangs on the values alone that are not null
(`Layout.TakesNull.decoder_of_perm`). -/

namespace DruidPanels

namespace Found

/-! ## The entries of an object -/

/-- The value that an entry gives to a field, if one answers to its key. -/
def given? (fields : List Field) : DraftKey × Draft → Option (String × Draft)
  | (.text key, value) => (fields.find? (·.answers key)).map fun field => (field.name, value)
  | _ => none

/-- All values that entries give to fields. -/
def given (fields : List Field) (entries : List (DraftKey × Draft)) : Found :=
  entries.filterMap (given? fields)

/-- An entry that can stand in an object: its value passes the test of the field that answers
to its key, or can be passed over if there is none. -/
inductive Admits (fields : List Field) : DraftKey × Draft → Prop
  | known {key : String} {value : Draft} {field : Field}
      (hfield : fields.find? (·.answers key) = some field) (hcheck : field.check value = .ok ()) :
      Admits fields (.text key, value)
  | unknown {key : String} {value : Draft} (hnone : fields.find? (·.answers key) = none)
      (hskip : value.skippable = true) : Admits fields (.text key, value)

section OfEntries

variable {fields : List Field} {key : String} {value : Draft} {rest : List (DraftKey × Draft)}
  {found result : Found}

theorem given_unknown (hnone : fields.find? (·.answers key) = none) :
    given fields ((.text key, value) :: rest) = given fields rest :=
  List.filterMap_cons_none (by rw [given?, hnone, Option.map_none])

theorem given_known {field : Field} (hfield : fields.find? (·.answers key) = some field) :
    given fields ((.text key, value) :: rest) = (field.name, value) :: given fields rest :=
  List.filterMap_cons_some (by rw [given?, hfield, Option.map_some])

theorem ofEntries_unknown_iff (hnone : fields.find? (·.answers key) = none) :
    ofEntries fields found ((.text key, value) :: rest) = .ok result ↔
      value.skippable = true ∧ ofEntries fields found rest = .ok result := by
  rw [ofEntries, hnone]
  cases value.skippable <;> simp

theorem ofEntries_known_iff {field : Field}
    (hfield : fields.find? (·.answers key) = some field) :
    ofEntries fields found ((.text key, value) :: rest) = .ok result ↔
      found.lookup field.name = none ∧ field.check value = .ok () ∧
        ofEntries fields ((field.name, value) :: found) rest = .ok result := by
  simp only [ofEntries, hfield]
  cases hlookup : found.lookup field.name with
  | some d => exact iff_of_false nofun nofun
  | none =>
    rw [Option.isSome_none, if_neg Bool.false_ne_true, Itemwise.bind_eq_ok_iff]
    constructor
    · intro h
      obtain ⟨_, hcheck, h⟩ := h
      exact ⟨rfl, hcheck, h⟩
    · intro h
      obtain ⟨_, hcheck, h⟩ := h
      exact ⟨(), hcheck, h⟩

theorem admits_unknown_iff (hnone : fields.find? (·.answers key) = none) :
    Admits fields (.text key, value) ↔ value.skippable = true := by
  refine ⟨fun h => ?_, .unknown hnone⟩
  cases h with
  | unknown _ hskip => exact hskip
  | known hfield => cases hnone.symm.trans hfield

theorem admits_known_iff {field : Field}
    (hfield : fields.find? (·.answers key) = some field) :
    Admits fields (.text key, value) ↔ field.check value = .ok () := by
  refine ⟨fun h => ?_, .known hfield⟩
  cases h with
  | unknown hnone => cases hnone.symm.trans hfield
  | known hsame hcheck =>
    cases hfield.symm.trans hsame
    exact hcheck

/-- A field that is already found is given by none of the entries that follow. -/
theorem lookup_eq_none_cons_iff {name : String} {d : Draft} {values : Found} :
    (∀ v ∈ values, List.lookup v.1 ((name, d) :: found) = none) ↔
      name ∉ values.map (·.1) ∧ ∀ v ∈ values, found.lookup v.1 = none := by
  simp only [List.lookup_eq_none_iff, List.forall_mem_cons, List.mem_map, not_exists, not_and,
    bne_iff_ne, forall_and, ne_eq]

/-- Entries are collected if each can stand there and no field is given twice. -/
theorem ofEntries_eq_ok_iff {entries : List (DraftKey × Draft)} :
    ofEntries fields found entries = .ok result ↔
      (∀ entry ∈ entries, Admits fields entry) ∧
      (∀ v ∈ given fields entries, found.lookup v.1 = none) ∧
      ((given fields entries).map (·.1)).Nodup ∧
      result = (given fields entries).reverse ++ found := by
  -- The values found so far vary: an entry that is known adds one of them.
  induction entries generalizing found with
  | nil =>
    constructor
    · intro h
      cases h
      exact ⟨nofun, nofun, List.nodup_nil, rfl⟩
    · intro h
      rw [h.2.2.2]
      rfl
  | cons entry rest ih =>
    obtain ⟨key, value⟩ := entry
    cases key with
    | unpaired | foreign =>
      refine iff_of_false nofun fun h => ?_
      cases h.1 _ List.mem_cons_self
    | text key =>
      rw [List.forall_mem_cons]
      cases hfind : fields.find? (·.answers key) with
      | none =>
        rw [ofEntries_unknown_iff hfind, ih, given_unknown hfind, admits_unknown_iff hfind,
          and_assoc]
      | some field =>
        rw [ofEntries_known_iff hfind, ih, given_known hfind, admits_known_iff hfind,
          lookup_eq_none_cons_iff, List.forall_mem_cons, List.map_cons, List.nodup_cons,
          List.reverse_cons, List.append_assoc]
        tauto

end OfEntries

/-! ## Entries taken away -/

/-- The same values, where null is no value. -/
def Alike (a b : Found) : Prop :=
  ∀ name, (a.lookup name).getD .null = (b.lookup name).getD .null

/-- An entry that gives no field a value: it is null, or no field answers to its key. -/
def Idle (fields : List Field) (entry : DraftKey × Draft) : Prop :=
  entry.2 = .null ∨ ∀ key, entry.1 = .text key → fields.find? (·.answers key) = none

variable {fields : List Field} {entries kept dropped : List (DraftKey × Draft)}

theorem given_perm (h : entries.Perm (kept ++ dropped)) :
    (given fields entries).Perm (given fields kept ++ given fields dropped) := by
  unfold given
  rw [← List.filterMap_append]
  exact h.filterMap _

theorem nodup_given_of_perm (hperm : entries.Perm (kept ++ dropped))
    (h : ((given fields entries).map (·.1)).Nodup) : ((given fields kept).map (·.1)).Nodup := by
  have hall := ((given_perm hperm).map (·.1)).nodup_iff.mp h
  rw [List.map_append] at hall
  exact (List.nodup_append.mp hall).1

theorem eq_null_of_mem_given (hidle : ∀ entry ∈ dropped, Idle fields entry) {name : String}
    {d : Draft} (h : (name, d) ∈ given fields dropped) : d = .null := by
  obtain ⟨⟨key, value⟩, hentry, hgiven⟩ := List.mem_filterMap.mp h
  cases key with
  | unpaired | foreign => cases hgiven
  | text key =>
    obtain ⟨field, hfield, hsame⟩ := Option.map_eq_some_iff.mp hgiven
    cases hsame
    refine (hidle _ hentry).resolve_right fun hnone => ?_
    cases (hnone key rfl).symm.trans hfield

/-- Entries that give nothing leave no trace, and the order of the others does not matter. -/
theorem alike_given (hperm : entries.Perm (kept ++ dropped))
    (hidle : ∀ entry ∈ dropped, Idle fields entry)
    (hnodup : ((given fields entries).map (·.1)).Nodup) :
    Alike (given fields entries).reverse (given fields kept).reverse := by
  have hgiven : (given fields entries).Perm (given fields kept ++ given fields dropped) :=
    given_perm hperm
  have hkept := nodup_given_of_perm hperm hnodup
  have hlookup {found : Found} (h : (found.map (·.1)).Nodup) {name : String} {d : Draft} :
      found.reverse.lookup name = some d ↔ (name, d) ∈ found := by
    rw [Pairs.lookup_eq_some_iff (by rw [List.map_reverse]; exact List.nodup_reverse.mpr h),
      List.mem_reverse]
  intro name
  cases hfew : (given fields kept).reverse.lookup name with
  | some d =>
    have hmem := hgiven.mem_iff.mpr (List.mem_append_left _ ((hlookup hkept).mp hfew))
    rw [(hlookup hnodup).mpr hmem]
  | none =>
    cases hmany : (given fields entries).reverse.lookup name with
    | none => rfl
    | some d =>
      have hmem := hgiven.mem_iff.mp ((hlookup hnodup).mp hmany)
      obtain hin | hin := List.mem_append.mp hmem
      · cases hfew.symm.trans ((hlookup hkept).mpr hin)
      · rw [eq_null_of_mem_given hidle hin]
        rfl

theorem ofEntries_of_perm {found : Found} (h : ofEntries fields [] entries = .ok found)
    (hperm : entries.Perm (kept ++ dropped)) (hidle : ∀ entry ∈ dropped, Idle fields entry) :
    ∃ found', ofEntries fields [] kept = .ok found' ∧ found.Alike found' := by
  obtain ⟨hadmits, _, hnodup, hfound⟩ := ofEntries_eq_ok_iff.mp h
  have hkept := nodup_given_of_perm hperm hnodup
  refine ⟨(given fields kept).reverse ++ [], ofEntries_eq_ok_iff.mpr ⟨?_, ?_, hkept, rfl⟩, ?_⟩
  · exact fun entry hentry => hadmits entry (hperm.mem_iff.mpr (List.mem_append_left _ hentry))
  · exact fun _ _ => rfl
  · rw [hfound, List.append_nil, List.append_nil]
    exact alike_given hperm hidle hnodup

end Found

/-! ## Layouts that take null for nothing -/

namespace Layout

/-- No field has to be there, and what is built is the same whether a field is absent or
null. -/
structure TakesNull {α : Type} (l : Layout α) : Prop where
  optional : ∀ field ∈ l.fields, field.required = false
  build_eq : ∀ {a b : Found}, a.Alike b → l.build a = l.build b

variable {α β : Type}

theorem takesNull_field {decode : Decoder α} {fallback : α} (h : decode .null = .ok fallback)
    (name : String) (aliases : List String) :
    (field name decode (some fallback) aliases).TakesNull where
  optional := fun _ hfield => by
    rw [List.mem_singleton.mp hfield]
    rfl
  build_eq := fun {a b} halike => by
    have hbuild (found : Found) : (field name decode (some fallback) aliases).build found =
        decode ((found.lookup name).getD .null) := by
      dsimp only [field]
      cases found.lookup name with
      | some d => rfl
      | none => exact h.symm
    rw [hbuild, hbuild, halike name]

theorem takesNull_optional (name : String) (decode : Decoder α) (aliases : List String) :
    (optional name decode aliases).TakesNull := by
  have hnull : Decoder.nullable decode .null = .ok none := rfl
  exact takesNull_field hnull name aliases

theorem takesNull_defaulted (name : String) (decode : Decoder α) (fallback : α) :
    (defaulted name decode fallback).TakesNull := by
  have hnull : Decoder.nullAs fallback decode .null = .ok fallback := rfl
  exact takesNull_field hnull name []

theorem TakesNull.map {l : Layout α} (h : l.TakesNull) (f : α → β) : (f <$> l).TakesNull where
  optional := h.optional
  build_eq := fun halike => congrArg (Except.map f) (h.build_eq halike)

theorem TakesNull.seq {f : Layout (α → β)} {x : Layout α} (hf : f.TakesNull)
    (hx : x.TakesNull) : (f <*> x).TakesNull where
  optional := List.forall_mem_append.mpr ⟨hf.optional, hx.optional⟩
  build_eq := fun {a b} halike => by
    have hbuild (found : Found) : (f <*> x).build found =
        (f.build found >>= fun g => (x.build found).map g) := rfl
    rw [hbuild, hbuild, hf.build_eq halike, hx.build_eq halike]

theorem TakesNull.complete {l : Layout α} (h : l.TakesNull) (found : Found) :
    Found.complete l.fields found = .ok found := by
  refine if_pos (List.all_eq_true.mpr fun field hfield => ?_)
  rw [h.optional field hfield]
  rfl

/-- What is read of an object is read of its entries in any other order, and without those
that are null or that no field answers to. -/
theorem TakesNull.decoder_of_perm {l : Layout α} (hl : l.TakesNull)
    {entries kept dropped : List (DraftKey × Draft)} {closed deep : Bool} {a : α}
    (h : l.decoder (.object entries closed deep) = .ok a)
    (hperm : entries.Perm (kept ++ dropped))
    (hidle : ∀ entry ∈ dropped, Found.Idle l.fields entry) :
    l.decoder (.object kept closed deep) = .ok a := by
  obtain ⟨found, hfound, hbuild⟩ := Itemwise.bind_eq_ok_iff.mp h
  cases deep with
  | true => cases hfound
  | false =>
    obtain ⟨read, hread, hcomplete⟩ := Itemwise.bind_eq_ok_iff.mp hfound
    cases closed with
    | false => cases hcomplete
    | true =>
      cases (hl.complete read).symm.trans hcomplete
      obtain ⟨found', hfound', halike⟩ := Found.ofEntries_of_perm hread hperm hidle
      refine Itemwise.bind_eq_ok_iff.mpr ⟨found', ?_, (hl.build_eq halike).symm.trans hbuild⟩
      exact Itemwise.bind_eq_ok_iff.mpr ⟨found', hfound', hl.complete found'⟩

end Layout

end DruidPanels
