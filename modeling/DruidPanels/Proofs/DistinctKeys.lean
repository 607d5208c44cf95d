import DruidPanels.Json.Draft
import DruidPanels.Proofs.Fields
import Mathlib.Data.List.Induction
import Mathlib.Data.List.Nodup

/-! # Objects without repeated keys

A list of entries may hold a key twice. The objects that are read from a text never do, at
any depth, since a repeated key takes the place of its first entry
(`distinctKeys_of_parse?`). Where no key is repeated, what is looked up under a key is its
only entry, or there is none (`Pairs.lookup_eq_some_iff`). -/

namespace DruidPanels

namespace Pairs

variable {κ α : Type} [DecidableEq κ] {pairs : List (κ × α)}

/-- Where no key is repeated, the entries of a key are the one that is looked up. -/
theorem filter_eq_toList_lookup (h : (pairs.map (·.1)).Nodup) (key : κ) :
    (pairs.filter fun entry => entry.1 = key).map (·.2) = (pairs.lookup key).toList := by
  induction pairs with
  | nil => rfl
  | cons entry rest ih =>
    obtain ⟨k, v⟩ := entry
    obtain ⟨hk, hrest⟩ := List.nodup_cons.mp h
    by_cases hkey : k = key
    · subst hkey
      have hnone : rest.filter (fun entry => entry.1 = k) = [] := by
        refine List.filter_eq_nil_iff.mpr fun entry hentry hsame => hk ?_
        exact List.mem_map.mpr ⟨entry, hentry, of_decide_eq_true hsame⟩
      simp [hnone]
    · have hother : (key == k) = false := beq_eq_false_iff_ne.mpr (Ne.symm hkey)
      simp [hkey, hother, List.lookup_cons, ih hrest]

theorem lookup_eq_some_iff (h : (pairs.map (·.1)).Nodup) {key : κ} {value : α} :
    pairs.lookup key = some value ↔ (key, value) ∈ pairs := by
  rw [← Option.mem_toList, ← filter_eq_toList_lookup h, List.mem_map]
  constructor
  · intro hmem
    obtain ⟨entry, hentry, hvalue⟩ := hmem
    obtain ⟨hin, hkey⟩ := List.mem_filter.mp hentry
    rw [← hvalue, ← of_decide_eq_true hkey]
    exact hin
  · intro hmem
    exact ⟨_, List.mem_filter.mpr ⟨hmem, decide_eq_true rfl⟩, rfl⟩

theorem length_filter_le_one (h : (pairs.map (·.1)).Nodup) (key : κ) :
    (pairs.filter fun entry => entry.1 = key).length ≤ 1 := by
  rw [← List.length_map (·.2), filter_eq_toList_lookup h]
  exact Option.length_toList_le

end Pairs

namespace Fields

/-- The keys of the entries, in their order. -/
def keys (fields : Fields) : List String := fields.map (·.1)

/-- A key that is there keeps its place, and any other comes last. -/
theorem keys_insert (key : String) (value : Json) (fields : Fields) :
    (insert key value fields).keys =
      if key ∈ fields.keys then fields.keys else fields.keys ++ [key] := by
  unfold keys
  induction fields with
  | nil => rfl
  | cons entry rest ih =>
    obtain ⟨k, v⟩ := entry
    by_cases h : k = key
    · simp [insert, h]
    · rw [insert, if_neg h, List.map_cons, ih, List.map_cons]
      simp only [List.mem_cons, Ne.symm h, false_or]
      split <;> rfl

theorem nodup_keys_insert {fields : Fields} (h : fields.keys.Nodup) (key : String)
    (value : Json) : (insert key value fields).keys.Nodup := by
  rw [keys_insert]
  split
  · exact h
  · next hnew => exact List.Nodup.append h (List.nodup_singleton key) (by simpa using hnew)

theorem mem_insert {key : String} {value : Json} {fields : Fields} {entry : String × Json}
    (h : entry ∈ insert key value fields) : entry = (key, value) ∨ entry ∈ fields := by
  induction fields with
  | nil => exact .inl (List.mem_singleton.mp h)
  | cons first rest ih =>
    obtain ⟨k, v⟩ := first
    rw [insert] at h
    split at h
    · rcases List.mem_cons.mp h with hentry | hentry
      · exact .inl hentry
      · exact .inr (List.mem_cons_of_mem _ hentry)
    · rcases List.mem_cons.mp h with hentry | hentry
      · exact .inr (hentry ▸ List.mem_cons_self)
      · exact (ih hentry).imp id (List.mem_cons_of_mem _)

theorem filter_eq_toList_get? {fields : Fields} (h : fields.keys.Nodup) (key : String) :
    (fields.filter fun entry => entry.1 = key).map (·.2) = (get? fields key).toList :=
  Pairs.filter_eq_toList_lookup h key

end Fields

namespace Json

mutual

/-- No object holds a key twice, at any depth. -/
def distinctKeys : Json → Bool
  | .arr items => itemsDistinct items
  | .obj fields => decide (Fields.keys fields).Nodup && fieldsDistinct fields
  | _ => true

def itemsDistinct : List Json → Bool
  | [] => true
  | item :: rest => distinctKeys item && itemsDistinct rest

def fieldsDistinct : List (String × Json) → Bool
  | [] => true
  | (_, value) :: rest => distinctKeys value && fieldsDistinct rest

end

theorem itemsDistinct_iff {items : List Json} :
    itemsDistinct items = true ↔ ∀ item ∈ items, item.distinctKeys = true := by
  induction items with
  | nil => simp [itemsDistinct]
  | cons item rest ih => simp [itemsDistinct, ih]

theorem fieldsDistinct_iff {fields : Fields} :
    fieldsDistinct fields = true ↔ ∀ entry ∈ fields, entry.2.distinctKeys = true := by
  induction fields with
  | nil => simp [fieldsDistinct]
  | cons entry rest ih => simp only [fieldsDistinct, Bool.and_eq_true, ih, List.forall_mem_cons]

theorem distinctKeys_obj_iff {fields : Fields} :
    (Json.obj fields).distinctKeys = true ↔
      fields.keys.Nodup ∧ ∀ entry ∈ fields, entry.2.distinctKeys = true := by
  rw [distinctKeys, Bool.and_eq_true, decide_eq_true_iff, fieldsDistinct_iff]

theorem distinctKeys_arr_iff {items : List Json} :
    (Json.arr items).distinctKeys = true ↔ ∀ item ∈ items, item.distinctKeys = true :=
  itemsDistinct_iff

/-- What stands in an object without repeated keys has none either. -/
theorem distinctKeys_of_get? {value inner : Json} {key : String} (h : value.distinctKeys = true)
    (hinner : value.get? key = some inner) : inner.distinctKeys = true := by
  cases value with
  | obj fields =>
    obtain ⟨before, after, hsplit, _⟩ := List.lookup_eq_some_iff.mp hinner
    refine (distinctKeys_obj_iff.mp h).2 (key, inner) ?_
    rw [hsplit]
    exact List.mem_append_right _ List.mem_cons_self
  | null | bool | num | str | arr => cases hinner

/-! ## Reading -/

theorem distinctKeys_ofEntries {entries : List (String × Json)}
    (h : fieldsDistinct entries = true) :
    (Json.obj (Fields.ofEntries entries)).distinctKeys = true := by
  have hentries := fieldsDistinct_iff.mp h
  rw [distinctKeys_obj_iff, Fields.ofEntries]
  -- the object grows entry by entry, so the entries come at the back
  induction entries using List.reverseRecOn with
  | nil => exact ⟨List.nodup_nil, nofun⟩
  | append_singleton entries last ih =>
    rw [List.forall_mem_append, List.forall_mem_singleton] at hentries
    obtain ⟨hkeys, hvalues⟩ := ih (fieldsDistinct_iff.mpr hentries.1) hentries.1
    rw [List.foldl_append, List.foldl_cons, List.foldl_nil]
    refine ⟨Fields.nodup_keys_insert hkeys _ _, fun entry hentry => ?_⟩
    rcases Fields.mem_insert hentry with rfl | hold
    · exact hentries.2
    · exact hvalues entry hold

mutual

theorem distinctKeys_of_toJson? : ∀ {d : Draft} {value : Json}, d.toJson? = some value →
    value.distinctKeys = true
  | .null, _, h | .bool _, _, h => by
    cases h
    rfl
  | .number n, _, h => by
    obtain ⟨_, _, rfl⟩ := Option.map_eq_some_iff.mp h
    rfl
  | .text s, _, h => by
    obtain ⟨_, _, rfl⟩ := Option.map_eq_some_iff.mp h
    rfl
  | .array items closed deep, _, h => by
    rw [Draft.toJson?] at h
    split at h
    · cases h
    · obtain ⟨values, hvalues, rfl⟩ := Option.map_eq_some_iff.mp h
      exact itemsDistinct_of_itemsToJson? hvalues
  | .object entries closed deep, _, h => by
    rw [Draft.toJson?] at h
    split at h
    · cases h
    · obtain ⟨values, hvalues, rfl⟩ := Option.map_eq_some_iff.mp h
      exact distinctKeys_ofEntries (fieldsDistinct_of_entriesToJson? hvalues)
  | .broken, _, h => by cases h

theorem itemsDistinct_of_itemsToJson? : ∀ {items : List Draft} {values : List Json},
    Draft.itemsToJson? items = some values → itemsDistinct values = true
  | [], _, h => by
    cases h
    rfl
  | item :: rest, _, h => by
    obtain ⟨value, hvalue, h⟩ := Option.bind_eq_some_iff.mp h
    obtain ⟨values, hvalues, h⟩ := Option.bind_eq_some_iff.mp h
    cases h
    rw [itemsDistinct, distinctKeys_of_toJson? hvalue, itemsDistinct_of_itemsToJson? hvalues]
    rfl

theorem fieldsDistinct_of_entriesToJson? : ∀ {entries : List (DraftKey × Draft)}
    {values : List (String × Json)},
    Draft.entriesToJson? entries = some values → fieldsDistinct values = true
  | [], _, h => by
    cases h
    rfl
  | (.text key, item) :: rest, _, h => by
    obtain ⟨value, hvalue, h⟩ := Option.bind_eq_some_iff.mp h
    obtain ⟨values, hvalues, h⟩ := Option.bind_eq_some_iff.mp h
    cases h
    rw [fieldsDistinct, distinctKeys_of_toJson? hvalue, fieldsDistinct_of_entriesToJson? hvalues]
    rfl
  | (.unpaired, _) :: _, _, h | (.foreign, _) :: _, _, h => by cases h

end

/-- A value that is read from a text has no repeated keys. -/
theorem distinctKeys_of_parse? {text : String} {value : Json} (h : parse? text = some value) :
    value.distinctKeys = true := by
  unfold parse? at h
  split at h
  · split at h
    · exact distinctKeys_of_toJson? h
    · cases h
  · cases h

end Json

end DruidPanels
