import DruidPanels.Filter
import DruidPanels.Proofs.Fields
import DruidPanels.Proofs.Itemwise

/-! # Reading filter descriptors

A descriptor is read entry by entry, and keeps its kind and its negation apart from its
other fields. What has been read of a descriptor is at each entry what stands in the
object that a strict reader has so far (`Gathered.Matches`), so a descriptor is the object
that is written, with its entries sorted out (`readFrom_of_decoder`). -/

namespace DruidPanels

namespace Draft

theorem toJson?_of_text {d : Draft} {s : String} (h : Decoder.text d = .ok s) :
    d.toJson? = some (.str s) := by
  unfold Decoder.text at h
  split at h
  · cases h
    rfl
  · cases h

theorem toJson?_of_json {d : Draft} {value : Json} (h : Decoder.json d = .ok value) :
    d.toJson? = some value := by
  unfold Decoder.json at h
  split at h
  · next found hfound =>
    cases h
    exact hfound
  · cases h

end Draft

theorem Json.bind_text?_eq_some_iff {value : Option Json} {s : String} :
    value.bind Json.text? = some s ↔ value = some (.str s) := by
  constructor
  · intro h
    obtain ⟨v, rfl, hv⟩ := Option.bind_eq_some_iff.mp h
    cases v with
    | str t => rw [Option.some.inj hv]
    | null | bool | num | arr | obj => cases hv
  · rintro rfl
    rfl

theorem Fields.filter_insert (p : String → Bool) (key : String) (value : Json)
    (fields : Fields) :
    (insert key value fields).filter (fun entry => p entry.1) =
      if p key then insert key value (fields.filter fun entry => p entry.1)
      else fields.filter fun entry => p entry.1 := by
  induction fields with
  | nil => cases h : p key <;> simp [insert, h]
  | cons entry rest ih =>
    obtain ⟨k, v⟩ := entry
    by_cases hk : k = key
    · subst hk
      cases h : p k <;> simp [insert, h]
    · simp only [insert, if_neg hk, List.filter_cons, ih]
      cases h : p key <;> cases h' : p k <;> simp [insert, hk]

namespace FilterKind

theorem name_ofName (name : String) : (ofName name).name = name := by
  unfold ofName
  split
  · next h => exact h.symm
  split
  · next h => exact h.symm
  split
  · next h => exact h.symm
  split
  · next h => exact h.symm
  · rfl

end FilterKind

namespace FilterDescriptor

/-- The key is that of a field, and not of the kind or of the negation. -/
def isField (key : String) : Bool := key ≠ "type" && key ≠ "negate"

/-- What has been read of a descriptor is what stands in an object. -/
structure Gathered.Matches (p : Gathered) (object : Fields) : Prop where
  kind : p.kind = ((Fields.get? object "type").bind Json.text?).map .ofName
  negate : p.negate = (Fields.get? object "negate").bind negation?
  fields : p.fields = object.filter fun entry => isField entry.1

namespace Gathered.Matches

variable {p : Gathered} {object : Fields}

theorem insertKind (hp : p.Matches object) (type : String) :
    Matches { p with kind := some (.ofName type) } (Fields.insert "type" (.str type) object) where
  kind := by rw [Fields.get?_insert, if_pos rfl]; rfl
  negate := by rw [Fields.get?_insert, if_neg (by decide)]; exact hp.negate
  fields := by rw [Fields.filter_insert isField, if_neg (by decide)]; exact hp.fields

theorem insertNegation (hp : p.Matches object) {value : Json} {negate : Bool}
    (hvalue : negation? value = some negate) :
    Matches { p with negate := some negate } (Fields.insert "negate" value object) where
  kind := by rw [Fields.get?_insert, if_neg (by decide)]; exact hp.kind
  negate := by rw [Fields.get?_insert, if_pos rfl]; exact hvalue.symm
  fields := by rw [Fields.filter_insert isField, if_neg (by decide)]; exact hp.fields

theorem insertField (hp : p.Matches object) {key : String} (htype : key ≠ "type")
    (hnegate : key ≠ "negate") (value : Json) :
    Matches { p with fields := Fields.insert key value p.fields }
      (Fields.insert key value object) where
  kind := by rw [Fields.get?_insert, if_neg (Ne.symm htype)]; exact hp.kind
  negate := by rw [Fields.get?_insert, if_neg (Ne.symm hnegate)]; exact hp.negate
  fields := by
    rw [Fields.filter_insert isField, if_pos (by simp [isField, htype, hnegate]), hp.fields]

/-- One entry more that is read is one entry more of the object. -/
theorem cons {q : Gathered} (hp : p.Matches object) {key : DraftKey} {item : Draft}
    {rest : List (DraftKey × Draft)} (h : readEntries p ((key, item) :: rest) = .ok q) :
    ∃ name value p', key = .text name ∧ item.toJson? = some value ∧
      Matches p' (Fields.insert name value object) ∧ readEntries p' rest = .ok q := by
  cases key with
  | unpaired | foreign => cases h
  | text name =>
    rw [readEntries] at h
    by_cases htype : name = "type"
    · subst htype
      rw [if_pos rfl] at h
      split at h
      · cases h
      · obtain ⟨type, hitem, h⟩ := Itemwise.bind_eq_ok_iff.mp h
        exact ⟨_, _, _, rfl, Draft.toJson?_of_text hitem, hp.insertKind type, h⟩
    rw [if_neg htype] at h
    by_cases hnegate : name = "negate"
    · subst hnegate
      rw [if_pos rfl] at h
      split at h
      · cases h
      · obtain ⟨value, hitem, h⟩ := Itemwise.bind_eq_ok_iff.mp h
        split at h
        · next negate hvalue =>
          exact ⟨_, _, _, rfl, Draft.toJson?_of_json hitem, hp.insertNegation hvalue, h⟩
        · cases h
    · rw [if_neg hnegate] at h
      obtain ⟨value, hitem, h⟩ := Itemwise.bind_eq_ok_iff.mp h
      exact ⟨_, _, _, rfl, Draft.toJson?_of_json hitem, hp.insertField htype hnegate value, h⟩

theorem readEntries {q : Gathered} {entries : List (DraftKey × Draft)} (hp : p.Matches object)
    (h : FilterDescriptor.readEntries p entries = .ok q) :
    ∃ values, Draft.entriesToJson? entries = some values ∧
      q.Matches (values.foldl (fun fields (key, value) => Fields.insert key value fields) object) := by
  induction entries generalizing p object with
  | nil =>
    cases h
    exact ⟨[], rfl, hp⟩
  | cons entry rest ih =>
    obtain ⟨key, item⟩ := entry
    obtain ⟨name, value, p', rfl, hitem, hp', h⟩ := hp.cons h
    obtain ⟨values, hvalues, hq⟩ := ih hp' h
    refine ⟨(name, value) :: values, ?_, hq⟩
    simp [Draft.entriesToJson?, hitem, hvalues]

end Gathered.Matches

/-- A descriptor is what an object says: its kind is the type, its negation the flag under
`negate`, and its fields are all other entries in their order. -/
structure ReadFrom (f : FilterDescriptor) (object : Fields) : Prop where
  kind : ∃ type, Fields.get? object "type" = some (.str type) ∧ f.kind = .ofName type
  negate : f.negate = ((Fields.get? object "negate").bind negation?).getD false
  fields : f.fields = object.filter fun entry => isField entry.1

theorem readFrom_of_decoder {d : Draft} {f : FilterDescriptor} (h : decoder d = .ok f) :
    ∃ object, d.toJson? = some (.obj object) ∧ f.ReadFrom object := by
  cases d with
  | object entries closed deep =>
    cases deep with
    | true => cases h
    | false =>
      obtain ⟨p, hp, h⟩ := Itemwise.bind_eq_ok_iff.mp h
      cases closed with
      | false => cases h
      | true =>
        have hempty : Gathered.Matches ⟨none, none, []⟩ [] := ⟨rfl, rfl, rfl⟩
        obtain ⟨values, hvalues, hmatches⟩ := hempty.readEntries hp
        have hjson : (Draft.object entries true false).toJson? =
            some (.obj (Fields.ofEntries values)) := by
          simp [Draft.toJson?, hvalues]
        refine ⟨_, hjson, ?_⟩
        cases hkind : p.kind with
        | none =>
          rw [hkind] at h
          cases h
        | some kind =>
          rw [hkind] at h
          cases h
          refine ⟨?_, congrArg (Option.getD · false) hmatches.negate, hmatches.fields⟩
          obtain ⟨type, htype, rfl⟩ := Option.map_eq_some_iff.mp (hmatches.kind.symm.trans hkind)
          exact ⟨type, Json.bind_text?_eq_some_iff.mp htype, rfl⟩
  | _ => cases h

end FilterDescriptor

end DruidPanels
