import DruidPanels.Proofs.DistinctKeys
import DruidPanels.Proofs.FilterEntries

/-! # Values that are descriptors

A value without repeated keys is read like the text that it was written as
(`toJson?_ofJson`). So it is read as a filter descriptor exactly if it is an object with a
text under `type` and with a flag, or nothing, under `negate`, and the descriptor is what
the object says (`ofJson?_eq_some_iff`). -/

namespace DruidPanels

/-! ## Values as drafts -/

namespace Fields

theorem insert_eq_append {key : String} {fields : Fields} (h : key ∉ fields.keys) (value : Json) :
    insert key value fields = fields ++ [(key, value)] := by
  induction fields with
  | nil => rfl
  | cons entry rest ih =>
    obtain ⟨k, v⟩ := entry
    obtain ⟨hk, hrest⟩ := List.ne_and_not_mem_of_not_mem_cons h
    rw [insert, if_neg (Ne.symm hk), ih hrest, List.cons_append]

theorem ofEntries_eq_self {fields : Fields} (h : fields.keys.Nodup) :
    ofEntries fields = fields := by
  induction fields using List.reverseRecOn with
  | nil => rfl
  | append_singleton fields last ih =>
    rw [keys, List.map_append, List.map_singleton] at h
    obtain ⟨hkeys, _, hnew⟩ := List.nodup_append.mp h
    have hlast : last.1 ∉ keys fields := fun hmem => hnew _ hmem _ (List.mem_singleton_self _) rfl
    have hfields := ih hkeys
    unfold ofEntries at hfields ⊢
    rw [List.foldl_append, hfields]
    exact insert_eq_append hlast _

theorem get?_eq_some_iff {fields : Fields} (h : fields.keys.Nodup) {key : String} {value : Json} :
    get? fields key = some value ↔ (key, value) ∈ fields :=
  Pairs.lookup_eq_some_iff h

end Fields

namespace Draft

mutual

/-- A value without repeated keys is what is read of it. -/
theorem toJson?_ofJson : ∀ {value : Json}, value.distinctKeys = true →
    (ofJson value).toJson? = some value
  | .null, _ | .bool _, _ | .num _, _ | .str _, _ => rfl
  | .arr items, h => by
    have hitems := itemsToJson?_ofItems h
    simp [ofJson, toJson?, hitems]
  | .obj fields, h => by
    rw [Json.distinctKeys, Bool.and_eq_true, decide_eq_true_iff] at h
    have hfields := entriesToJson?_ofFields h.2
    simp [ofJson, toJson?, hfields, Fields.ofEntries_eq_self h.1]

theorem itemsToJson?_ofItems : ∀ {items : List Json}, Json.itemsDistinct items = true →
    itemsToJson? (ofItems items) = some items
  | [], _ => rfl
  | item :: rest, h => by
    rw [Json.itemsDistinct, Bool.and_eq_true] at h
    simp [ofItems, itemsToJson?, toJson?_ofJson h.1, itemsToJson?_ofItems h.2]

theorem entriesToJson?_ofFields : ∀ {fields : List (String × Json)},
    Json.fieldsDistinct fields = true → entriesToJson? (ofFields fields) = some fields
  | [], _ => rfl
  | (key, value) :: rest, h => by
    rw [Json.fieldsDistinct, Bool.and_eq_true] at h
    simp [ofFields, entriesToJson?, toJson?_ofJson h.1, entriesToJson?_ofFields h.2]

end

theorem json_ofJson {value : Json} (h : value.distinctKeys = true) :
    Decoder.json (ofJson value) = .ok value := by
  rw [Decoder.json, toJson?_ofJson h]

end Draft

/-! ## Objects that say a descriptor -/

namespace FilterDescriptor

/-- What a descriptor wants of an entry: a text under `type`, and a flag under `negate`. -/
def Legible (entry : String × Json) : Prop :=
  (entry.1 = "type" → ∃ type, entry.2 = .str type) ∧
    (entry.1 = "negate" → ∃ negate, negation? entry.2 = some negate)

theorem legible_type_iff {value : Json} :
    Legible ("type", value) ↔ ∃ type, value = .str type := by
  simp [Legible]

theorem legible_negate_iff {value : Json} :
    Legible ("negate", value) ↔ ∃ negate, negation? value = some negate := by
  simp [Legible]

/-- The entries are read to their end. -/
def Reads (p : Gathered) (entries : List (DraftKey × Draft)) : Prop :=
  ∃ q, readEntries p entries = .ok q

section Reads

variable {p : Gathered} {value : Json} {rest : List (DraftKey × Draft)}

theorem reads_type_cons (h : p.kind = none) :
    Reads p ((.text "type", .ofJson value) :: rest) ↔
      ∃ type, value = .str type ∧ Reads { p with kind := some (.ofName type) } rest := by
  unfold Reads
  rw [readEntries, if_pos rfl, h]
  cases value with
  | str type =>
    constructor
    · intro hread
      exact ⟨type, rfl, hread⟩
    · intro hread
      obtain ⟨_, htype, hread⟩ := hread
      cases htype
      exact hread
  | null | bool | num | arr | obj =>
    refine iff_of_false (fun hread => ?_) fun hread => ?_
    · obtain ⟨_, hread⟩ := hread
      cases hread
    · obtain ⟨_, htype, _⟩ := hread
      cases htype

theorem reads_negate_cons (h : p.negate = none) (hvalue : value.distinctKeys = true) :
    Reads p ((.text "negate", .ofJson value) :: rest) ↔
      ∃ negate, negation? value = some negate ∧
        Reads { p with negate := some negate } rest := by
  have hjson := Draft.json_ofJson hvalue
  cases hnegation : negation? value with
  | some negate =>
    have hstep : readEntries p ((.text "negate", .ofJson value) :: rest) =
        readEntries { p with negate := some negate } rest := by
      simp [readEntries, h, hjson, Itemwise.ok_bind, hnegation]
    unfold Reads
    rw [hstep]
    constructor
    · intro hread
      exact ⟨negate, rfl, hread⟩
    · intro hread
      obtain ⟨_, hsame, hread⟩ := hread
      cases hsame
      exact hread
  | none =>
    have hstep : readEntries p ((.text "negate", .ofJson value) :: rest) = .error .misshapen := by
      simp [readEntries, h, hjson, Itemwise.ok_bind, hnegation]
    refine iff_of_false (fun hread => ?_) fun hread => ?_
    · obtain ⟨_, hread⟩ := hread
      rw [hstep] at hread
      cases hread
    · obtain ⟨_, hsome, _⟩ := hread
      cases hsome

theorem reads_field_cons {key : String} (htype : key ≠ "type") (hnegate : key ≠ "negate")
    (hvalue : value.distinctKeys = true) :
    Reads p ((.text key, .ofJson value) :: rest) ↔
      Reads { p with fields := Fields.insert key value p.fields } rest := by
  have hjson := Draft.json_ofJson hvalue
  unfold Reads
  rw [readEntries, if_neg htype, if_neg hnegate, hjson]
  rfl

end Reads

/-- The entries of an object are read to their end if its kind and its flag can be read. -/
theorem reads_ofFields_iff {fields : Fields} (hkeys : fields.keys.Nodup)
    (hvalues : ∀ entry ∈ fields, entry.2.distinctKeys = true) {p : Gathered}
    (hkind : "type" ∈ fields.keys → p.kind = none)
    (hnegate : "negate" ∈ fields.keys → p.negate = none) :
    Reads p (Draft.ofFields fields) ↔ ∀ entry ∈ fields, Legible entry := by
  induction fields generalizing p with
  | nil => exact iff_of_true ⟨p, rfl⟩ nofun
  | cons entry rest ih =>
    obtain ⟨key, value⟩ := entry
    obtain ⟨hnew, hrest⟩ := List.nodup_cons.mp hkeys
    obtain ⟨hvalue, hothers⟩ := List.forall_mem_cons.mp hvalues
    have hkind' (h : "type" ∈ Fields.keys rest) : p.kind = none :=
      hkind (List.mem_cons_of_mem _ h)
    have hnegate' (h : "negate" ∈ Fields.keys rest) : p.negate = none :=
      hnegate (List.mem_cons_of_mem _ h)
    rw [Draft.ofFields, List.forall_mem_cons]
    by_cases htype : key = "type"
    · subst htype
      rw [reads_type_cons (hkind List.mem_cons_self), legible_type_iff, ← exists_and_right]
      refine exists_congr fun type => and_congr_right fun _ => ?_
      exact ih hrest hothers (fun h => absurd h hnew) hnegate'
    by_cases hflag : key = "negate"
    · subst hflag
      rw [reads_negate_cons (hnegate List.mem_cons_self) hvalue, legible_negate_iff,
        ← exists_and_right]
      refine exists_congr fun negate => and_congr_right fun _ => ?_
      exact ih hrest hothers hkind' fun h => absurd h hnew
    · refine (reads_field_cons htype hflag hvalue).trans ?_
      refine (ih hrest hothers (p := { p with fields := Fields.insert key value p.fields })
        hkind' hnegate').trans ?_
      exact (and_iff_right ⟨fun h => absurd h htype, fun h => absurd h hflag⟩).symm

/-- The value is an object that says the descriptor, and its flag, if it has one, can be
read. -/
inductive Describes : Json → FilterDescriptor → Prop
  | object {fields : Fields} {f : FilterDescriptor} (hfrom : f.ReadFrom fields)
      (hflag : ∀ flag, Fields.get? fields "negate" = some flag →
        ∃ negate, negation? flag = some negate) : Describes (.obj fields) f

theorem ReadFrom.eq {f g : FilterDescriptor} {object : Fields} (hf : f.ReadFrom object)
    (hg : g.ReadFrom object) : f = g := by
  obtain ⟨type, htype, hkind⟩ := hf.kind
  obtain ⟨type', htype', hkind'⟩ := hg.kind
  cases htype.symm.trans htype'
  cases f
  cases g
  cases hkind.trans hkind'.symm
  cases hf.negate.trans hg.negate.symm
  cases hf.fields.trans hg.fields.symm
  rfl

/-- What is read of an object without repeated keys is what stands in it. -/
theorem matches_of_readEntries {fields : Fields}
    (hdistinct : (Json.obj fields).distinctKeys = true) {q : Gathered}
    (h : readEntries ⟨none, none, []⟩ (Draft.ofFields fields) = .ok q) : q.Matches fields := by
  rw [Json.distinctKeys, Bool.and_eq_true, decide_eq_true_iff] at hdistinct
  have hempty : Gathered.Matches ⟨none, none, []⟩ [] := ⟨rfl, rfl, rfl⟩
  obtain ⟨values, hvalues, hmatches⟩ := hempty.readEntries h
  rw [Draft.entriesToJson?_ofFields hdistinct.2] at hvalues
  cases hvalues
  have hfields : Fields.ofEntries fields = fields := Fields.ofEntries_eq_self hdistinct.1
  rw [← hfields]
  exact hmatches

theorem legible_of_get? {fields : Fields} (hkeys : fields.keys.Nodup)
    (hkind : ∀ value, Fields.get? fields "type" = some value → ∃ type, value = .str type)
    (hflag : ∀ flag, Fields.get? fields "negate" = some flag →
      ∃ negate, negation? flag = some negate) : ∀ entry ∈ fields, Legible entry := by
  intro entry hentry
  obtain ⟨key, value⟩ := entry
  have hvalue := (Fields.get?_eq_some_iff hkeys).mpr hentry
  constructor
  · intro hkey
    cases hkey
    exact hkind value hvalue
  · intro hkey
    cases hkey
    exact hflag value hvalue

/-- What is read as a descriptor is an object that says it. -/
theorem describes_of_decoder {value : Json} (hdistinct : value.distinctKeys = true)
    {f : FilterDescriptor} (h : decoder (.ofJson value) = .ok f) : Describes value f := by
  obtain ⟨fields, hjson, hfrom⟩ := readFrom_of_decoder h
  rw [Draft.toJson?_ofJson hdistinct] at hjson
  cases hjson
  obtain ⟨hkeys, hvalues⟩ := Json.distinctKeys_obj_iff.mp hdistinct
  obtain ⟨q, hq, _⟩ := Itemwise.bind_eq_ok_iff.mp h
  have hlegible := (reads_ofFields_iff hkeys hvalues (fun _ => rfl) fun _ => rfl).mp ⟨q, hq⟩
  refine .object hfrom fun flag hflag => ?_
  exact (hlegible _ ((Fields.get?_eq_some_iff hkeys).mp hflag)).2 rfl

/-- An object that says a descriptor is read as one. -/
theorem decoder_of_describes {value : Json} (hdistinct : value.distinctKeys = true)
    {f : FilterDescriptor} (h : Describes value f) : decoder (.ofJson value) = .ok f := by
  cases h with
  | @object fields _ hfrom hflag =>
    obtain ⟨hkeys, hvalues⟩ := Json.distinctKeys_obj_iff.mp hdistinct
    obtain ⟨type, htype, _⟩ := hfrom.kind
    have hlegible : ∀ entry ∈ fields, Legible entry :=
      legible_of_get? hkeys (fun _ h => ⟨type, Option.some.inj (h.symm.trans htype)⟩) hflag
    obtain ⟨q, hq⟩ : Reads ⟨none, none, []⟩ (Draft.ofFields fields) :=
      (reads_ofFields_iff hkeys hvalues (fun _ => rfl) fun _ => rfl).mpr hlegible
    have hmatches := matches_of_readEntries hdistinct hq
    have hkind : q.kind = some (.ofName type) := by
      rw [hmatches.kind, htype]
      rfl
    have hread : decoder (.ofJson (.obj fields)) =
        .ok ⟨.ofName type, q.negate.getD false, q.fields⟩ := by
      refine Itemwise.bind_eq_ok_iff.mpr ⟨q, hq, ?_⟩
      rw [hkind]
      rfl
    have hfrom' : ReadFrom ⟨.ofName type, q.negate.getD false, q.fields⟩ fields :=
      ⟨⟨type, htype, rfl⟩, congrArg (Option.getD · false) hmatches.negate, hmatches.fields⟩
    rw [hread, hfrom'.eq hfrom]

/-- **A value is read as a descriptor exactly if it is an object that says it.** -/
theorem ofJson?_eq_some_iff {value : Json} (hdistinct : value.distinctKeys = true)
    {f : FilterDescriptor} : decoder.ofJson? value = some f ↔ Describes value f := by
  unfold Decoder.ofJson?
  constructor
  · intro h
    cases hread : decoder (.ofJson value) with
    | error e =>
      rw [hread] at h
      cases h
    | ok g =>
      rw [hread] at h
      cases h
      exact describes_of_decoder hdistinct hread
  · intro h
    rw [decoder_of_describes hdistinct h]
    rfl

end FilterDescriptor

end DruidPanels
