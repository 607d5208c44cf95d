import DruidPanels.Proofs.DescriptorValues

/-! # Written descriptors

A descriptor is written with its kind first, then its negation if there is one, then its
fields. What is written of a descriptor that was read is the object it was read from, with
the two flags of the editor put in order, and it is read as the same descriptor. Which
objects are read at all hangs on their type and flag alone (`ofJson?_toJson`). -/

namespace DruidPanels

namespace FilterDescriptor

/-! ## Flags -/

/-- What a flag says. Null and a blank text say no, and a word may have blanks around it. -/
inductive Says : Json → Bool → Prop
  | null : Says .null false
  | bool {negate : Bool} : Says (.bool negate) negate
  | yes {text : String} (h : Text.trim text = "true") : Says (.str text) true
  | no {text : String} (h : Text.trim text = "false") : Says (.str text) false
  | blank {text : String} (h : Text.trim text = "") : Says (.str text) false

theorem negation?_str_eq_some_iff {text : String} {negate : Bool} :
    negation? (.str text) = some negate ↔ Says (.str text) negate := by
  unfold negation?
  constructor
  · intro h
    dsimp only at h
    split at h
    · next hyes =>
      cases h
      exact .yes hyes
    · split at h
      · next hno =>
        cases h
        exact hno.elim .no .blank
      · cases h
  · intro h
    cases h with
    | yes hyes => simp [hyes]
    | no hno => simp [hno]
    | blank hblank => simp [hblank]

theorem negation?_eq_some_iff {value : Json} {negate : Bool} :
    negation? value = some negate ↔ Says value negate := by
  cases value with
  | str text => exact negation?_str_eq_some_iff
  | null =>
    constructor
    · intro h
      cases h
      exact .null
    · intro h
      cases h
      rfl
  | bool b =>
    constructor
    · intro h
      cases h
      exact .bool
    · intro h
      cases h
      rfl
  | num | arr | obj => exact ⟨nofun, nofun⟩

/-! ## Objects in order -/

/-- An object of a descriptor put in order: its type, `negate` if its flag says yes, and all
other entries as they stand. -/
inductive InOrder (object : Fields) : Fields → Prop
  | plain {type : String} (htype : ("type", .str type) ∈ object)
      (hflag : ∀ flag, ("negate", flag) ∈ object → Says flag false) :
      InOrder object (("type", .str type) :: object.filter fun entry => isField entry.1)
  | negated {type : String} {flag : Json} (htype : ("type", .str type) ∈ object)
      (hnegate : ("negate", flag) ∈ object) (hflag : Says flag true) :
      InOrder object (("type", .str type) :: ("negate", .bool true) ::
        object.filter fun entry => isField entry.1)

/-! ## Reading what was written -/

variable {object : Fields} {f : FilterDescriptor}

/-- The flag that an object has says what the descriptor of the object is told. -/
theorem ReadFrom.says_negate (h : f.ReadFrom object) {flag : Json} {negate : Bool}
    (hflag : Fields.get? object "negate" = some flag) (hmeans : negation? flag = some negate) :
    Says flag f.negate := by
  have hnegate : f.negate = negate := by
    rw [h.negate, hflag, Option.bind_some, hmeans, Option.getD_some]
  rw [hnegate]
  exact negation?_eq_some_iff.mp hmeans

theorem ReadFrom.exists_flag (h : f.ReadFrom object) (hnegate : f.negate = true) :
    ∃ flag, Fields.get? object "negate" = some flag ∧ Says flag true := by
  have hsaid := h.negate.symm.trans hnegate
  cases hread : (Fields.get? object "negate").bind negation? with
  | none =>
    rw [hread] at hsaid
    cases hsaid
  | some negate =>
    rw [hread, Option.getD_some] at hsaid
    obtain ⟨flag, hflag, hmeans⟩ := Option.bind_eq_some_iff.mp hread
    exact ⟨flag, hflag, negation?_eq_some_iff.mp (hsaid ▸ hmeans)⟩

theorem ReadFrom.mem_fields (h : f.ReadFrom object) {entry : String × Json}
    (hentry : entry ∈ f.fields) : entry ∈ object ∧ isField entry.1 = true := by
  rw [h.fields] at hentry
  exact List.mem_filter.mp hentry

@[simp]
theorem isField_type : isField "type" = false := by decide

@[simp]
theorem isField_negate : isField "negate" = false := by decide

theorem ReadFrom.not_mem_keys (h : f.ReadFrom object) {key : String}
    (hkey : isField key = false) : key ∉ f.fields.keys := by
  intro hin
  obtain ⟨entry, hentry, rfl⟩ := List.mem_map.mp hin
  exact absurd (h.mem_fields hentry).2 (Bool.eq_false_iff.mp hkey)

theorem ReadFrom.get?_negate (h : f.ReadFrom object) : Fields.get? f.fields "negate" = none := by
  refine List.lookup_eq_none_iff.mpr fun entry hentry => bne_iff_ne.mpr fun hsame => ?_
  exact h.not_mem_keys isField_negate (hsame ▸ List.mem_map_of_mem hentry)

/-- The entries of a descriptor as it is written. -/
def entries (f : FilterDescriptor) : Fields :=
  ("type", .str f.kind.name) :: ((if f.negate then [("negate", .bool true)] else []) ++ f.fields)

theorem inOrder_entries (hkeys : object.keys.Nodup) (h : Describes (.obj object) f) :
    InOrder object f.entries := by
  cases h with
  | object hfrom hflag =>
    obtain ⟨type, htype, hkind⟩ := hfrom.kind
    have hname : f.kind.name = type := by rw [hkind, FilterKind.name_ofName]
    have hmem := (Fields.get?_eq_some_iff hkeys).mp htype
    unfold entries
    rw [hname, hfrom.fields]
    cases hnegate : f.negate with
    | false =>
      refine .plain hmem fun flag hin => ?_
      have hget := (Fields.get?_eq_some_iff hkeys).mpr hin
      obtain ⟨negate, hmeans⟩ := hflag flag hget
      exact hnegate ▸ hfrom.says_negate hget hmeans
    | true =>
      obtain ⟨flag, hget, hmeans⟩ := hfrom.exists_flag hnegate
      exact .negated hmem ((Fields.get?_eq_some_iff hkeys).mp hget) hmeans

theorem distinctKeys_entries (hdistinct : (Json.obj object).distinctKeys = true)
    (h : f.ReadFrom object) : (Json.obj f.entries).distinctKeys = true := by
  obtain ⟨hkeys, hvalues⟩ := Json.distinctKeys_obj_iff.mp hdistinct
  have hfields : f.fields.keys.Nodup := by
    rw [h.fields]
    exact (List.filter_sublist.map Prod.fst).nodup hkeys
  have hrest : ∀ entry ∈ f.fields, entry.2.distinctKeys = true := fun entry hentry =>
    hvalues entry (h.mem_fields hentry).1
  have htype : "type" ∉ f.fields.keys := h.not_mem_keys isField_type
  have hnegate : "negate" ∉ f.fields.keys := h.not_mem_keys isField_negate
  refine Json.distinctKeys_obj_iff.mpr ?_
  unfold entries
  cases f.negate with
  | false =>
    exact ⟨List.nodup_cons.mpr ⟨htype, hfields⟩, List.forall_mem_cons.mpr ⟨rfl, hrest⟩⟩
  | true =>
    have hboth : "type" ∉ "negate" :: f.fields.keys :=
      List.not_mem_cons_of_ne_of_not_mem (by decide) htype
    refine ⟨List.nodup_cons.mpr ⟨hboth, List.nodup_cons.mpr ⟨hnegate, hfields⟩⟩, ?_⟩
    exact List.forall_mem_cons.mpr ⟨rfl, List.forall_mem_cons.mpr ⟨rfl, hrest⟩⟩

theorem ReadFrom.entries_eq (h : f.ReadFrom object) : f.ReadFrom f.entries where
  kind := by
    obtain ⟨type, _, hkind⟩ := h.kind
    refine ⟨f.kind.name, rfl, ?_⟩
    rw [hkind, FilterKind.name_ofName]
  negate := by
    unfold entries
    cases f.negate <;> simp [h.get?_negate, negation?]
  fields := by
    have hall : f.fields.filter (fun entry => isField entry.1) = f.fields :=
      List.filter_eq_self.mpr fun entry hentry => (h.mem_fields hentry).2
    unfold entries
    cases f.negate <;> simp [hall]

/-- What is written of a descriptor says that descriptor. -/
theorem ReadFrom.describes_entries (h : f.ReadFrom object) : Describes (.obj f.entries) f := by
  refine .object h.entries_eq fun flag hflag => ?_
  unfold entries at hflag
  cases hnegate : f.negate with
  | false => simp [hnegate, h.get?_negate] at hflag
  | true =>
    simp [hnegate] at hflag
    subst hflag
    exact ⟨true, rfl⟩

/-! ## Objects that are refused -/

theorem exists_describes_iff (hkeys : object.keys.Nodup) :
    (∃ f, Describes (.obj object) f) ↔
      (∃ type, ("type", .str type) ∈ object) ∧
        ∀ flag, ("negate", flag) ∈ object → ∃ negate, Says flag negate := by
  constructor
  · intro hsome
    obtain ⟨f, hdescribes⟩ := hsome
    cases hdescribes with
    | object hfrom hflag =>
      obtain ⟨type, htype, _⟩ := hfrom.kind
      refine ⟨⟨type, (Fields.get?_eq_some_iff hkeys).mp htype⟩, fun flag hin => ?_⟩
      obtain ⟨negate, hmeans⟩ := hflag flag ((Fields.get?_eq_some_iff hkeys).mpr hin)
      exact ⟨negate, negation?_eq_some_iff.mp hmeans⟩
  · intro hlegible
    obtain ⟨⟨type, hin⟩, hflag⟩ := hlegible
    have htype := (Fields.get?_eq_some_iff hkeys).mpr hin
    refine ⟨⟨.ofName type, ((Fields.get? object "negate").bind negation?).getD false,
      object.filter fun entry => isField entry.1⟩, .object ⟨⟨type, htype, rfl⟩, rfl, rfl⟩ ?_⟩
    intro flag hget
    obtain ⟨negate, hmeans⟩ := hflag flag ((Fields.get?_eq_some_iff hkeys).mp hget)
    exact ⟨negate, negation?_eq_some_iff.mpr hmeans⟩

/-- **Descriptors are written as they were read.** An object is refused as a descriptor
exactly if it has no text under `type`, or has something under `negate` that says neither
yes nor no. Any other is read, and what is written of it is the object put in order: type,
then `negate` if its flag said yes, then all other entries as they stood. This is read as
the same descriptor. -/
theorem ofJson?_toJson (hdistinct : (Json.obj object).distinctKeys = true) :
    (decoder.ofJson? (.obj object) = none ↔
      (∀ type, ("type", .str type) ∉ object) ∨
        ∃ flag, ("negate", flag) ∈ object ∧ ∀ negate, ¬ Says flag negate) ∧
    ∀ f, decoder.ofJson? (.obj object) = some f →
      ∃ written, f.toJson = .obj written ∧ InOrder object written ∧
        decoder.ofJson? (.obj written) = some f := by
  have hkeys := (Json.distinctKeys_obj_iff.mp hdistinct).1
  constructor
  · rw [Option.eq_none_iff_forall_ne_some]
    simp only [ne_eq, ofJson?_eq_some_iff hdistinct]
    rw [← not_exists, exists_describes_iff hkeys, not_and_or, not_exists, not_forall]
    simp only [Classical.not_imp, not_exists]
  · intro f hread
    have hdescribes := (ofJson?_eq_some_iff hdistinct).mp hread
    refine ⟨f.entries, rfl, inOrder_entries hkeys hdescribes, ?_⟩
    cases hdescribes with
    | object hfrom hflag =>
      exact (ofJson?_eq_some_iff (distinctKeys_entries hdistinct hfrom)).mpr
        hfrom.describes_entries

/-- An object whose type comes last, behind a flag with blanks around it. -/
def lateType : Fields :=
  [("negate", .str " true "), ("dimension", .str "site"), ("type", .str "in")]

theorem ofJson?_toJson_lateType :
    (Json.obj lateType).distinctKeys = true ∧
      ∃ f, decoder.ofJson? (.obj lateType) = some f ∧
        f.toJson = .obj [("type", .str "in"), ("negate", .bool true), ("dimension", .str "site")] ∧
        decoder.ofJson? f.toJson = some f := by
  have hdistinct : (Json.obj lateType).distinctKeys = true := by decide
  have hread : decoder.ofJson? (.obj lateType) =
      some ⟨.other "in", true, [("dimension", .str "site")]⟩ := by cbv
  obtain ⟨_, hforms⟩ := ofJson?_toJson hdistinct
  obtain ⟨written, hwritten, _, hagain⟩ := hforms _ hread
  exact ⟨hdistinct, _, hread, rfl, hwritten ▸ hagain⟩

end FilterDescriptor

end DruidPanels
