import Mathlib.Data.List.Forall2

/-! # Step by step and item by item

A computation that may fail and succeeds has succeeded in all of its steps. What is read
of a list item by item is read of all items, or fails as one of them does, and lists whose
items match have the same images. Where items that cannot be read are passed over, they
leave no trace (`sifts_iff`). -/

namespace DruidPanels.Itemwise

variable {ε α β γ : Type}

theorem ok_bind (a : α) (f : α → Except ε β) : (.ok a >>= f : Except ε β) = f a := rfl

theorem bind_eq_ok_iff {x : Except ε α} {f : α → Except ε β} {b : β} :
    (x >>= f) = .ok b ↔ ∃ a, x = .ok a ∧ f a = .ok b := by
  cases x with
  | error e => exact ⟨nofun, fun ⟨_, h, _⟩ => nomatch h⟩
  | ok a =>
    constructor
    · intro h
      exact ⟨a, rfl, h⟩
    · rintro ⟨_, h, hf⟩
      cases h
      exact hf

theorem map_eq_ok_iff {x : Except ε α} {f : α → β} {b : β} :
    x.map f = .ok b ↔ ∃ a, x = .ok a ∧ f a = b := by
  cases x with
  | error e => exact ⟨nofun, fun ⟨_, h, _⟩ => nomatch h⟩
  | ok a =>
    constructor
    · intro h
      exact ⟨a, rfl, Except.ok.inj h⟩
    · rintro ⟨_, h, rfl⟩
      cases h
      rfl

theorem mapM_eq_ok_iff {read : α → Except ε β} {items : List α} {rows : List β} :
    items.mapM read = .ok rows ↔ List.Forall₂ (fun a b => read a = .ok b) items rows := by
  induction items generalizing rows with
  | nil =>
    constructor
    · intro h
      cases h
      exact .nil
    · intro h
      cases h
      rfl
  | cons a rest ih =>
    rw [List.mapM_cons, bind_eq_ok_iff]
    constructor
    · rintro ⟨b, hb, h⟩
      obtain ⟨tail, htail, h⟩ := bind_eq_ok_iff.mp h
      cases h
      exact .cons hb (ih.mp htail)
    · intro h
      cases h with
      | cons hb hrest => exact ⟨_, hb, bind_eq_ok_iff.mpr ⟨_, ih.mpr hrest, rfl⟩⟩

/-- Reading a list fails as one of its items does. -/
theorem exists_of_mapM_eq_error {read : α → Except ε β} {items : List α} {e : ε}
    (h : items.mapM read = .error e) : ∃ a ∈ items, read a = .error e := by
  induction items with
  | nil => cases h
  | cons a rest ih =>
    rw [List.mapM_cons] at h
    cases hread : read a with
    | error e' =>
      rw [hread] at h
      cases h
      exact ⟨a, List.mem_cons_self, hread⟩
    | ok b =>
      rw [hread] at h
      cases hrest : rest.mapM read with
      | error e' =>
        rw [hrest] at h
        cases h
        obtain ⟨a', ha', hfails⟩ := ih hrest
        exact ⟨a', List.mem_cons_of_mem _ ha', hfails⟩
      | ok tail =>
        rw [hrest] at h
        cases h

theorem exists_mapM_eq_ok_iff {read : α → Except ε β} {items : List α} :
    (∃ rows, items.mapM read = .ok rows) ↔ ∀ a ∈ items, ∃ b, read a = .ok b := by
  constructor
  · intro hread
    obtain ⟨rows, hrows⟩ := hread
    have hall := mapM_eq_ok_iff.mp hrows
    induction hall with
    | nil => nofun
    | cons hb hrest ih => exact List.forall_mem_cons.mpr ⟨⟨_, hb⟩, ih (mapM_eq_ok_iff.mpr hrest)⟩
  · intro h
    cases hread : items.mapM read with
    | ok rows => exact ⟨rows, rfl⟩
    | error e =>
      obtain ⟨a, ha, hfails⟩ := exists_of_mapM_eq_error hread
      obtain ⟨b, hb⟩ := h a ha
      cases hfails.symm.trans hb

/-- A list is read up to the first of its items that fails: an item gives its failure to the
list if none before it fails otherwise. -/
theorem mapM_append_cons_eq_error {read : α → Except ε β} {before after : List α} {a : α} {e : ε}
    (hbefore : ∀ a' ∈ before, ∀ e', read a' = .error e' → e' = e) (h : read a = .error e) :
    (before ++ a :: after).mapM read = .error e := by
  induction before with
  | nil =>
    rw [List.nil_append, List.mapM_cons, h]
    rfl
  | cons first rest ih =>
    obtain ⟨hfirst, hrest⟩ := List.forall_mem_cons.mp hbefore
    rw [List.cons_append, List.mapM_cons, ih hrest]
    cases hread : read first with
    | error e' =>
      rw [hfirst e' hread]
      rfl
    | ok b => rfl

theorem map_mapM (read : α → Except ε β) (part : β → γ) (items : List α) :
    (items.mapM read).map (List.map part) = items.mapM fun a => (read a).map part := by
  induction items with
  | nil => rfl
  | cons a rest ih =>
    rw [List.mapM_cons, List.mapM_cons, ← ih]
    cases read a with
    | error e => rfl
    | ok b => cases rest.mapM read <;> rfl

theorem map_eq_map {f : α → γ} {g : β → γ} {as : List α} {bs : List β}
    (h : List.Forall₂ (fun a b => f a = g b) as bs) : as.map f = bs.map g := by
  rw [← List.forall₂_eq_eq_eq, List.forall₂_map_left_iff, List.forall₂_map_right_iff]
  exact h

theorem map_of_mapM {read : α → Except ε β} {part : β → γ} {key : α → γ}
    (hread : ∀ a b, read a = .ok b → part b = key a) {items : List α} {rows : List β}
    (h : items.mapM read = .ok rows) : rows.map part = items.map key :=
  (map_eq_map ((mapM_eq_ok_iff.mp h).imp fun a b hb => (hread a b hb).symm)).symm

/-- The results that items read as, in order. An item that reads as nothing gives none. -/
inductive Sifts (Reads : α → β → Prop) : List α → List β → Prop
  | nil : Sifts Reads [] []
  | kept {a : α} {b : β} {items : List α} {results : List β} (h : Reads a b)
      (rest : Sifts Reads items results) : Sifts Reads (a :: items) (b :: results)
  | dropped {a : α} {items : List α} {results : List β} (h : ∀ b, ¬ Reads a b)
      (rest : Sifts Reads items results) : Sifts Reads (a :: items) results

theorem sifts_iff {Reads : α → β → Prop} {read? : α → Option β} {items : List α}
    {results : List β} (hread : ∀ a ∈ items, ∀ b, read? a = some b ↔ Reads a b) :
    Sifts Reads items results ↔ items.filterMap read? = results := by
  constructor
  · intro h
    induction h with
    | nil => rfl
    | kept hreads _ ih =>
      obtain ⟨hfirst, hrest⟩ := List.forall_mem_cons.mp hread
      rw [List.filterMap_cons_some ((hfirst _).mpr hreads), ih hrest]
    | dropped hnot _ ih =>
      obtain ⟨hfirst, hrest⟩ := List.forall_mem_cons.mp hread
      rw [List.filterMap_cons_none, ih hrest]
      exact Option.eq_none_iff_forall_ne_some.mpr fun b hb => hnot b ((hfirst b).mp hb)
  · rintro rfl
    induction items with
    | nil => exact .nil
    | cons a rest ih =>
      obtain ⟨hfirst, hrest⟩ := List.forall_mem_cons.mp hread
      cases ha : read? a with
      | some b =>
        rw [List.filterMap_cons_some ha]
        exact .kept ((hfirst b).mp ha) (ih hrest)
      | none =>
        rw [List.filterMap_cons_none ha]
        exact .dropped (fun b hb => nomatch ha.symm.trans ((hfirst b).mpr hb)) (ih hrest)

end DruidPanels.Itemwise
