/-! # Cutting texts

What follows a known start of a text, the two sides of the first place where a mark
stands, and the longest run of characters of one kind at the start. -/

namespace DruidPanels.Text

/-- What follows `lead` at the start of a text. -/
def after? : List Char → List Char → Option (List Char)
  | [], cs => some cs
  | _ :: _, [] => none
  | p :: lead, c :: cs => if p = c then after? lead cs else none

theorem after?_eq_some_iff {lead cs rest : List Char} :
    after? lead cs = some rest ↔ cs = lead ++ rest := by
  induction lead generalizing cs with
  | nil => simp [after?]
  | cons p lead ih =>
    cases cs with
    | nil => simp [after?]
    | cons c cs =>
      by_cases h : p = c
      · simp [after?, h, ih]
      · simp [after?, h, Ne.symm h]

/-- The two sides of the first place where `mark` stands. -/
def splitAt? (mark : List Char) : List Char → Option (List Char × List Char)
  | [] => (after? mark []).map fun rest => ([], rest)
  | c :: cs =>
    match after? mark (c :: cs) with
    | some rest => some ([], rest)
    | none => (splitAt? mark cs).map fun (before, rest) => (c :: before, rest)

theorem eq_of_splitAt? {mark cs before rest : List Char}
    (h : splitAt? mark cs = some (before, rest)) : cs = before ++ mark ++ rest := by
  induction cs generalizing before with
  | nil =>
    obtain ⟨r, hr, he⟩ := Option.map_eq_some_iff.mp h
    cases he
    exact after?_eq_some_iff.mp hr
  | cons c cs ih =>
    simp only [splitAt?] at h
    split at h
    · next r hr =>
      cases h
      exact after?_eq_some_iff.mp hr
    · obtain ⟨⟨b, r⟩, hb, he⟩ := Option.map_eq_some_iff.mp h
      cases he
      simp [ih hb]

theorem length_of_splitAt? {mark cs before rest : List Char}
    (h : splitAt? mark cs = some (before, rest)) : rest.length ≤ cs.length := by
  rw [eq_of_splitAt? h]
  simp only [List.length_append]
  omega

/-! ## The first place of a mark -/

/-- `mark` stands in `cs` after `before`, with `rest` after it, and nowhere earlier. -/
def FirstAt (mark cs before rest : List Char) : Prop :=
  cs = before ++ mark ++ rest ∧
    ∀ before' rest', cs = before' ++ mark ++ rest' → before.length ≤ before'.length

/-- Wherever a mark stands, the cut is there or earlier. -/
theorem exists_splitAt?_of_append (mark before rest : List Char) :
    ∃ b r, splitAt? mark (before ++ mark ++ rest) = some (b, r) ∧ b.length ≤ before.length := by
  induction before with
  | nil =>
    have hafter : after? mark (mark ++ rest) = some rest := after?_eq_some_iff.mpr rfl
    refine ⟨[], rest, ?_, Nat.le_refl _⟩
    rw [List.nil_append]
    cases hcs : mark ++ rest with
    | nil =>
      rw [hcs] at hafter
      rw [splitAt?, hafter]
      rfl
    | cons c cs =>
      rw [hcs] at hafter
      rw [splitAt?, hafter]
  | cons c before ih =>
    obtain ⟨b, r, hsplit, hlength⟩ := ih
    simp only [List.cons_append, splitAt?]
    cases after? mark (c :: (before ++ mark ++ rest)) with
    | some r' => exact ⟨[], r', rfl, Nat.zero_le _⟩
    | none =>
      rw [hsplit]
      exact ⟨c :: b, r, rfl, Nat.succ_le_succ hlength⟩

theorem splitAt?_eq_some_iff {mark cs before rest : List Char} :
    splitAt? mark cs = some (before, rest) ↔ FirstAt mark cs before rest := by
  constructor
  · intro h
    refine ⟨eq_of_splitAt? h, ?_⟩
    rintro before' rest' rfl
    obtain ⟨b, r, hsplit, hlength⟩ := exists_splitAt?_of_append mark before' rest'
    cases h.symm.trans hsplit
    exact hlength
  · rintro ⟨rfl, hfirst⟩
    obtain ⟨b, r, hsplit, hlength⟩ := exists_splitAt?_of_append mark before rest
    have hcut := eq_of_splitAt? hsplit
    have hsame := Nat.le_antisymm hlength (hfirst b r hcut)
    simp only [List.append_assoc] at hcut
    obtain ⟨rfl, htail⟩ := List.append_inj hcut hsame.symm
    rw [hsplit, List.append_cancel_left htail]

/-! ## The longest run at the start of a text -/

theorem takeWhile_append_of_head {p : Char → Bool} {run rest : List Char}
    (hrun : ∀ c ∈ run, p c = true) (hrest : ∀ c ∈ rest.head?, p c = false) :
    (run ++ rest).takeWhile p = run := by
  have hstop : rest.takeWhile p = [] := by
    cases rest with
    | nil => rfl
    | cons c cs => simp [hrest c rfl]
  rw [List.takeWhile_append_of_pos hrun, hstop, List.append_nil]

theorem dropWhile_append_of_head {p : Char → Bool} {run rest : List Char}
    (hrun : ∀ c ∈ run, p c = true) (hrest : ∀ c ∈ rest.head?, p c = false) :
    (run ++ rest).dropWhile p = rest := by
  have hstop : rest.dropWhile p = rest := by
    cases rest with
    | nil => rfl
    | cons c cs => simp [hrest c rfl]
  rw [List.dropWhile_append_of_pos hrun, hstop]

end DruidPanels.Text
