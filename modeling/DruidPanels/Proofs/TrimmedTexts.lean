import DruidPanels.Text.Blank
import DruidPanels.Text.Cut
import Mathlib.Data.List.DropRight

/-! # Trimmed texts

Trimming is undone by putting blanks around a text that has none at its ends
(`Text.Trimmed.trim_append`), and what it leaves of a text that is not blank is such a text
(`Text.trimmed_of_trimmed?`). A text is cut at its end in one way only, if all of a run of
characters goes (`Text.EndsIn.front_eq`). -/

namespace DruidPanels

namespace Text

/-! ## Blanks around a text -/

/-- There is a text, and neither of its ends is blank. -/
structure Trimmed (cs : List Char) : Prop where
  ne_nil : cs ≠ []
  head : ∀ c ∈ cs.head?, isBlank c = false
  last : ∀ c ∈ cs.getLast?, isBlank c = false

theorem trimmed_of_not_isBlank {cs : List Char} (hne : cs ≠ [])
    (h : ∀ c ∈ cs, isBlank c = false) : Trimmed cs where
  ne_nil := hne
  head := fun c hc => h c (List.mem_of_mem_head? hc)
  last := fun c hc => h c (List.mem_of_mem_getLast? hc)

theorem trimmed_singleton {c : Char} (h : isBlank c = false) : Trimmed [c] :=
  trimmed_of_not_isBlank (List.cons_ne_nil _ _) (List.forall_mem_singleton.mpr h)

theorem Trimmed.append {front back : List Char} (hfront : Trimmed front) (hback : Trimmed back)
    (middle : List Char) : Trimmed (front ++ (middle ++ back)) where
  ne_nil := List.append_ne_nil_of_left_ne_nil hfront.ne_nil _
  head := by
    rw [List.head?_append_of_ne_nil _ hfront.ne_nil]
    exact hfront.head
  last := by
    rw [← List.append_assoc, List.getLast?_append_of_ne_nil _ hback.ne_nil]
    exact hback.last

theorem Trimmed.trim_append {before core after : List Char} (h : Trimmed core)
    (hbefore : ∀ c ∈ before, isBlank c = true) (hafter : ∀ c ∈ after, isBlank c = true) :
    trim (String.ofList (before ++ (core ++ after))) = String.ofList core := by
  have hhead : ∀ c ∈ (core ++ after).head?, isBlank c = false := by
    rw [List.head?_append_of_ne_nil _ h.ne_nil]
    exact h.head
  have hlast : ∀ c ∈ core.reverse.head?, isBlank c = false := by
    rw [List.head?_reverse]
    exact h.last
  have hreverse : ∀ c ∈ after.reverse, isBlank c = true :=
    fun c hc => hafter c (List.mem_reverse.mp hc)
  rw [trim, dropEnds, String.toList_ofList, dropWhile_append_of_head hbefore hhead,
    List.reverse_append, dropWhile_append_of_head hreverse hlast, List.reverse_reverse]

/-! ## Runs at the end of a text -/

section EndsIn

variable {p : Char → Bool} {cs front run : List Char}

/-- A text ends in a run of characters, and the run is as long as it can be. -/
structure EndsIn (p : Char → Bool) (cs front run : List Char) : Prop where
  eq : cs = front ++ run
  run : ∀ c ∈ run, p c = true
  last : ∀ c ∈ front.getLast?, p c = false

theorem endsIn_rdropWhile (p : Char → Bool) (cs : List Char) :
    EndsIn p cs (cs.rdropWhile p) (cs.rtakeWhile p) where
  eq := List.rdropWhile_append_rtakeWhile.symm
  run := fun _ hc => List.mem_rtakeWhile_imp hc
  last := fun c hc => by
    obtain ⟨hne, rfl⟩ := List.mem_getLast?_eq_getLast hc
    exact Bool.eq_false_iff.mpr (List.rdropWhile_last_not p cs hne)

theorem EndsIn.rdropWhile_eq (h : EndsIn p cs front run) : cs.rdropWhile p = front := by
  have hhead : ∀ c ∈ front.reverse.head?, p c = false := by
    rw [List.head?_reverse]
    exact h.last
  have hrun : ∀ c ∈ run.reverse, p c = true := fun c hc => h.run c (List.mem_reverse.mp hc)
  rw [h.eq, List.rdropWhile, List.reverse_append, dropWhile_append_of_head hrun hhead,
    List.reverse_reverse]

theorem EndsIn.front_eq {front' run' : List Char} (h : EndsIn p cs front run)
    (h' : EndsIn p cs front' run') : front = front' :=
  h.rdropWhile_eq.symm.trans h'.rdropWhile_eq

end EndsIn

/-! ## What trimming leaves -/

theorem head?_mem_of_append {cs rest : List Char} {c : Char} (h : c ∈ cs.head?) :
    c ∈ (cs ++ rest).head? := by
  rw [List.head?_append, Option.mem_def.mp h]
  rfl

theorem trimmed_dropEnds {cs : List Char} (h : ¬ ∀ c ∈ cs, isBlank c = true) :
    Trimmed (dropEnds isBlank cs) where
  ne_nil := fun hnil => by
    have hrest : ∀ c ∈ cs.dropWhile isBlank, isBlank c = true :=
      List.rdropWhile_eq_nil_iff.mp hnil
    refine h fun c hc => ?_
    rw [← List.takeWhile_append_dropWhile (p := isBlank) (l := cs)] at hc
    exact (List.mem_append.mp hc).elim List.mem_takeWhile_imp (hrest c)
  head := fun c hc => by
    have hends := endsIn_rdropWhile isBlank (cs.dropWhile isBlank)
    have hhead : c ∈ (cs.dropWhile isBlank).head? := by
      rw [hends.eq]
      exact head?_mem_of_append hc
    have hnot := List.head?_dropWhile_not isBlank cs
    rw [Option.mem_def.mp hhead] at hnot
    simpa using hnot
  last := (endsIn_rdropWhile isBlank (cs.dropWhile isBlank)).last

theorem trim_trim (s : String) : trim (trim s) = trim s := by
  by_cases hblank : ∀ c ∈ s.toList, isBlank c = true
  · have hnothing : trim s = "" := by
      rw [trim, dropEnds, List.dropWhile_eq_nil_iff.mpr hblank]
      rfl
    rw [hnothing]
    rfl
  · have htrimmed := trimmed_dropEnds hblank
    simpa [trim] using htrimmed.trim_append (List.forall_mem_nil _) (List.forall_mem_nil _)

/-- What `trimmed?` gives is the text without the blanks at its ends. -/
theorem trimmed?_eq_some_iff {s t : String} :
    trimmed? s = some t ↔ blank s = false ∧ t.toList = dropEnds isBlank s.toList := by
  unfold trimmed? trim
  cases blank s with
  | true => exact iff_of_false nofun fun h => nomatch h.1
  | false =>
    rw [if_neg Bool.false_ne_true, Option.some_inj, ← String.toList_inj, String.toList_ofList]
    exact ⟨fun h => ⟨rfl, h.symm⟩, fun h => h.2.symm⟩

theorem trimmed_of_trimmed? {s t : String} (h : trimmed? s = some t) : Trimmed t.toList := by
  obtain ⟨hblank, hends⟩ := trimmed?_eq_some_iff.mp h
  rw [hends]
  refine trimmed_dropEnds fun hall => ?_
  rw [blank, List.all_eq_true.mpr hall] at hblank
  cases hblank

end Text

end DruidPanels
