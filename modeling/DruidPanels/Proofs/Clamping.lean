import DruidPanels.Series
import Mathlib.Data.List.Forall2

/-! # Clamping series

A clamp moves the first point of a series up to the start of the window and leaves all else
in its place (`ClampedTo`). It does not look at the second point. So it keeps a series in
order of time exactly if no later point lies before the window too
(`clampStart_inOrder_iff`). -/

namespace DruidPanels.Series

/-- `c` is `s` but for the time of the first point, which is not before `time`. -/
structure ClampedTo (time : Int) (s c : Series) : Prop where
  name : c.name = s.name
  values : c.points.map (·.value) = s.points.map (·.value)
  later : c.points.tail = s.points.tail
  first : c.points.head?.map (·.time) = s.points.head?.map fun p => max p.time time

/-- The points follow one another in time. -/
def InOrder (s : Series) : Prop :=
  s.points.Pairwise fun earlier later => earlier.time ≤ later.time

instance (s : Series) : Decidable s.InOrder := inferInstanceAs (Decidable (List.Pairwise _ _))

theorem clampFirst_cons (time : Int) (name : String) (first : Point) (rest : List Point) :
    clampFirst time ⟨name, first :: rest⟩ =
      ⟨name, { first with time := max first.time time } :: rest⟩ := by
  simp only [clampFirst]
  split
  · next hbefore => rw [Int.max_eq_right (Int.le_of_lt hbefore)]
  · next hafter => rw [Int.max_eq_left (Int.not_lt.mp hafter)]

theorem clampedTo_clampFirst (time : Int) (s : Series) : ClampedTo time s (s.clampFirst time) := by
  obtain ⟨name, points⟩ := s
  cases points with
  | nil => exact ⟨rfl, rfl, rfl, rfl⟩
  | cons first rest =>
    rw [clampFirst_cons]
    exact ⟨rfl, rfl, rfl, rfl⟩

theorem clampFirst_clampFirst (time : Int) (s : Series) :
    (s.clampFirst time).clampFirst time = s.clampFirst time := by
  obtain ⟨name, points⟩ := s
  cases points with
  | nil => rfl
  | cons first rest => simp only [clampFirst_cons, Int.max_assoc, Int.max_self]

theorem inOrder_clampFirst_iff {s : Series} (h : s.InOrder) (time : Int) :
    (s.clampFirst time).InOrder ↔ ∀ p ∈ s.points.tail, time ≤ p.time := by
  obtain ⟨name, points⟩ := s
  cases points with
  | nil => exact iff_of_true h nofun
  | cons first rest =>
    obtain ⟨hfirst, hrest⟩ := List.pairwise_cons.mp h
    rw [clampFirst_cons]
    constructor
    · intro hclamped p hp
      have hmoved := (List.pairwise_cons.mp hclamped).1 p hp
      exact Int.le_trans (Int.le_max_right _ _) hmoved
    · intro hlater
      exact List.pairwise_cons.mpr
        ⟨fun p hp => Int.max_le.mpr ⟨hfirst p hp, hlater p hp⟩, hrest⟩

/-- **A clamp moves first points alone, and keeps the order of time only where no later
point lies before the window.** Series by series, the clamp of a table has the names, the
values and the later points of the table, and first points not before the second of the
window start. To clamp again changes nothing. And a series in order of time stays so if
and only if none of its later points lies before that second. -/
theorem clampStart_inOrder_iff (start : Instant) (table : List Series) :
    List.Forall₂ (fun s c => ClampedTo (start.seconds * 1000) s c ∧
        (s.InOrder → (c.InOrder ↔ ∀ p ∈ s.points.tail, start.seconds * 1000 ≤ p.time)))
      table (clampStart start table) ∧
    clampStart start (clampStart start table) = clampStart start table := by
  constructor
  · refine List.forall₂_map_right_iff.mpr (List.forall₂_same.mpr fun s _ => ?_)
    exact ⟨clampedTo_clampFirst _ s, fun h => inOrder_clampFirst_iff h _⟩
  · rw [clampStart, clampStart, List.map_map]
    exact List.map_congr_left fun s _ => clampFirst_clampFirst _ s

/-- A quarter into the sixth second of 1970. -/
def inSixthSecond : Instant := ⟨5, 250000000, by decide, by decide, by decide⟩

/-- A series with only its first point before that second. -/
def earlyFirst : Series := ⟨"edits", [⟨.ofInt 1, 1000⟩, ⟨.ofInt 2, 7000⟩]⟩

/-- A series with two points before that second. -/
def earlyPair : Series := ⟨"edits", [⟨.ofInt 1, 1000⟩, ⟨.ofInt 2, 2000⟩]⟩

theorem inOrder_clampStart_earlyFirst :
    earlyFirst.InOrder ∧ ∃ c, clampStart inSixthSecond [earlyFirst] = [c] ∧
      ClampedTo 5000 earlyFirst c ∧ c.InOrder := by
  have horder : earlyFirst.InOrder := by decide
  obtain ⟨hall, _⟩ := clampStart_inOrder_iff inSixthSecond [earlyFirst]
  obtain ⟨c, rest, ⟨hclamped, hiff⟩, hrest, htable⟩ := List.forall₂_cons_left_iff.mp hall
  cases hrest
  exact ⟨horder, c, htable, hclamped, (hiff horder).mpr (by decide)⟩

/-- Two early points are out of order after the clamp. -/
theorem not_inOrder_clampStart_earlyPair :
    earlyPair.InOrder ∧ ∃ c, clampStart inSixthSecond [earlyPair] = [c] ∧ ¬ c.InOrder :=
  ⟨by decide, _, rfl, by decide⟩

end DruidPanels.Series
