import DruidPanels.Series
import Mathlib.Data.List.Induction
import Mathlib.Data.List.Nodup

/-! # Tables of named points

A table that grows point by point holds one series for each name, where the name first
came, and a series holds the points of its name in the order in which they came
(`tabulate_eq`). -/

namespace DruidPanels.Series

/-! ## Names where they first come -/

theorem eraseDups_append_singleton (names : List String) (name : String) :
    (names ++ [name]).eraseDups =
      if name ∈ names then names.eraseDups else names.eraseDups ++ [name] := by
  rw [List.eraseDups_append]
  by_cases h : name ∈ names
  · simp [List.removeAll, h]
  · simp [List.removeAll, h, List.eraseDups_cons]

theorem nodup_eraseDups (names : List String) : names.eraseDups.Nodup := by
  induction names using List.reverseRecOn with
  | nil => exact List.nodup_nil
  | append_singleton names name ih =>
    rw [eraseDups_append_singleton]
    split
    · exact ih
    · next h =>
      have hnew : name ∉ names.eraseDups := fun hm => h (List.mem_eraseDups.mp hm)
      refine List.nodup_append.mpr ⟨ih, List.nodup_singleton name, ?_⟩
      intro a ha b hb hab
      rw [hab, List.mem_singleton.mp hb] at ha
      exact hnew ha

/-- Behind others, names that are left out already are left out again. -/
theorem eraseDups_append_eraseDups (front names : List String) :
    (front ++ names.eraseDups).eraseDups = (front ++ names).eraseDups := by
  induction names using List.reverseRecOn with
  | nil => rfl
  | append_singleton names name ih =>
    rw [eraseDups_append_singleton, ← List.append_assoc, eraseDups_append_singleton]
    by_cases h : name ∈ names
    · rw [if_pos h, if_pos (List.mem_append_right _ h), ih]
    · rw [if_neg h, ← List.append_assoc, eraseDups_append_singleton, ih]
      simp only [List.mem_append, List.mem_eraseDups]

/-! ## One point more -/

/-- A point comes behind those of its name, or opens a series behind the others. -/
theorem append_map {names : List String} (hnodup : names.Nodup) {points : String → List Point}
    {name : String} (hnew : name ∉ names → points name = []) (point : Point) :
    append name point (names.map fun n => ⟨n, points n⟩) =
      (if name ∈ names then names else names ++ [name]).map fun n =>
        ⟨n, points n ++ if n = name then [point] else []⟩ := by
  induction names with
  | nil => simp [append, hnew]
  | cons n rest ih =>
    obtain ⟨hn, hrest⟩ := List.nodup_cons.mp hnodup
    by_cases h : n = name
    · subst h
      -- no later series has the name, so the rest of the table stays
      have hothers : ∀ m ∈ rest, (⟨m, points m⟩ : Series) =
          ⟨m, points m ++ if m = n then [point] else []⟩ := by
        intro m hm
        have hmn : m ≠ n := fun hmn => hn (hmn ▸ hm)
        rw [if_neg hmn, List.append_nil]
      simp [append, List.map_congr_left hothers]
    · have htail := ih hrest fun hname => hnew (by simp [Ne.symm h, hname])
      simp only [List.map_cons, append, if_neg h, htail, List.mem_cons, Ne.symm h, false_or]
      split <;> simp [h]

theorem tabulate_append_singleton (points : List (String × Point)) (name : String)
    (point : Point) :
    tabulate (points ++ [(name, point)]) = append name point (tabulate points) := by
  simp [tabulate]

/-- The points of a name among named ones. -/
def pointsOf (points : List (String × Point)) (name : String) : List Point :=
  (points.filter fun p => p.1 = name).map (·.2)

theorem pointsOf_append (first second : List (String × Point)) (name : String) :
    pointsOf (first ++ second) name = pointsOf first name ++ pointsOf second name := by
  simp only [pointsOf, List.filter_append, List.map_append]

theorem pointsOf_append_singleton (points : List (String × Point)) (name : String)
    (point : Point) (n : String) :
    pointsOf (points ++ [(name, point)]) n =
      pointsOf points n ++ if n = name then [point] else [] := by
  rw [pointsOf_append]
  by_cases h : n = name
  · simp [pointsOf, h]
  · simp [pointsOf, h, Ne.symm h]

theorem pointsOf_eq_nil {points : List (String × Point)} {name : String}
    (h : name ∉ points.map (·.1)) : pointsOf points name = [] := by
  rw [pointsOf, List.map_eq_nil_iff, List.filter_eq_nil_iff]
  intro p hp hname
  exact h (List.mem_map.mpr ⟨p, hp, of_decide_eq_true hname⟩)

/-! ## All points -/

theorem tabulate_eq (points : List (String × Point)) :
    tabulate points =
      (points.map (·.1)).eraseDups.map fun name => ⟨name, pointsOf points name⟩ := by
  -- points arrive at the back, so the table grows along the reversed list
  induction points using List.reverseRecOn with
  | nil => rfl
  | append_singleton points last ih =>
    obtain ⟨name, point⟩ := last
    have hnew : name ∉ (points.map (·.1)).eraseDups → pointsOf points name = [] :=
      fun h => pointsOf_eq_nil fun hname => h (List.mem_eraseDups.mpr hname)
    rw [tabulate_append_singleton, ih, append_map (nodup_eraseDups _) hnew, List.map_append,
      List.map_singleton, eraseDups_append_singleton]
    simp only [List.mem_eraseDups, pointsOf_append_singleton]

/-- The names of a table are those of its points, each where it first came. -/
theorem names_tabulate (points : List (String × Point)) :
    (tabulate points).map (·.name) = (points.map (·.1)).eraseDups := by
  rw [tabulate_eq, List.map_map]
  exact List.map_id _

/-- The points of all series of a name. -/
def named (table : List Series) (name : String) : List Point :=
  (table.filter fun s => s.name = name).flatMap (·.points)

theorem named_tabulate (points : List (String × Point)) (name : String) :
    named (tabulate points) name = pointsOf points name := by
  have hfilter : (points.map (·.1)).eraseDups.filter (fun n => n = name) =
      List.replicate ((points.map (·.1)).eraseDups.count name) name := List.filter_eq name
  rw [named, tabulate_eq, List.filter_map]
  change ((List.filter (fun n => n = name) _).map _).flatMap _ = _
  rw [hfilter]
  by_cases h : name ∈ points.map (·.1)
  · rw [List.count_eq_one_of_mem (nodup_eraseDups _) (List.mem_eraseDups.mpr h)]
    simp
  · rw [List.count_eq_zero_of_not_mem fun hm => h (List.mem_eraseDups.mp hm), pointsOf_eq_nil h]
    rfl

theorem length_points_append (name : String) (point : Point) (table : List Series) :
    ((append name point table).flatMap (·.points)).length =
      (table.flatMap (·.points)).length + 1 := by
  induction table with
  | nil => rfl
  | cons s rest ih =>
    by_cases h : s.name = name
    · simp only [append, if_pos h, List.flatMap_cons, List.length_append, List.length_singleton]
      omega
    · simp only [append, if_neg h, List.flatMap_cons, List.length_append, ih]
      omega

/-- A table holds as many points as arrived. -/
theorem length_points_tabulate (points : List (String × Point)) :
    ((tabulate points).flatMap (·.points)).length = points.length := by
  induction points using List.reverseRecOn with
  | nil => rfl
  | append_singleton points last ih =>
    rw [tabulate_append_singleton, length_points_append, ih, List.length_append,
      List.length_singleton]

end DruidPanels.Series
