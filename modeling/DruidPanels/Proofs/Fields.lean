import DruidPanels.Query.Native

/-! # Looking up entries

What stands under a key of an object that was put together from parts, or into which
another entry was put. -/

namespace DruidPanels.Fields

@[simp] theorem get?_nil (key : String) : get? [] key = none := rfl

@[simp] theorem get?_cons (k : String) (value : Json) (rest : Fields) (key : String) :
    get? ((k, value) :: rest) key = if key = k then some value else get? rest key := by
  unfold get?
  rw [List.lookup_cons]
  by_cases h : key = k
  · rw [if_pos h, beq_iff_eq.mpr h]
  · rw [if_neg h, beq_eq_false_iff_ne.mpr h]

@[simp] theorem get?_append (first second : Fields) (key : String) :
    get? (first ++ second) key = (get? first key).or (get? second key) :=
  List.lookup_append

@[simp] theorem get?_entry? (k : String) (value : Option Json) (key : String) :
    get? ( entry? k value) key = if key = k then value else none := by
  unfold entry?
  cases value with
  | none => simp
  | some value => simp

theorem get?_insert (k : String) (value : Json) (fields : Fields) (key : String) :
    get? (insert k value fields) key = if key = k then some value else get? fields key := by
  induction fields with
  | nil => simp [insert]
  | cons entry rest ih =>
    obtain ⟨k', v⟩ := entry
    by_cases h : k' = k
    · subst h
      simp only [insert, if_true, get?_cons]
      split <;> rfl
    · simp only [insert, if_neg h, get?_cons, ih]
      split
      · next hk => rw [if_neg (hk ▸ h)]
      · rfl

end DruidPanels.Fields
