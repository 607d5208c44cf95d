import DruidPanels.Text.Cut

/-! # Template variables

A text may refer to variables as `$name`, `${name}`, `${name:format}` or
`[[name]]`. Expansion is one pass from left to right: at each position a
reference to a known variable is replaced by its value and skipped, and anything
else is copied one character at a time. -/

namespace DruidPanels

/-- Template variables, as names with their values. Of a repeated name the last
value counts. -/
structure Variables where
  entries : List (String × String)
deriving DecidableEq, Repr

namespace Variables

def empty : Variables := ⟨[]⟩

def value? (vars : Variables) (name : List Char) : Option (List Char) :=
  (vars.entries.reverse.lookup (String.ofList name)).map String.toList

/-- A character that can stand in the name of a `$name` reference. -/
def isNameChar (c : Char) : Bool := c.isAlphanum || c = '_'

/-- The name in the inside of a bracketed reference: what stands before any colon. -/
def innerName (inner : List Char) : List Char := inner.takeWhile (· ≠ ':')

/-- The reference at the start of a text: the name it writes and what follows it.
The bracketed forms count before the bare one. -/
def reference? (cs : List Char) : Option (List Char × List Char) :=
  match cs with
  | '$' :: '\x7b' :: rest =>
    (Text.splitAt? ['\x7d'] rest).map fun (inner, rest) => (innerName inner, rest)
  | '[' :: '[' :: rest =>
    (Text.splitAt? [']', ']'] rest).map fun (inner, rest) => (innerName inner, rest)
  | '$' :: rest =>
    if (rest.takeWhile isNameChar).isEmpty then none
    else some (rest.takeWhile isNameChar, rest.dropWhile isNameChar)
  | _ => none

/-- The value of the reference at the start of a text, if it is to a known variable,
and what follows it. -/
def expansion? (vars : Variables) (cs : List Char) : Option (List Char × List Char) := do
  let (name, rest) ← reference? cs
  return (← vars.value? name, rest)

theorem length_of_reference? {cs name rest : List Char}
    (h : reference? cs = some (name, rest)) : rest.length < cs.length := by
  unfold reference? at h
  split at h
  · obtain ⟨⟨b, r⟩, hb, he⟩ := Option.map_eq_some_iff.mp h
    have := Text.length_of_splitAt? hb
    simp_all only [Prod.mk.injEq, List.length_cons]
    omega
  · obtain ⟨⟨b, r⟩, hb, he⟩ := Option.map_eq_some_iff.mp h
    have := Text.length_of_splitAt? hb
    simp_all only [Prod.mk.injEq, List.length_cons]
    omega
  · next tail _ =>
    split at h
    · exact absurd h (by simp)
    · simp only [Option.some.injEq, Prod.mk.injEq] at h
      have := (List.dropWhile_sublist (p := isNameChar) (l := tail)).length_le
      rw [← h.2]
      simp only [List.length_cons]
      omega
  · exact absurd h (by simp)

theorem length_of_expansion? {vars : Variables} {cs value rest : List Char}
    (h : vars.expansion? cs = some (value, rest)) : rest.length < cs.length := by
  unfold expansion? at h
  obtain ⟨⟨name, r⟩, hr, hv⟩ := Option.bind_eq_some_iff.mp h
  obtain ⟨v, _, he⟩ := Option.bind_eq_some_iff.mp hv
  simp only [pure, Option.some.injEq, Prod.mk.injEq] at he
  rw [← he.2]
  exact length_of_reference? hr

/-- Expands every reference to a known variable. Inserted values are not looked at
again. -/
def scan (vars : Variables) (cs : List Char) : List Char :=
  match _h : vars.expansion? cs with
  | some (value, rest) => value ++ scan vars rest
  | none =>
    match cs with
    | [] => []
    | c :: rest => c :: scan vars rest
termination_by cs.length
decreasing_by
  · exact length_of_expansion? _h
  · simp

/-- The text holds a character sequence that can open a reference. -/
def mayRefer : List Char → Bool
  | [] => false
  | '$' :: _ => true
  | '[' :: '[' :: _ => true
  | _ :: rest => mayRefer rest

/-- Expands the variables in a text. A text that cannot refer to any is not scanned. -/
def expand (vars : Variables) (text : String) : String :=
  if vars.entries.isEmpty || !mayRefer text.toList then text
  else String.ofList (scan vars text.toList)

end Variables

end DruidPanels
