import DruidPanels.Template

/-! # Expansion is one pass

What a reference is and what one pass over a text does with it are said here without a
scanner: a text opens with a reference in one of three written forms (`Opens`), and a
pass replaces the references to known variables that it meets and copies all else
(`Expands`). The scan does this pass and no other (`scan_eq_iff`), whether the text is
scanned or handed back unread (`expand_eq_iff`). -/

namespace DruidPanels

namespace Variables

/-! ## References -/

/-- The name in the inside of a bracketed reference is the inside, or what stands before
its first colon. -/
def NameIn (inner name : List Char) : Prop :=
  ':' ∉ name ∧ (inner = name ∨ ∃ format, inner = name ++ ':' :: format)

/-- A text opens with a reference: the text, the name that the reference writes and what
follows it. A bracketed form ends at the first closing bracket; a bare one takes all name
characters that there are. -/
inductive Opens : List Char → List Char → List Char → Prop
  | braces {text inner name rest : List Char} (hinner : Text.FirstAt ['\x7d'] text inner rest)
      (hname : NameIn inner name) : Opens ('$' :: '\x7b' :: text) name rest
  | brackets {text inner name rest : List Char}
      (hinner : Text.FirstAt [']', ']'] text inner rest) (hname : NameIn inner name) :
      Opens ('[' :: '[' :: text) name rest
  | bare {name rest : List Char} (hne : name ≠ []) (hname : ∀ c ∈ name, isNameChar c = true)
      (hrest : ∀ c ∈ rest.head?, isNameChar c = false) : Opens ('$' :: (name ++ rest)) name rest

theorem nameIn_innerName (inner : List Char) : NameIn inner (innerName inner) := by
  induction inner with
  | nil => exact ⟨nofun, .inl rfl⟩
  | cons c inner ih =>
    by_cases hc : c = ':'
    · subst hc
      exact ⟨nofun, .inr ⟨inner, rfl⟩⟩
    · have hcons : innerName (c :: inner) = c :: innerName inner := by simp [innerName, hc]
      obtain ⟨hcolon, hparts⟩ := ih
      rw [hcons]
      refine ⟨by simp [hcolon, Ne.symm hc], ?_⟩
      rcases hparts with hwhole | ⟨format, hformat⟩
      · exact .inl (congrArg _ hwhole)
      · exact .inr ⟨format, congrArg _ hformat⟩

theorem innerName_eq_iff {inner name : List Char} :
    innerName inner = name ↔ NameIn inner name := by
  constructor
  · rintro rfl
    exact nameIn_innerName inner
  · rintro ⟨hcolon, hparts⟩
    have hname : ∀ c ∈ name, decide (c ≠ ':') = true := by
      intro c hc
      exact decide_eq_true fun h => hcolon (h ▸ hc)
    rcases hparts with rfl | ⟨format, rfl⟩
    · rw [innerName, ← List.append_nil inner, List.takeWhile_append_of_pos hname]
      rfl
    · exact Text.takeWhile_append_of_head hname (by simp)

/-- A bare reference is looked for where no bracket opens. -/
theorem reference?_dollar {rest : List Char} (h : rest.head? ≠ some '{') :
    reference? ('$' :: rest) =
      if (rest.takeWhile isNameChar).isEmpty then none
      else some (rest.takeWhile isNameChar, rest.dropWhile isNameChar) := by
  cases rest with
  | nil => rfl
  | cons c cs =>
    have hc : c ≠ '{' := fun hc => h (congrArg some hc)
    simp [reference?, hc]

theorem opens_bare {run : List Char} (h : run.takeWhile isNameChar ≠ []) :
    Opens ('$' :: run) (run.takeWhile isNameChar) (run.dropWhile isNameChar) := by
  have hrest : ∀ c ∈ (run.dropWhile isNameChar).head?, isNameChar c = false := by
    intro c hc
    have hstop := List.head?_dropWhile_not isNameChar run
    rw [Option.mem_def.mp hc] at hstop
    exact hstop
  have hopens := Opens.bare h (List.all_eq_true.mp List.all_takeWhile) hrest
  rwa [List.takeWhile_append_dropWhile] at hopens

theorem reference?_eq_some_iff {cs name rest : List Char} :
    reference? cs = some (name, rest) ↔ Opens cs name rest := by
  constructor
  · intro h
    unfold reference? at h
    split at h
    · obtain ⟨⟨inner, after⟩, hcut, hname⟩ := Option.map_eq_some_iff.mp h
      cases hname
      exact .braces (Text.splitAt?_eq_some_iff.mp hcut) (nameIn_innerName inner)
    · obtain ⟨⟨inner, after⟩, hcut, hname⟩ := Option.map_eq_some_iff.mp h
      cases hname
      exact .brackets (Text.splitAt?_eq_some_iff.mp hcut) (nameIn_innerName inner)
    · next run _ =>
      split at h
      · cases h
      · next hne =>
        cases h
        exact opens_bare (by simpa using hne)
    · cases h
  · intro h
    cases h with
    | braces hinner hname =>
      rw [reference?, Text.splitAt?_eq_some_iff.mpr hinner, ← innerName_eq_iff.mpr hname]
      rfl
    | brackets hinner hname =>
      rw [reference?, Text.splitAt?_eq_some_iff.mpr hinner, ← innerName_eq_iff.mpr hname]
      rfl
    | bare hne hname hrest =>
      rw [reference?_dollar, Text.takeWhile_append_of_head hname hrest,
        Text.dropWhile_append_of_head hname hrest, if_neg (by simpa using hne)]
      -- an opening bracket is no name character, so it does not start the run
      rcases List.exists_cons_of_ne_nil hne with ⟨c, run, rfl⟩
      intro hbrace
      cases hbrace
      exact absurd (hname _ List.mem_cons_self) (by decide)

theorem expansion?_eq_some_iff {vars : Variables} {cs value rest : List Char} :
    vars.expansion? cs = some (value, rest) ↔
      ∃ name, Opens cs name rest ∧ vars.value? name = some value := by
  simp only [← reference?_eq_some_iff]
  unfold expansion?
  constructor
  · intro h
    obtain ⟨⟨name, after⟩, hname, hvalue⟩ := Option.bind_eq_some_iff.mp h
    obtain ⟨v, hv, hparts⟩ := Option.bind_eq_some_iff.mp hvalue
    cases hparts
    exact ⟨name, hname, hv⟩
  · rintro ⟨name, hname, hvalue⟩
    simp [hname, hvalue]

theorem expansion?_eq_none_iff {vars : Variables} {cs : List Char} :
    vars.expansion? cs = none ↔ ∀ name rest, Opens cs name rest → vars.value? name = none := by
  simp only [← reference?_eq_some_iff]
  unfold expansion?
  cases hread : reference? cs with
  | none => simp
  | some parts =>
    obtain ⟨name, after⟩ := parts
    cases hvalue : vars.value? name <;> simp [hvalue]

/-! ## The pass -/

/-- One pass over a text from left to right: a reference to a known variable gives its
value, and the pass goes on after it; where there is none, one character is copied. -/
inductive Expands (vars : Variables) : List Char → List Char → Prop
  | done : Expands vars [] []
  | value {cs name value rest out : List Char} (hopens : Opens cs name rest)
      (hvalue : vars.value? name = some value) (hrest : Expands vars rest out) :
      Expands vars cs (value ++ out)
  | copy {c : Char} {cs out : List Char}
      (hnone : ∀ name rest, Opens (c :: cs) name rest → vars.value? name = none)
      (hrest : Expands vars cs out) : Expands vars (c :: cs) (c :: out)

variable (vars : Variables)

theorem scan_nil : vars.scan [] = [] := by
  rw [scan]
  rfl

theorem scan_of_opens {cs name value rest : List Char} (hopens : Opens cs name rest)
    (hvalue : vars.value? name = some value) : vars.scan cs = value ++ vars.scan rest := by
  have hfound := expansion?_eq_some_iff.mpr ⟨name, hopens, hvalue⟩
  rw [scan]
  split
  · next hcs => cases hfound.symm.trans hcs; rfl
  · next hcs => cases hfound.symm.trans hcs

theorem scan_cons_of_none {c : Char} {cs : List Char}
    (hnone : ∀ name rest, Opens (c :: cs) name rest → vars.value? name = none) :
    vars.scan (c :: cs) = c :: vars.scan cs := by
  have hfound := expansion?_eq_none_iff.mpr hnone
  rw [scan]
  split
  · next hcs => cases hfound.symm.trans hcs
  · rfl

theorem expands_scan (cs : List Char) : Expands vars cs (vars.scan cs) := by
  fun_induction scan vars cs with
  | case1 cs value rest hfound ih =>
    obtain ⟨name, hopens, hvalue⟩ := expansion?_eq_some_iff.mp hfound
    exact .value hopens hvalue ih
  | case2 => exact .done
  | case3 c rest hfound ih => exact .copy (expansion?_eq_none_iff.mp hfound) ih

/-- A text has one pass, and the scan does it. -/
theorem scan_eq_iff {cs out : List Char} : vars.scan cs = out ↔ Expands vars cs out := by
  constructor
  · rintro rfl
    exact expands_scan vars cs
  · intro h
    induction h with
    | done => exact scan_nil vars
    | value hopens hvalue _ ih => rw [scan_of_opens vars hopens hvalue, ih]
    | copy hnone _ ih => rw [scan_cons_of_none vars hnone, ih]

/-- A text none of whose positions starts a known reference is copied. -/
theorem scan_eq_self {cs : List Char}
    (h : ∀ suffix, suffix <:+ cs → ∀ name rest, Opens suffix name rest →
      vars.value? name = none) : vars.scan cs = cs := by
  induction cs with
  | nil => exact scan_nil vars
  | cons c cs ih =>
    rw [scan_cons_of_none vars (h _ (List.suffix_refl _)),
      ih fun suffix hsuffix => h suffix (hsuffix.trans (List.suffix_cons c cs))]

/-! ## Texts that are not scanned -/

theorem mayRefer_iff {cs : List Char} :
    mayRefer cs = true ↔ '$' ∈ cs ∨ ['[', '['] <:+: cs := by
  fun_induction mayRefer cs with
  | case1 => simp
  | case2 rest => simp
  | case3 rest => simp [List.infix_cons_iff]
  | case4 c rest hdollar hbrackets ih =>
    have hnoBrackets : ¬ ['[', '['] <+: c :: rest := by
      rintro ⟨tail, htail⟩
      cases htail
      exact hbrackets tail rfl rfl
    rw [ih, List.mem_cons, List.infix_cons_iff]
    simp [hnoBrackets, Ne.symm hdollar]

theorem mayRefer_of_opens {cs name rest suffix : List Char} (hsuffix : suffix <:+ cs)
    (h : Opens suffix name rest) : mayRefer cs = true := by
  rw [mayRefer_iff]
  cases h with
  | braces hinner hname => exact .inl (hsuffix.subset List.mem_cons_self)
  | brackets hinner hname => exact .inr (List.IsInfix.trans ⟨[], _, rfl⟩ hsuffix.isInfix)
  | bare hne hname hrest => exact .inl (hsuffix.subset List.mem_cons_self)

theorem scan_of_not_refer {cs : List Char} (h : vars.entries = [] ∨ mayRefer cs = false) :
    vars.scan cs = cs := by
  refine scan_eq_self vars fun suffix hsuffix name rest hopens => ?_
  rcases h with hempty | hnever
  · simp [value?, hempty]
  · rw [mayRefer_of_opens hsuffix hopens] at hnever
    cases hnever

theorem toList_expand (text : String) : (vars.expand text).toList = vars.scan text.toList := by
  unfold expand
  split
  · next hskip =>
    rw [Bool.or_eq_true, List.isEmpty_iff, Bool.not_eq_true'] at hskip
    exact (scan_of_not_refer vars hskip).symm
  · exact String.toList_ofList

/-- The bare reference at the start of a text is the longest. -/
theorem eq_of_opens_bare {run rest name after : List Char} (hne : run ≠ [])
    (hrun : ∀ c ∈ run, isNameChar c = true) (hrest : ∀ c ∈ rest.head?, isNameChar c = false)
    (h : Opens ('$' :: (run ++ rest)) name after) : name = run ∧ after = rest := by
  have hbare := reference?_eq_some_iff.mpr (Opens.bare hne hrun hrest)
  cases hbare.symm.trans (reference?_eq_some_iff.mpr h)
  exact ⟨rfl, rfl⟩

theorem not_opens_of_nameChar {c : Char} {cs name rest : List Char} (hc : isNameChar c = true) :
    ¬ Opens (c :: cs) name rest := by
  intro h
  cases h <;> exact absurd hc (by decide)

/-- Name characters start no reference. -/
theorem scan_append_of_names {run : List Char} (hrun : ∀ c ∈ run, isNameChar c = true)
    (rest : List Char) : vars.scan (run ++ rest) = run ++ vars.scan rest := by
  induction run with
  | nil => rfl
  | cons c run ih =>
    have hc := hrun c List.mem_cons_self
    have hnone : ∀ name after, Opens (c :: (run ++ rest)) name after →
        vars.value? name = none :=
      fun name after h => absurd h (not_opens_of_nameChar hc)
    rw [List.cons_append, scan_cons_of_none vars hnone,
      ih fun c' hc' => hrun c' (List.mem_cons_of_mem _ hc'), List.cons_append]

/-- **Expansion is one pass.** For all variables, the expansion of a text is what one pass
over it gives and nothing else. So a value that is inserted is never looked at again;
a bare reference to an unknown name stays, whatever known names it starts with; a text
without a known reference stays; and a text that is handed back unread, since there are
no variables or nothing opens a reference, is what the scan would have given. -/
theorem expand_eq_iff :
    (∀ text out, (vars.expand text).toList = out ↔ Expands vars text.toList out) ∧
      (∀ text name value rest, Opens text.toList name rest → vars.value? name = some value →
        (vars.expand text).toList = value ++ (vars.expand (String.ofList rest)).toList) ∧
      (∀ run rest, run ≠ [] → (∀ c ∈ run, isNameChar c = true) →
        (∀ c ∈ rest.head?, isNameChar c = false) → vars.value? run = none →
        (vars.expand (String.ofList ('$' :: (run ++ rest)))).toList =
          '$' :: (run ++ (vars.expand (String.ofList rest)).toList)) ∧
      (∀ text, (∀ suffix, suffix <:+ text.toList → ∀ name rest, Opens suffix name rest →
        vars.value? name = none) → vars.expand text = text) ∧
      ∀ text, vars.entries = [] ∨ '$' ∉ text.toList ∧ ¬ ['[', '['] <:+: text.toList →
        vars.expand text = text ∧ vars.scan text.toList = text.toList := by
  have hself : ∀ text, vars.scan text.toList = text.toList → vars.expand text = text :=
    fun text h => String.toList_inj.mp ((toList_expand vars text).trans h)
  refine ⟨?_, ?_, ?_, ?_, ?_⟩
  · intro text out
    rw [toList_expand, scan_eq_iff]
  · intro text name value rest hopens hvalue
    rw [toList_expand, toList_expand, String.toList_ofList, scan_of_opens vars hopens hvalue]
  · intro run rest hne hrun hrest hunknown
    have hnone : ∀ name after, Opens ('$' :: (run ++ rest)) name after →
        vars.value? name = none := by
      intro name after h
      rw [(eq_of_opens_bare hne hrun hrest h).1, hunknown]
    rw [toList_expand, toList_expand, String.toList_ofList, String.toList_ofList,
      scan_cons_of_none vars hnone, scan_append_of_names vars hrun]
  · intro text h
    exact hself text (scan_eq_self vars h)
  · intro text h
    have hskipped : vars.entries = [] ∨ mayRefer text.toList = false := by
      rw [← Bool.not_eq_true, mayRefer_iff, not_or]
      exact h
    have hscan := scan_of_not_refer vars hskipped
    exact ⟨hself text hscan, hscan⟩

end Variables

end DruidPanels
