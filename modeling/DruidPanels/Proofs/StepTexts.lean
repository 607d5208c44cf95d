import DruidPanels.Text.Cut
import DruidPanels.Time.Steps

/-! # Texts of steps

What is written for a step is said here without a reader: a slash and the letter of a
unit, or a sign, an amount in digits and the letter (`Spells`). A text of several steps is
their texts one after the other (`SpellsAll`). Reading finds the steps that a text spells
and no other (`readAll_eq_iff`), and once a step is spelled, what follows it is read as a
text of its own (`readAll_append`). -/

namespace DruidPanels

namespace TimeUnit

/-- The letters that stand for a unit. -/
def letters : TimeUnit → List Char
  | .second => ['s']
  | .minute => ['m']
  | .hour => ['h', 'H']
  | .day => ['d']
  | .week => ['w']
  | .month => ['M']
  | .year => ['y']

theorem ofChar?_eq_some_iff {letter : Char} {unit : TimeUnit} :
    ofChar? letter = some unit ↔ letter ∈ unit.letters := by
  constructor
  · intro h
    unfold ofChar? at h
    split at h <;> cases h <;> decide
  · intro h
    cases unit with
    | hour =>
      rcases List.mem_cons.mp h with rfl | hcapital
      · rfl
      · cases List.mem_singleton.mp hcapital
        rfl
    | second | minute | day | week | month | year =>
      cases List.mem_singleton.mp h
      rfl

theorem isDigit_of_mem_letters {letter : Char} {unit : TimeUnit} (h : letter ∈ unit.letters) :
    letter.isDigit = false := by
  have hletters : unit.letters.all (!Char.isDigit ·) = true := by cases unit <;> rfl
  simpa using List.all_eq_true.mp hletters letter h

end TimeUnit

namespace Step

/-! ## What is written -/

/-- The text of an amount: its digits, or nothing for one. -/
inductive WritesAmount : List Char → Nat → Prop
  | one : WritesAmount [] 1
  | digits {run : List Char} (hne : run ≠ []) (hdigits : ∀ c ∈ run, c.isDigit = true)
      (hbound : Text.readDigits run ≤ amountBound) : WritesAmount run (Text.readDigits run)

/-- The text of a step. -/
inductive Spells : Step → List Char → Prop
  | round {unit : TimeUnit} {letter : Char} (hletter : letter ∈ unit.letters) :
      Spells (.round unit) ['/', letter]
  | shift {mark letter : Char} {sign : Int} {run : List Char} {amount : Nat} {unit : TimeUnit}
      (hsign : mark = '+' ∧ sign = 1 ∨ mark = '-' ∧ sign = -1)
      (hamount : WritesAmount run amount) (hletter : letter ∈ unit.letters) :
      Spells (.shift (sign * amount) unit) (mark :: (run ++ [letter]))

/-- The text of steps: their texts one after the other. -/
inductive SpellsAll : List Step → List Char → Prop
  | nil : SpellsAll [] []
  | cons {step : Step} {steps : List Step} {text rest : List Char} (hstep : Spells step text)
      (hrest : SpellsAll steps rest) : SpellsAll (step :: steps) (text ++ rest)

theorem WritesAmount.isDigit {run : List Char} {amount : Nat} (h : WritesAmount run amount) :
    ∀ c ∈ run, c.isDigit = true := by
  cases h with
  | one => exact nofun
  | digits hne hdigits hbound => exact hdigits

/-! ## Reading one step -/

theorem sign?_eq_some_iff {mark : Char} {sign : Int} :
    sign? mark = some sign ↔ mark = '+' ∧ sign = 1 ∨ mark = '-' ∧ sign = -1 := by
  unfold sign?
  constructor
  · intro h
    split at h
    · next hplus => cases h; exact .inl ⟨hplus, rfl⟩
    · split at h
      · next hminus => cases h; exact .inr ⟨hminus, rfl⟩
      · cases h
  · rintro (⟨rfl, rfl⟩ | ⟨rfl, rfl⟩) <;> rfl

theorem amount?_eq_some_iff {run : List Char} {amount : Nat}
    (hdigits : ∀ c ∈ run, c.isDigit = true) :
    amount? run = some amount ↔ WritesAmount run amount := by
  unfold amount?
  constructor
  · intro h
    split at h
    · next hempty =>
      cases h
      rw [List.isEmpty_iff.mp hempty]
      exact .one
    · next hne =>
      split at h
      · next hbound =>
        cases h
        exact .digits (fun hnil => hne (List.isEmpty_iff.mpr hnil)) hdigits hbound
      · cases h
  · intro h
    cases h with
    | one => rfl
    | digits hne _ hbound =>
      rw [if_neg (fun hempty => hne (List.isEmpty_iff.mp hempty)), if_pos hbound]

/-- The letter of a unit at the start of a text. -/
theorem unit_at_head_iff {cs rest : List Char} {unit : TimeUnit} :
    (∃ letter, cs.head? = some letter ∧ TimeUnit.ofChar? letter = some unit ∧ cs.tail = rest) ↔
      ∃ letter ∈ unit.letters, cs = letter :: rest := by
  constructor
  · rintro ⟨letter, hhead, hunit, rfl⟩
    cases cs with
    | nil => cases hhead
    | cons c cs =>
      cases hhead
      exact ⟨letter, TimeUnit.ofChar?_eq_some_iff.mp hunit, rfl⟩
  · rintro ⟨letter, hletter, rfl⟩
    exact ⟨letter, rfl, TimeUnit.ofChar?_eq_some_iff.mpr hletter, rfl⟩

theorem first?_slash_eq_some_iff {cs rest : List Char} {step : Step} :
    first? ('/' :: cs) = some (step, rest) ↔
      ∃ unit, step = .round unit ∧ ∃ letter ∈ unit.letters, cs = letter :: rest := by
  simp only [first?, Option.bind_eq_bind, Option.bind_eq_some_iff, Option.pure_def,
    Option.some.injEq, Prod.mk.injEq, ← unit_at_head_iff]
  constructor
  · rintro ⟨letter, hhead, unit, hunit, rfl, hrest⟩
    exact ⟨unit, rfl, letter, hhead, hunit, hrest⟩
  · rintro ⟨unit, rfl, letter, hhead, hunit, hrest⟩
    exact ⟨letter, hhead, unit, hunit, rfl, hrest⟩

theorem first?_mark_eq_some_iff {mark : Char} (hmark : mark ≠ '/') {cs rest : List Char}
    {step : Step} :
    first? (mark :: cs) = some (step, rest) ↔
      ∃ (sign : Int) (amount : Nat) (unit : TimeUnit), step = .shift (sign * amount) unit ∧
        sign? mark = some sign ∧ amount? (cs.takeWhile Char.isDigit) = some amount ∧
        ∃ letter ∈ unit.letters, cs.dropWhile Char.isDigit = letter :: rest := by
  simp only [first?, Text.digits, Option.bind_eq_bind, Option.bind_eq_some_iff, Option.pure_def,
    Option.some.injEq, Prod.mk.injEq, ← unit_at_head_iff]
  constructor
  · rintro ⟨sign, hsign, amount, hamount, letter, hhead, unit, hunit, rfl, hrest⟩
    exact ⟨sign, amount, unit, rfl, hsign, hamount, letter, hhead, hunit, hrest⟩
  · rintro ⟨sign, amount, unit, rfl, hsign, hamount, letter, hhead, hunit, hrest⟩
    exact ⟨sign, hsign, amount, hamount, letter, hhead, unit, hunit, rfl, hrest⟩

/-- The first step of a text is the one that its start spells. -/
theorem first?_eq_some_iff {cs rest : List Char} {step : Step} :
    first? cs = some (step, rest) ↔ ∃ text, Spells step text ∧ cs = text ++ rest := by
  constructor
  · intro h
    cases cs with
    | nil => cases h
    | cons mark cs =>
      by_cases hmark : mark = '/'
      · subst hmark
        obtain ⟨unit, rfl, letter, hletter, rfl⟩ := first?_slash_eq_some_iff.mp h
        exact ⟨_, .round hletter, rfl⟩
      · obtain ⟨sign, amount, unit, rfl, hsign, hamount, letter, hletter, hrest⟩ :=
          (first?_mark_eq_some_iff hmark).mp h
        have hdigits : ∀ c ∈ cs.takeWhile Char.isDigit, c.isDigit = true :=
          List.all_eq_true.mp List.all_takeWhile
        refine ⟨_, .shift (sign?_eq_some_iff.mp hsign)
          ((amount?_eq_some_iff hdigits).mp hamount) hletter, ?_⟩
        rw [List.cons_append, List.append_assoc, List.singleton_append, ← hrest,
          List.takeWhile_append_dropWhile]
  · rintro ⟨text, hspells, rfl⟩
    cases hspells with
    | round hletter => exact first?_slash_eq_some_iff.mpr ⟨_, rfl, _, hletter, rfl⟩
    | @shift mark letter sign run amount unit hsign hamount hletter =>
      have hmark : mark ≠ '/' := by
        rcases hsign with ⟨rfl, _⟩ | ⟨rfl, _⟩ <;> decide
      -- the letter ends the run of digits
      have hstop : ∀ c ∈ (letter :: rest).head?, c.isDigit = false := by
        intro c hc
        cases hc
        exact TimeUnit.isDigit_of_mem_letters hletter
      rw [List.cons_append, List.append_assoc, List.singleton_append]
      refine (first?_mark_eq_some_iff hmark).mpr ⟨sign, amount, unit, rfl,
        sign?_eq_some_iff.mpr hsign, ?_, letter, hletter, ?_⟩
      · rw [Text.takeWhile_append_of_head hamount.isDigit hstop]
        exact (amount?_eq_some_iff hamount.isDigit).mpr hamount
      · exact Text.dropWhile_append_of_head hamount.isDigit hstop

theorem Spells.ne_nil {step : Step} {text : List Char} (h : Spells step text) : text ≠ [] := by
  cases h <;> exact List.cons_ne_nil _ _

theorem length_of_first? {cs rest : List Char} {step : Step}
    (h : first? cs = some (step, rest)) : rest.length < cs.length := by
  obtain ⟨text, hspells, rfl⟩ := first?_eq_some_iff.mp h
  have := List.length_pos_iff.mpr hspells.ne_nil
  rw [List.length_append]
  omega

/-! ## Reading all steps -/

/-- The bound on the number of steps does not matter once it is the length of the text. -/
theorem readUpTo_eq {bound : Nat} {cs : List Char} (h : cs.length ≤ bound) :
    readUpTo bound cs = readAll cs := by
  suffices hsame : ∀ bound' cs', cs'.length ≤ bound → cs'.length ≤ bound' →
      readUpTo bound cs' = readUpTo bound' cs' from hsame _ _ h (Nat.le_refl _)
  clear h cs
  induction bound with
  | zero =>
    intro bound' cs hbound _
    rw [List.eq_nil_of_length_eq_zero (Nat.le_zero.mp hbound)]
    simp only [readUpTo]
  | succ bound ih =>
    intro bound' cs hbound hbound'
    cases cs with
    | nil => simp only [readUpTo]
    | cons c cs =>
      cases bound' with
      | zero => cases hbound'
      | succ bound' =>
        simp only [readUpTo]
        cases hfirst : first? (c :: cs) with
        | none => rfl
        | some found =>
          have hshorter := length_of_first? hfirst
          simp only [ih bound' found.2 (by omega) (by omega)]

/-- What follows a step is read as a text of its own. -/
theorem Spells.readAll_append {step : Step} {text : List Char} (h : Spells step text)
    (rest : List Char) :
    readAll (text ++ rest) = (step :: (readAll rest).1, (readAll rest).2) := by
  have hfirst : first? (text ++ rest) = some (step, rest) := first?_eq_some_iff.mpr ⟨text, h, rfl⟩
  have hshorter := length_of_first? hfirst
  unfold readAll
  cases hcs : text ++ rest with
  | nil => rw [hcs] at hshorter; cases hshorter
  | cons c cs =>
    rw [hcs] at hfirst hshorter
    simp only [List.length_cons, readUpTo, hfirst]
    rw [readUpTo_eq (by simpa [Nat.lt_succ_iff] using hshorter)]
    rfl

theorem readAll_append {steps : List Step} {text : List Char} (h : SpellsAll steps text)
    (rest : List Char) :
    readAll (text ++ rest) = (steps ++ (readAll rest).1, (readAll rest).2) := by
  induction h with
  | nil => rfl
  | cons hstep _ ih => rw [List.append_assoc, hstep.readAll_append, ih, List.cons_append]

theorem spellsAll_of_readUpTo {bound : Nat} {cs : List Char}
    (h : (readUpTo bound cs).2 = true) : SpellsAll (readUpTo bound cs).1 cs := by
  fun_induction readUpTo bound cs with
  | case1 => exact .nil
  | case2 => cases h
  | case3 bound cs hne step rest hfirst steps complete hrest ih =>
    obtain ⟨text, hspells, rfl⟩ := first?_eq_some_iff.mp hfirst
    rw [hrest] at ih
    exact .cons hspells (ih h)
  | case4 => cases h

/-- **A text is read as the steps that it spells.** -/
theorem readAll_eq_iff {steps : List Step} {text : List Char} :
    readAll text = (steps, true) ↔ SpellsAll steps text := by
  constructor
  · intro h
    have hspells : (readAll text).2 = true → SpellsAll (readAll text).1 text :=
      spellsAll_of_readUpTo
    rw [h] at hspells
    exact hspells rfl
  · intro h
    have hread := readAll_append h []
    rw [List.append_nil] at hread
    rw [hread, show readAll [] = ([], true) from rfl, List.append_nil]

end Step

end DruidPanels
