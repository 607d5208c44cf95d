import DruidPanels.Panel.Request
import DruidPanels.Proofs.DateMath
import DruidPanels.Proofs.DigitRuns
import DruidPanels.Proofs.TimeLine

/-! # Edges given as numbers

An edge that is a number of milliseconds is written out as an expression and read like
any other. From 1970 on its digits are read as that number again. Before 1970 the number
starts with a minus sign, which no notation of an instant takes there: the signed year of
a loose date takes the sign and the digits, and finds no month after them. So such an edge
is refused (`resolve_millis_eq_ok_iff`). -/

namespace DruidPanels

namespace Text

theorem dropEnds_eq_self {p : Char → Bool} {cs : List Char} (h : ∀ c ∈ cs, p c = false) :
    dropEnds p cs = cs := by
  have hdrop : ∀ ds : List Char, (∀ c ∈ ds, p c = false) → ds.dropWhile p = ds := by
    intro ds hds
    cases ds with
    | nil => rfl
    | cons c cs => exact List.dropWhile_cons_of_neg (by simp [hds c List.mem_cons_self])
  have hreverse : ∀ c ∈ cs.reverse, p c = false := fun c hc => h c (List.mem_reverse.mp hc)
  rw [dropEnds, hdrop cs h, hdrop cs.reverse hreverse, List.reverse_reverse]

/-- A hyphen makes a text more than a number. -/
theorem natural?_of_hyphen {cs : List Char} (h : '-' ∈ cs) : natural? cs = none := by
  have hall : cs.all Char.isDigit = false := List.all_eq_false.mpr ⟨'-', h, by decide⟩
  rw [natural?, hall, Bool.and_false]
  rfl

theorem fixedDigits?_hyphen (n : Nat) (cs : List Char) :
    fixedDigits? (n + 1) ('-' :: cs) = none := by
  unfold fixedDigits?
  split
  · rw [List.take_succ_cons, natural?_of_hyphen List.mem_cons_self]
    rfl
  · rfl

/-- A digit or a hyphen: the characters of an integer. -/
def isNumeral (c : Char) : Bool := c.isDigit || c = '-'

theorem toNat_of_isNumeral {c : Char} (h : isNumeral c = true) : 45 ≤ c.toNat ∧ c.toNat ≤ 57 := by
  rcases Bool.or_eq_true_iff.mp h with hdigit | hhyphen
  · have hrange : 48 ≤ c.toNat ∧ c.toNat ≤ 57 := Char.isDigit_iff_toNat.mp hdigit
    omega
  · rw [of_decide_eq_true hhyphen]
    decide

theorem ne_of_isNumeral {c d : Char} (h : isNumeral c = true) (hd : isNumeral d = false) :
    c ≠ d := by
  rintro rfl
  cases h.symm.trans hd

theorem not_isBlank_of_isNumeral {c : Char} (h : isNumeral c = true) : isBlank c = false := by
  have hrange := toNat_of_isNumeral h
  simp only [isBlank, blankRanges, Ranges.contains, List.any_cons, List.any_nil, Bool.or_false,
    Bool.or_eq_false_iff, Bool.and_eq_false_iff, decide_eq_false_iff_not]
  omega

/-- An integer is written as its digits, with a hyphen before them below zero. -/
theorem toList_toString (n : Int) : (toString n).toList =
    if 0 ≤ n then Nat.toDigits 10 n.toNat else '-' :: Nat.toDigits 10 (-n).toNat := by
  rw [Int.toString_eq_repr, Int.repr_eq_if]
  split
  · exact Nat.toList_repr
  · rw [String.toList_append, Nat.toList_repr]
    rfl

theorem isNumeral_of_mem_toString {n : Int} {c : Char} (h : c ∈ (toString n).toList) :
    isNumeral c = true := by
  have hdigits : ∀ m : Nat, c ∈ Nat.toDigits 10 m → isNumeral c = true := by
    intro m hm
    rw [isNumeral, isDigit_of_mem_toDigits hm, Bool.true_or]
  rw [toList_toString] at h
  split at h
  · exact hdigits _ h
  · rcases List.mem_cons.mp h with rfl | htail
    · rfl
    · exact hdigits _ htail

end Text

namespace Instant

/-! ## Reading numbers -/

theorem parse?_of_toDigits {text : String} {n : Nat} (h : text.toList = Nat.toDigits 10 n) :
    parse? text = ofMillis? n := by
  rw [parse?, h, Text.natural?_toDigits]

/-- A signed year takes all digits, so nothing is left for the month. -/
theorem looseDate?_hyphen_toDigits (n : Nat) : looseDate? ('-' :: Nat.toDigits 10 n) = none := by
  have hblank : Text.isBlank '-' = false := rfl
  have hyear : looseYear? ('-' :: Nat.toDigits 10 n) = some (-(n : Int), []) := by
    rw [looseYear?, List.dropWhile_cons_of_neg (by simp [hblank])]
    simp only [Text.upToDigits?_toDigits, Option.map_some]
  rw [looseDate?, hyear]
  rfl

theorem parse?_of_hyphen {text : String} {n : Nat} (h : text.toList = '-' :: Nat.toDigits 10 n) :
    parse? text = none := by
  have hdate := looseDate?_hyphen_toDigits n
  have hrfc : ofRfc3339? ('-' :: Nat.toDigits 10 n) = none := by
    rw [ofRfc3339?, Text.fixedDigits?_hyphen]
    rfl
  have htime : ofDateTime? ('-' :: Nat.toDigits 10 n) = none := by
    rw [ofDateTime?, hdate]
    rfl
  have hday : ofDateText? ('-' :: Nat.toDigits 10 n) = none := by
    rw [ofDateText?, hdate]
    rfl
  rw [parse?, h, Text.natural?_of_hyphen List.mem_cons_self, hrfc, htime, hday]
  rfl

theorem parse?_toString (ms : Int) :
    parse? (toString ms) = if 0 ≤ ms then ofMillis? ms else none := by
  have htext := Text.toList_toString ms
  split
  · next h =>
    rw [if_pos h] at htext
    rw [parse?_of_toDigits htext, Int.toNat_of_nonneg h]
  · next h =>
    rw [if_neg h] at htext
    exact parse?_of_hyphen htext

end Instant

namespace TimeExpression

theorem core_toString (ms : Int) : core (toString ms) = (toString ms).toList := by
  have hblank : Text.dropEnds Text.isBlank (toString ms).toList = (toString ms).toList :=
    Text.dropEnds_eq_self fun c hc =>
      Text.not_isBlank_of_isNumeral (Text.isNumeral_of_mem_toString hc)
  rw [core, hblank]
  refine Text.dropEnds_eq_self fun c hc => ?_
  exact beq_false_of_ne (Text.ne_of_isNumeral (Text.isNumeral_of_mem_toString hc) (by decide))

theorem refusal_toString (ms : Int) : refusal (toString ms) = .invalid (toString ms) := by
  have hne : (toString ms).toList ≠ [] := by
    rw [Text.toList_toString]
    split
    · exact Nat.toDigits_ne_nil
    · exact List.cons_ne_nil _ _
  rw [refusal, core_toString, if_neg (by rwa [List.isEmpty_iff]), String.ofList_toList]

theorem anchor?_toString (now : Instant) (ms : Int) :
    anchor? now (toString ms).toList = (Instant.parse? (toString ms)).map (·, []) := by
  have hnot : ∀ c, Text.isNumeral c = false → c ∉ (toString ms).toList :=
    fun c hc hmem => Text.ne_of_isNumeral (Text.isNumeral_of_mem_toString hmem) hc rfl
  have hnow : Text.after? "now".toList (toString ms).toList = none := by
    refine Option.eq_none_iff_forall_ne_some.mpr fun rest hrest => ?_
    have htext := Text.after?_eq_some_iff.mp hrest
    exact hnot 'n' rfl (htext ▸ List.mem_cons_self)
  have hmark : Text.splitAt? ['|', '|'] (toString ms).toList = none := by
    refine Option.eq_none_iff_forall_ne_some.mpr fun (before, rest) hrest => ?_
    have htext := Text.eq_of_splitAt? hrest
    refine hnot '|' rfl ?_
    rw [htext]
    simp
  rw [anchor?, hnow, hmark, String.ofList_toList]

theorem resolve_millis (now : Instant) (rounding : Rounding) (ms : Int) :
    resolve now rounding (RangeEdge.millis ms).expression =
      match if 0 ≤ ms then Instant.ofMillis? ms else none with
      | some t => .ok t
      | none => .error (TimeError.invalid (toString ms)).fault := by
  rw [RangeEdge.expression, resolve_eq, refusal_toString, core_toString, anchor?_toString,
    Instant.parse?_toString]
  -- no steps follow the instant
  cases (if 0 ≤ ms then Instant.ofMillis? ms else none) <;> rfl

/-- **Numbers of milliseconds are read from 1970 on.** Whatever the clock and the
direction, an edge given as a number of milliseconds is resolved exactly if the number is
not negative and the calendar has the instant that lies there, and then to that instant.
Every other one is refused as an expression that is not valid. -/
theorem resolve_millis_eq_ok_iff (now : Instant) (rounding : Rounding) (ms : Int) :
    (∀ t, resolve now rounding (RangeEdge.millis ms).expression = .ok t ↔
      0 ≤ ms ∧ t.AtMillis ms) ∧
    ∀ fault, resolve now rounding (RangeEdge.millis ms).expression = .error fault →
      fault = (TimeError.invalid (toString ms)).fault := by
  rw [resolve_millis]
  simp only [← Instant.ofMillis?_eq_some_iff]
  by_cases hms : 0 ≤ ms
  · rw [if_pos hms]
    cases Instant.ofMillis? ms <;> simp [hms, eq_comm]
  · rw [if_neg hms]
    simp [hms, eq_comm]

/-- The second before 1970. -/
def secondBefore1970 : Instant := ⟨-1, 0, by decide, by decide, Instant.epoch.nanos_lt⟩

/-- The calendar has the second before 1970, but an edge that gives it as a number is
refused. -/
theorem resolve_secondBefore1970 :
    secondBefore1970.AtMillis (-1000) ∧
      (∀ t, resolve .epoch .down (RangeEdge.millis (-1000)).expression ≠ .ok t) ∧
      resolve .epoch .down (RangeEdge.millis (-1000)).expression =
        .error (TimeError.invalid "-1000").fault := by
  obtain ⟨hiff, hrefused⟩ := resolve_millis_eq_ok_iff .epoch .down (-1000)
  have hnone : ∀ t, resolve .epoch .down (RangeEdge.millis (-1000)).expression ≠ .ok t :=
    fun t h => absurd ((hiff t).mp h).1 (by decide)
  refine ⟨⟨by decide, by decide⟩, hnone, ?_⟩
  cases hresult : resolve .epoch .down (RangeEdge.millis (-1000)).expression with
  | ok t => exact absurd hresult (hnone t)
  | error fault =>
    rw [hrefused fault hresult]
    rfl

end TimeExpression

end DruidPanels
