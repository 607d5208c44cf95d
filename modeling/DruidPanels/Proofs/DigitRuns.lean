import DruidPanels.Text.Digits
import Mathlib.Algebra.Group.Nat.Defs
import Mathlib.Data.List.TakeWhile

/-! # Runs of digits

A run of digits is read as one number, less than the power of ten of its length. A reader
for so many digits, or for at most so many, takes a number of just that width
(`DigitsOf`) and leaves alone what follows it. -/

namespace DruidPanels.Text

/-! ## The number of a run -/

theorem readDigits_append (ds es : List Char) :
    readDigits (ds ++ es) = 10 ^ es.length * readDigits ds + readDigits es := by
  rw [readDigits, Nat.ofDigitChars_append, Nat.ofDigitChars_eq_ofDigitChars_zero]
  rfl

theorem readDigits_lt {ds : List Char} (h : ∀ c ∈ ds, c.isDigit = true) :
    readDigits ds < 10 ^ ds.length := by
  induction ds with
  | nil => decide
  | cons c ds ih =>
    obtain ⟨hc, hds⟩ := List.forall_mem_cons.mp h
    have hrest := ih hds
    have hfirst : readDigits [c] ≤ 9 := by
      have hrange : c.toNat ≤ 57 := (Char.isDigit_iff_toNat.mp hc).2
      simp only [readDigits, Nat.ofDigitChars_cons, Nat.ofDigitChars_nil]
      change 10 * 0 + (c.toNat - 48) ≤ 9
      omega
    have hsplit : readDigits (c :: ds) = 10 ^ ds.length * readDigits [c] + readDigits ds :=
      readDigits_append [c] ds
    have hmost : 10 ^ ds.length * readDigits [c] ≤ 10 ^ ds.length * 9 :=
      Nat.mul_le_mul_left _ hfirst
    rw [hsplit, List.length_cons, Nat.pow_succ]
    omega

theorem natural?_of_digits {ds : List Char} (hne : ds ≠ []) (h : ∀ c ∈ ds, c.isDigit = true) :
    natural? ds = some (readDigits ds) := by
  have hall : ds.all Char.isDigit = true := List.all_eq_true.mpr h
  rw [natural?, hall, List.isEmpty_eq_false_iff.mpr hne]
  rfl

theorem fixedDigits?_of_digits {ds : List Char} (hne : ds ≠ [])
    (h : ∀ c ∈ ds, c.isDigit = true) (rest : List Char) :
    fixedDigits? ds.length (ds ++ rest) = some (readDigits ds, rest) := by
  simp only [fixedDigits?, List.length_append, Nat.le_add_right, if_true, List.take_left,
    List.drop_left, natural?_of_digits hne h, Option.map_some]

/-- Enough room takes all digits that there are. -/
theorem upToDigits?_of_digits {ds : List Char} (hne : ds ≠ [])
    (h : ∀ c ∈ ds, c.isDigit = true) (rest : List Char) :
    upToDigits? ds.length (ds ++ rest) = some (readDigits ds, rest) := by
  have hrun : ds.takeWhile Char.isDigit = ds := List.takeWhile_eq_self_iff.mpr h
  have hsome : ds.isEmpty = false := List.isEmpty_eq_false_iff.mpr hne
  simp only [upToDigits?, digits, List.take_left, hrun, hsome, Bool.false_eq_true, if_false,
    List.drop_left]

/-! ## Numbers of fixed width -/

/-- The text writes a number in exactly so many digits. -/
structure DigitsOf (width n : Nat) (ds : List Char) : Prop where
  length_eq : ds.length = width
  isDigit : ∀ c ∈ ds, c.isDigit = true
  readDigits_eq : readDigits ds = n

namespace DigitsOf

variable {width n : Nat} {ds : List Char}

instance : Decidable (DigitsOf width n ds) :=
  decidable_of_iff (ds.length = width ∧ ds.all Char.isDigit = true ∧ readDigits ds = n)
    ⟨fun ⟨hlength, hdigits, hvalue⟩ => ⟨hlength, List.all_eq_true.mp hdigits, hvalue⟩,
      fun h => ⟨h.length_eq, List.all_eq_true.mpr h.isDigit, h.readDigits_eq⟩⟩

theorem lt (h : DigitsOf width n ds) : n < 10 ^ width := by
  have hlt := readDigits_lt h.isDigit
  rwa [h.length_eq, h.readDigits_eq] at hlt

theorem ne_nil (h : DigitsOf (width + 1) n ds) : ds ≠ [] :=
  List.ne_nil_of_length_eq_add_one h.length_eq

theorem fixedDigits?_append (h : DigitsOf (width + 1) n ds) (rest : List Char) :
    fixedDigits? (width + 1) (ds ++ rest) = some (n, rest) := by
  rw [← h.length_eq, fixedDigits?_of_digits h.ne_nil h.isDigit, h.readDigits_eq]

theorem fixedDigits?_self (h : DigitsOf (width + 1) n ds) :
    fixedDigits? (width + 1) ds = some (n, []) := by
  rw [← h.fixedDigits?_append [], List.append_nil]

theorem upToDigits?_append (h : DigitsOf (width + 1) n ds) (rest : List Char) :
    upToDigits? (width + 1) (ds ++ rest) = some (n, rest) := by
  rw [← h.length_eq, upToDigits?_of_digits h.ne_nil h.isDigit, h.readDigits_eq]

end DigitsOf

/-! ## Written numbers -/

theorem isDigit_of_mem_toDigits {n : Nat} {c : Char} (h : c ∈ Nat.toDigits 10 n) :
    c.isDigit = true :=
  Nat.isDigit_of_mem_toDigits (by decide) (by decide) h

theorem readDigits_toDigits (n : Nat) : readDigits (Nat.toDigits 10 n) = n :=
  Nat.ofDigitChars_ten_toDigits

theorem natural?_toDigits (n : Nat) : natural? (Nat.toDigits 10 n) = some n := by
  rw [natural?_of_digits Nat.toDigits_ne_nil fun _ => isDigit_of_mem_toDigits,
    readDigits_toDigits]

theorem upToDigits?_toDigits (n : Nat) :
    upToDigits? (Nat.toDigits 10 n).length (Nat.toDigits 10 n) = some (n, []) := by
  have h := upToDigits?_of_digits (Nat.toDigits_ne_nil (n := n) (b := 10))
    (fun _ => isDigit_of_mem_toDigits) []
  rwa [List.append_nil, readDigits_toDigits] at h

end DruidPanels.Text
