/-! # Decimal digit runs

Digits are the ASCII ones alone. A run is read as the natural number it
writes, leading zeros included. -/

namespace DruidPanels.Text

/-- Splits `cs` after its longest leading run of digits. -/
def digits (cs : List Char) : List Char × List Char :=
  (cs.takeWhile Char.isDigit, cs.dropWhile Char.isDigit)

/-- The number that a run of digits writes. -/
def readDigits (ds : List Char) : Nat := Nat.ofDigitChars 10 ds 0

/-- A nonempty text of digits only, as a number. -/
def natural? (cs : List Char) : Option Nat :=
  if !cs.isEmpty && cs.all Char.isDigit then some (readDigits cs) else none

/-- Exactly `n` leading digits, as a number, and what follows them. -/
def fixedDigits? (n : Nat) (cs : List Char) : Option (Nat × List Char) :=
  if n ≤ cs.length then (natural? (cs.take n)).map (·, cs.drop n) else none

/-- One to `most` leading digits, as many as there are, and what follows them. -/
def upToDigits? (most : Nat) (cs : List Char) : Option (Nat × List Char) :=
  let run := (digits (cs.take most)).1
  if run.isEmpty then none else some (readDigits run, cs.drop run.length)

/-- The value of a hexadecimal digit of either case. -/
def hexDigit? (c : Char) : Option Nat :=
  if c.isDigit then some (c.toNat - '0'.toNat)
  else if 'a' ≤ c ∧ c ≤ 'f' then some (c.toNat - 'a'.toNat + 10)
  else if 'A' ≤ c ∧ c ≤ 'F' then some (c.toNat - 'A'.toNat + 10)
  else none

end DruidPanels.Text
