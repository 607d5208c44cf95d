/-! # Shortest decimals

A finite 64-bit float is `m · 2^q`. The decimals that read back as it form an
interval around it, whose ends belong to it exactly when `m` is even. Among the
decimals of that interval with the fewest digits, the one nearest to the float
is its text; of two equally near ones the even one. All of it is exact
arithmetic on natural numbers. -/

namespace DruidPanels.Decimal

def twoTo (n : Nat) : Nat := Nat.pow 2 n

def tenTo (n : Nat) : Nat := Nat.pow 10 n

/-- The number `digits · 10 ^ exponent`. -/
structure Scaled where
  digits : Nat
  exponent : Int
deriving DecidableEq, Repr

/-- A float taken apart: `mantissa · 2 ^ exponent` with a sign. -/
structure Binary where
  negative : Bool
  mantissa : Nat
  exponent : Int
deriving DecidableEq, Repr

namespace Binary

/-- The leading bit of a mantissa, which is not stored: 2 to the power 52. -/
def hiddenBit : Nat := 4503599627370496

/-- The parts of a finite float, read off its bits. -/
def ofFloat (x : Float) : Binary :=
  let bits : Nat := x.toBits.toNat
  let negative := bits / twoTo 63 = 1
  let biased : Nat := bits / hiddenBit % twoTo 11
  let fraction := bits % hiddenBit
  if biased = 0 then ⟨negative, fraction, -1074⟩
  else ⟨negative, hiddenBit + fraction, (biased : Int) - 1075⟩

/-- The integer part, rounded toward zero. -/
def truncate (b : Binary) : Int :=
  let magnitude :=
    if 0 ≤ b.exponent then b.mantissa * twoTo b.exponent.toNat
    else b.mantissa / twoTo (-b.exponent).toNat
  if b.negative then -(magnitude : Int) else magnitude

/-- The next float below is only half as far away as the next one above. -/
def unevenBelow (b : Binary) : Bool := b.mantissa = hiddenBit && b.exponent ≠ -1074

end Binary

/-- A positive fraction with the ends of its rounding interval over one denominator. -/
structure Interval where
  low : Nat
  value : Nat
  high : Nat
  denominator : Nat
  closed : Bool

/-- The decimals that read back as the float `b`. -/
def Binary.interval (b : Binary) : Interval :=
  let scale := twoTo (b.exponent - 2).toNat
  { low := (4 * b.mantissa - (if b.unevenBelow then 1 else 2)) * scale
    value := 4 * b.mantissa * scale
    high := (4 * b.mantissa + 2) * scale
    denominator := twoTo (2 - b.exponent).toNat
    closed := b.mantissa % 2 = 0 }

namespace Interval

/-- `digits · 10 ^ exponent` lies in the interval. -/
def contains (i : Interval) (s : Scaled) : Bool :=
  let point := s.digits * tenTo s.exponent.toNat * i.denominator
  let unit := tenTo (-s.exponent).toNat
  if i.closed then i.low * unit ≤ point && point ≤ i.high * unit
  else i.low * unit < point && point < i.high * unit

/-- The grid points of step `10 ^ exponent` next to the value, with twice the
remainder and the step it is measured in. -/
def neighbours (i : Interval) (exponent : Int) : Nat × Nat × Nat :=
  let above := i.value * tenTo (-exponent).toNat
  let step := i.denominator * tenTo exponent.toNat
  (above / step, 2 * (above % step), step)

/-- The grid point of step `10 ^ exponent` in the interval that is nearest to the value. -/
def nearest? (i : Interval) (exponent : Int) : Option Scaled :=
  let (floor, twice, step) := i.neighbours exponent
  let below : Scaled := ⟨floor, exponent⟩
  let above : Scaled := ⟨floor + 1, exponent⟩
  let preferBelow := twice < step || (twice == step && floor % 2 == 0)
  match i.contains below, i.contains above with
  | true, true => some (if preferBelow then below else above)
  | true, false => some below
  | false, true => some above
  | false, false => none

/-- The least `e` with `value < 10 ^ e`, for values that a float can have. -/
def magnitude (i : Interval) : Int :=
  if i.denominator ≤ i.value then (Nat.toDigits 10 (i.value / i.denominator)).length
  else
    match (List.range 330).find? fun j => i.denominator ≤ i.value * tenTo (j + 1) with
    | some j => -(j : Int)
    | none => -330

end Interval

/-- Seventeen digits tell every float from its neighbours. -/
def digitBound : Nat := 17

/-- The shortest decimal that reads back as the positive float `b`. -/
def shortest (b : Binary) : Scaled :=
  let i := b.interval
  let top := i.magnitude
  ((List.range digitBound).findSome? fun n : Nat => i.nearest? (top - (n + 1 : Int))).getD ⟨0, 0⟩

end DruidPanels.Decimal
