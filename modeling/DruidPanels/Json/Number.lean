import DruidPanels.Text.Digits
import DruidPanels.Json.Value
import DruidPanels.Word

/-! # Number literals

A literal is a sign, integer digits, and perhaps a fraction and an exponent. As
a float it keeps the leading digits that fit into sixty-four bits: integer
digits beyond them count as zeros, fraction digits beyond them are dropped. What
is kept is then multiplied or divided by a power of ten in floating point. -/

namespace DruidPanels

/-- A number as it is written. -/
structure Literal where
  negative : Bool
  whole : List Char
  fraction : Option (List Char)
  /-- The sign of the exponent (`true` for a minus) and its digits. -/
  exponent : Option (Bool × List Char)

namespace Literal

/-- Exponents are held to this magnitude. -/
def exponentBound : Nat := 2147483647

/-- Appends digits to a significand for as long as it stays a word; the digits that
no longer fit are left over. -/
def absorb (significand : Nat) : List Char → Nat × List Char
  | [] => (significand, [])
  | d :: rest =>
    let next := significand * 10 + Text.readDigits [d]
    if next < Word.size then absorb next rest else (significand, d :: rest)

/-- Significand and decimal exponent of the digits before any written exponent. -/
def significand (l : Literal) : Nat × Int :=
  let (whole, extra) := absorb 0 l.whole
  let fraction := l.fraction.getD []
  let (all, dropped) := absorb whole fraction
  (all, (extra.length : Int) - (fraction.length - dropped.length : Nat))

/-- Ten to the power `n`, to the nearest float. -/
def powerOfTen (n : Nat) : Float := Float.ofScientific 1 false n

def scaleDown (x : Float) (n : Nat) : Float :=
  if x == 0 then x
  else if n ≤ 308 then x / powerOfTen n
  else scaleDown (x / powerOfTen 308) (n - 308)
termination_by n

/-- Multiplies by ten to the power `n`, unless that overflows. -/
def scaleUp? (x : Float) (n : Nat) : Option Float :=
  if n ≤ 308 then
    let scaled := x * powerOfTen n
    if scaled.isInf then none else some scaled
  else if x == 0 then some x
  else none

/-- The magnitude as a float; nothing if it is out of range. -/
def magnitude? (l : Literal) : Option Float :=
  let (significand, exponent) := l.significand
  let x := (UInt64.ofNat significand).toFloat
  let shifted := match l.exponent with
    | none => some exponent
    | some (minus, digits) =>
      let written := Text.readDigits digits
      if exponentBound < written then none
      else if minus then some (exponent - written) else some (exponent + written)
  match shifted, l.exponent with
  | some e, _ => if 0 ≤ e then scaleUp? x e.toNat else some (scaleDown x (-e).toNat)
  | none, some (false, _) => if significand = 0 then some 0 else none
  | none, _ => some 0

/-- The literal as a float; nothing if it is out of range. -/
def float? (l : Literal) : Option Float :=
  l.magnitude?.map fun x => if l.negative then -x else x

def value? (l : Literal) : Option Number :=
  let whole := Text.readDigits l.whole
  let integral := l.fraction.isNone && l.exponent.isNone
  if integral && !l.negative && whole < Word.size then some (.int whole)
  else if integral && l.negative && 0 < whole && Word.fits (-whole) then some (.int (-whole))
  else l.float?.map .float

end Literal

end DruidPanels
