import DruidPanels.Decimal.Shortest
import DruidPanels.Json.Value

/-! # The text of a JSON value

Compact text without blanks, object entries in their order. Strings escape the
quote, the backslash and the characters below U+0020; everything else stands for
itself. Floats are their shortest decimals. -/

namespace DruidPanels

/-- Where a float is written positionally, by the exponent of its first digit. -/
structure FloatLayout where
  leastPositional : Int
  greatestPositional : Int

/-- Positional from `0.00001` up to but not including `10000000000000000.0`. -/
def Json.floatLayout : FloatLayout := ⟨-5, 15⟩

namespace Decimal

/-- A digit text without the zeros at its end. -/
def significant (digits : List Char) : List Char :=
  (digits.reverse.dropWhile (· == '0')).reverse

/-- A positive decimal with a point and at least one digit on either side. -/
def positional (digits : List Char) (exponent : Int) : List Char :=
  let places := (exponent + 1).toNat
  if exponent < 0 then '0' :: '.' :: List.replicate (-exponent - 1).toNat '0' ++ digits
  else if digits.length ≤ places then
    digits ++ List.replicate (places - digits.length) '0' ++ ['.', '0']
  else digits.take places ++ '.' :: digits.drop places

/-- A positive decimal with one digit before the point and a signed exponent. -/
def scientific (digits : List Char) (exponent : Int) : List Char :=
  let fraction := digits.drop 1
  digits.take 1 ++ (if fraction.isEmpty then [] else '.' :: fraction) ++
    ['e', if exponent < 0 then '-' else '+'] ++ Nat.toDigits 10 exponent.natAbs

/-- The text of a finite float. -/
def floatText (layout : FloatLayout) (x : Float) : String :=
  let b := Binary.ofFloat x
  let magnitude :=
    if b.mantissa = 0 then ['0', '.', '0']
    else
      let s := shortest b
      let written := Nat.toDigits 10 s.digits
      let exponent := s.exponent + (written.length : Int) - 1
      let digits := significant written
      if layout.leastPositional ≤ exponent ∧ exponent ≤ layout.greatestPositional then
        positional digits exponent
      else scientific digits exponent
  String.ofList (if b.negative then '-' :: magnitude else magnitude)

end Decimal

def Number.text : Number → String
  | .int n => toString n
  | .float x => Decimal.floatText Json.floatLayout x

namespace Json

/-- A lower-case hexadecimal digit. -/
def hexDigit (n : Nat) : Char := if n < 10 then Char.ofNat (48 + n) else Char.ofNat (87 + n)

/-- A character inside a quoted text. -/
def escape (c : Char) : List Char :=
  if c = '"' then ['\\', '"']
  else if c = '\\' then ['\\', '\\']
  else if c = '\x08' then ['\\', 'b']
  else if c = '\t' then ['\\', 't']
  else if c = '\n' then ['\\', 'n']
  else if c = '\x0c' then ['\\', 'f']
  else if c = '\r' then ['\\', 'r']
  else if c.toNat < 0x20 then
    ['\\', 'u', '0', '0', hexDigit (c.toNat / 16), hexDigit (c.toNat % 16)]
  else [c]

def quote (s : String) : String :=
  String.ofList ('"' :: s.toList.flatMap escape ++ ['"'])

mutual

def text : Json → String
  | .null => "null"
  | .bool true => "true"
  | .bool false => "false"
  | .num n => n.text
  | .str s => quote s
  | .arr items => "[" ++ ",".intercalate (itemTexts items) ++ "]"
  | .obj fields => "\x7b" ++ ",".intercalate (entryTexts fields) ++ "\x7d"

def itemTexts : List Json → List String
  | [] => []
  | item :: rest => text item :: itemTexts rest

def entryTexts : List (String × Json) → List String
  | [] => []
  | (key, value) :: rest => (quote key ++ ":" ++ text value) :: entryTexts rest

end

end Json

end DruidPanels
