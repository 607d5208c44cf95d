import DruidPanels.Text.Blank
import DruidPanels.Text.Digits
import DruidPanels.Time.Instant

/-! # Written instants

Four notations are read, all in UTC unless they name an offset: milliseconds
from 1970 in digits, RFC 3339, a date with a time of day, and a date alone. The
last two are read loosely: numbers may have fewer digits and blanks before them,
and a sign opens years of any length. Instants are written in RFC 3339 with
milliseconds. -/

namespace DruidPanels

namespace Instant

/-! ## Reading -/

/-- Drops the character `c` from the start of a text. -/
def dropChar? (c : Char) : List Char → Option (List Char)
  | d :: rest => if d = c then some rest else none
  | [] => none

/-- The second of the day and the nanoseconds of a time of day. Second 60 is the leap
second after second 59. -/
def timeOfDay? (hour minute second nanos : Nat) : Option (Nat × Nat) :=
  if hour < 24 ∧ minute < 60 ∧ second ≤ 60 ∧ nanos < nanosPerSecond then
    let start := hour * 3600 + minute * 60
    some (if second = 60 then (start + 59, nanosPerSecond + nanos) else (start + second, nanos))
  else none

/-- The instant of a date and a time of day at `offset` seconds east of UTC. -/
def ofLocal? (date : Date) (time : Nat × Nat) (offset : Int) : Option Instant :=
  of? (date.toEpochDay * secondsPerDay + time.1 - offset) time.2

/-- The fraction of a second, if there is one: a point and at least one digit. Digits
beyond the ninth do not count. -/
def fraction? : List Char → Option (Nat × List Char)
  | '.' :: cs =>
    let (run, rest) := Text.digits cs
    let counted := run.take 9
    if run.isEmpty then none
    else some (Text.readDigits counted * Nat.pow 10 (9 - counted.length), rest)
  | cs => some (0, cs)

/-- The sign of an offset: a plus, a hyphen or U+2212. -/
def offsetSign? (c : Char) : Option Int :=
  if c = '+' then some 1 else if c = '-' ∨ c = '\u2212' then some (-1) else none

/-- An offset in seconds that makes up a whole text: a `Z`, or hours and minutes. -/
def offset? : List Char → Option Int
  | [] => none
  | c :: cs =>
    if c = 'Z' ∨ c = 'z' then if cs.isEmpty then some 0 else none
    else do
      let sign ← offsetSign? c
      let (hours, cs) ← Text.fixedDigits? 2 cs
      let cs ← dropChar? ':' cs
      let (minutes, cs) ← Text.fixedDigits? 2 cs
      if cs.isEmpty && hours < 24 && minutes < 60 then
        some (sign * (hours * 3600 + minutes * 60 : Nat))
      else none

/-- The character between date and time of day. -/
def isDivider (c : Char) : Bool := c = 'T' || c = 't' || c = ' '

def ofRfc3339? (cs : List Char) : Option Instant := do
  let (year, cs) ← Text.fixedDigits? 4 cs
  let cs ← dropChar? '-' cs
  let (month, cs) ← Text.fixedDigits? 2 cs
  let cs ← dropChar? '-' cs
  let (day, cs) ← Text.fixedDigits? 2 cs
  let (divider, cs) ← cs.head?.map (·, cs.tail)
  if !isDivider divider then none
  let (hour, cs) ← Text.fixedDigits? 2 cs
  let cs ← dropChar? ':' cs
  let (minute, cs) ← Text.fixedDigits? 2 cs
  let cs ← dropChar? ':' cs
  let (second, cs) ← Text.fixedDigits? 2 cs
  let (nanos, cs) ← fraction? cs
  let offset ← offset? cs
  ofLocal? (← Date.of? year month day) (← timeOfDay? hour minute second nanos) offset

/-- A year: up to four digits, or any number of them after a sign. -/
def looseYear? (cs : List Char) : Option (Int × List Char) :=
  match cs.dropWhile Text.isBlank with
  | '-' :: cs => (Text.upToDigits? cs.length cs).map fun (year, rest) => (-year, rest)
  | '+' :: cs => (Text.upToDigits? cs.length cs).map fun (year, rest) => (year, rest)
  | cs => (Text.upToDigits? 4 cs).map fun (year, rest) => (year, rest)

/-- A number of one or two digits, blanks before it passed over. -/
def looseNumber? (cs : List Char) : Option (Nat × List Char) :=
  Text.upToDigits? 2 (cs.dropWhile Text.isBlank)

/-- Reads a date, and gives what follows it. -/
def looseDate? (cs : List Char) : Option (Date × List Char) := do
  let (year, cs) ← looseYear? cs
  let cs ← dropChar? '-' cs
  let (month, cs) ← looseNumber? cs
  let cs ← dropChar? '-' cs
  let (day, cs) ← looseNumber? cs
  return (← Date.of? year month day, cs)

/-- Reads a time of day that makes up a whole text. -/
def looseTime? (cs : List Char) : Option (Nat × Nat) := do
  let (hour, cs) ← looseNumber? cs
  let cs ← dropChar? ':' cs
  let (minute, cs) ← looseNumber? cs
  let cs ← dropChar? ':' cs
  let (second, cs) ← looseNumber? cs
  if cs.isEmpty then timeOfDay? hour minute second 0 else none

/-- Reads a date and a time of day with any blanks between them, or none. -/
def ofDateTime? (cs : List Char) : Option Instant := do
  let (date, cs) ← looseDate? cs
  ofLocal? date (← looseTime? cs) 0

def ofDateText? (cs : List Char) : Option Instant := do
  let (date, cs) ← looseDate? cs
  if cs.isEmpty then ofDate? date else none

/-- Reads an instant in any notation. A text of digits alone is milliseconds and
nothing else. -/
def parse? (text : String) : Option Instant :=
  let cs := text.toList
  match Text.natural? cs with
  | some ms => ofMillis? ms
  | none => (ofRfc3339? cs).or ((ofDateTime? cs).or (ofDateText? cs))

/-! ## Writing -/

/-- A number in at least `width` digits. -/
def padded (width n : Nat) : List Char :=
  let digits := Nat.toDigits 10 n
  List.replicate (width - digits.length) '0' ++ digits

/-- A year in four digits, with a sign outside 0 to 9999. -/
def yearText (year : Int) : List Char :=
  if 0 ≤ year ∧ year ≤ 9999 then padded 4 year.toNat
  else (if year < 0 then '-' else '+') :: padded 4 year.natAbs

/-- RFC 3339 in UTC with milliseconds. A leap second is written as second 60. -/
def rfc3339 (t : Instant) : String :=
  let d := t.date
  let second := t.secondOfDay.toNat
  let leap := if t.isLeap then 1 else 0
  let fraction := t.nanos % nanosPerSecond / 1000000
  String.ofList <|
    yearText d.year ++ '-' :: padded 2 d.month ++ '-' :: padded 2 d.day ++
    'T' :: padded 2 (second / 3600) ++ ':' :: padded 2 (second / 60 % 60) ++
    ':' :: padded 2 (second % 60 + leap) ++ '.' :: padded 3 fraction ++ ['Z']

end Instant

end DruidPanels
