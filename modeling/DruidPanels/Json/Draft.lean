import DruidPanels.Json.Number
import DruidPanels.Text.Cut

/-! # Drafts of JSON texts

A draft is what a lax reader makes of a text. It keeps what a strict reader
refuses (numbers out of range, lone surrogates, unfinished or too deeply nested
arrays and objects) in its place, so that who walks a draft in text order meets
the faults in the order in which they stand in the text. A value is a finished
draft without such faults. -/

namespace DruidPanels

/-- What a lax reader finds where the key of an entry should stand. -/
inductive DraftKey where
  /-- A quoted text. -/
  | text (name : String)
  /-- A quoted text that holds a lone surrogate. -/
  | unpaired
  /-- The start of a value of another kind; the reading ends there. -/
  | foreign
deriving DecidableEq, Repr

/-- What a lax reader finds where a JSON value should stand. -/
inductive Draft where
  | null
  | bool (value : Bool)
  /-- A number; no value if it is out of range. -/
  | number (value : Option Number)
  /-- A quoted text; no value if it holds a lone surrogate. -/
  | text (value : Option String)
  /-- An array: its items up to the end or the first fault of syntax, whether it is
  closed, and whether it stands too deep for a strict reader. -/
  | array (items : List Draft) (closed deep : Bool)
  /-- An object: its entries, as for the items of an array. -/
  | object (entries : List (DraftKey × Draft)) (closed deep : Bool)
  /-- No value can be read. -/
  | broken

instance : Inhabited Draft := ⟨.broken⟩

namespace Draft

mutual

def ofJson : Json → Draft
  | .null => .null
  | .bool b => .bool b
  | .num n => .number (some n)
  | .str s => .text (some s)
  | .arr items => .array (ofItems items) true false
  | .obj fields => .object (ofFields fields) true false

def ofItems : List Json → List Draft
  | [] => []
  | item :: rest => ofJson item :: ofItems rest

def ofFields : List (String × Json) → List (DraftKey × Draft)
  | [] => []
  | (key, value) :: rest => (.text key, ofJson value) :: ofFields rest

end

mutual

/-- The value of a draft, if it has no fault. -/
def toJson? : Draft → Option Json
  | .null => some .null
  | .bool b => some (.bool b)
  | .number n => n.map .num
  | .text s => s.map .str
  | .array items closed deep =>
    if deep || !closed then none else (itemsToJson? items).map .arr
  | .object entries closed deep =>
    if deep || !closed then none
    else (entriesToJson? entries).map fun fields => .obj (Fields.ofEntries fields)
  | .broken => none

def itemsToJson? : List Draft → Option (List Json)
  | [] => some []
  | item :: rest => do
    let value ← toJson? item
    return value :: (← itemsToJson? rest)

def entriesToJson? : List (DraftKey × Draft) → Option (List (String × Json))
  | [] => some []
  | (.text key, item) :: rest => do
    let value ← toJson? item
    return (key, value) :: (← entriesToJson? rest)
  | _ => none

end

mutual

/-- The draft can be passed over: its syntax is that of JSON. Range, depth and
surrogates do not matter for that. -/
def skippable : Draft → Bool
  | .array items closed _ => closed && itemsSkippable items
  | .object entries closed _ => closed && entriesSkippable entries
  | .broken => false
  | _ => true

def itemsSkippable : List Draft → Bool
  | [] => true
  | item :: rest => skippable item && itemsSkippable rest

def entriesSkippable : List (DraftKey × Draft) → Bool
  | [] => true
  | (_, item) :: rest => skippable item && entriesSkippable rest

end

/-! ## Reading -/

/-- Arrays and objects nested this deep are refused by a strict reader. -/
def depthBound : Nat := 128

/-- Space, tab, line feed and carriage return may stand between tokens. -/
def isGap (c : Char) : Bool := c = ' ' || c = '\t' || c = '\n' || c = '\r'

/-- The text from its next token on. -/
def skipGap (cs : List Char) : List Char := cs.dropWhile isGap

/-- The code unit that four hexadecimal digits write. -/
def unit? (a b c d : Char) : Option Nat := do
  let a ← Text.hexDigit? a
  let b ← Text.hexDigit? b
  let c ← Text.hexDigit? c
  let d ← Text.hexDigit? d
  return ((a * 16 + b) * 16 + c) * 16 + d

/-- The character of a one-letter escape. -/
def escaped? : Char → Option Char
  | '"' => some '"'
  | '\\' => some '\\'
  | '/' => some '/'
  | 'b' => some '\x08'
  | 'f' => some '\x0c'
  | 'n' => some '\n'
  | 'r' => some '\r'
  | 't' => some '\t'
  | _ => none

/-- A quoted text in the reading. -/
structure Quoted where
  /-- The characters so far, last one first. -/
  reversed : List Char
  /-- A high surrogate that waits for its partner. -/
  pending : Option Nat
  /-- No surrogate has been left alone. -/
  paired : Bool

namespace Quoted

def empty : Quoted := ⟨[], none, true⟩

/-- Takes a character that stands for itself. -/
def push (q : Quoted) (c : Char) : Quoted :=
  ⟨c :: q.reversed, none, q.paired && q.pending.isNone⟩

/-- Takes a code unit written in hexadecimal. -/
def pushUnit (q : Quoted) (unit : Nat) : Quoted :=
  if 0xD800 ≤ unit ∧ unit < 0xDC00 then
    { q with pending := some unit, paired := q.paired && q.pending.isNone }
  else if 0xDC00 ≤ unit ∧ unit < 0xE000 then
    match q.pending with
    | some high =>
      { q with
        reversed := Char.ofNat (0x10000 + (high - 0xD800) * 0x400 + (unit - 0xDC00)) :: q.reversed
        pending := none }
    | none => { q with paired := false }
  else q.push (Char.ofNat unit)

/-- The text, unless a surrogate was left alone. -/
def finish (q : Quoted) : Option String :=
  if q.paired && q.pending.isNone then some (String.ofList q.reversed.reverse) else none

end Quoted

/-- Reads a quoted text after its opening quote, and gives what follows it. Nothing
if the text has no end, an unknown escape or a bare control character. -/
def readQuoted? (q : Quoted) : List Char → Option (Option String × List Char)
  | '"' :: rest => some (q.finish, rest)
  | '\\' :: 'u' :: a :: b :: c :: d :: rest =>
    match unit? a b c d with
    | some unit => readQuoted? (q.pushUnit unit) rest
    | none => none
  | '\\' :: e :: rest =>
    match escaped? e with
    | some c => readQuoted? (q.push c) rest
    | none => none
  | c :: rest => if c = '\\' ∨ c.toNat < 0x20 then none else readQuoted? (q.push c) rest
  | [] => none

/-- The whole part of a literal: a single zero, or digits that do not start with one. -/
def readWhole? (cs : List Char) : Option (List Char × List Char) :=
  let (whole, rest) := Text.digits cs
  if whole.isEmpty || (whole.head? == some '0' && whole != ['0']) then none
  else some (whole, rest)

/-- The fraction of a literal, if there is one: a point and at least one digit. -/
def readFraction? : List Char → Option (Option (List Char) × List Char)
  | '.' :: cs =>
    let (fraction, rest) := Text.digits cs
    if fraction.isEmpty then none else some (some fraction, rest)
  | cs => some (none, cs)

/-- The exponent of a literal, if there is one: its letter, perhaps a sign, and at
least one digit. -/
def readExponent? : List Char → Option (Option (Bool × List Char) × List Char)
  | c :: cs =>
    if c = 'e' ∨ c = 'E' then
      let (minus, cs) := match cs with
        | '+' :: rest => (false, rest)
        | '-' :: rest => (true, rest)
        | rest => (false, rest)
      let (digits, rest) := Text.digits cs
      if digits.isEmpty then none else some (some (minus, digits), rest)
    else some (none, c :: cs)
  | [] => some (none, [])

/-- Reads a number, and gives what follows it. -/
def readNumber? (cs : List Char) : Option (Option Number × List Char) := do
  let (negative, cs) := match cs with
    | '-' :: rest => (true, rest)
    | rest => (false, rest)
  let (whole, cs) ← readWhole? cs
  let (fraction, cs) ← readFraction? cs
  let (exponent, cs) ← readExponent? cs
  return (Literal.value? ⟨negative, whole, fraction, exponent⟩, cs)

/-- What follows a word at the start of a text. -/
def word? (word : String) (cs : List Char) : Option (List Char) := Text.after? word.toList cs

/-- The key that a quoted text is. -/
def keyOf : Option String → DraftKey
  | some name => .text name
  | none => .unpaired

/-- A value that is no quoted text starts here: an array, an object, a word, or a number
that is not out of range. -/
def startsForeign : List Char → Bool
  | '[' :: _ => true
  | '\x7b' :: _ => true
  | cs =>
    (word? "null" cs).isSome || (word? "true" cs).isSome || (word? "false" cs).isSome ||
      ((readNumber? cs).bind (·.1)).isSome

mutual

/-- Reads one value inside `depth` arrays and objects. The rest of the text is given
unless a fault of syntax ends the reading. -/
def readValue : Nat → Nat → List Char → Draft × Option (List Char)
  | 0, _, _ => (.broken, none)
  | fuel + 1, depth, cs =>
    let deep := depthBound ≤ depth + 1
    match skipGap cs with
    | '"' :: rest =>
      match readQuoted? .empty rest with
      | some (value, rest) => (.text value, some rest)
      | none => (.broken, none)
    | '[' :: rest =>
      match skipGap rest with
      | ']' :: rest => (.array [] true deep, some rest)
      | _ =>
        let (items, rest) := readItems fuel (depth + 1) rest
        (.array items rest.isSome deep, rest)
    | '\x7b' :: rest =>
      match skipGap rest with
      | '\x7d' :: rest => (.object [] true deep, some rest)
      | _ =>
        let (entries, rest) := readEntries fuel (depth + 1) rest
        (.object entries rest.isSome deep, rest)
    | cs =>
      match word? "null" cs, word? "true" cs, word? "false" cs with
      | some rest, _, _ => (.null, some rest)
      | _, some rest, _ => (.bool true, some rest)
      | _, _, some rest => (.bool false, some rest)
      | none, none, none =>
        match readNumber? cs with
        | some (value, rest) => (.number value, some rest)
        | none => (.broken, none)

/-- Reads the items of an array that is not empty, up to its closing bracket. -/
def readItems : Nat → Nat → List Char → List Draft × Option (List Char)
  | 0, _, _ => ([], none)
  | fuel + 1, depth, cs =>
    let (item, rest) := readValue fuel depth cs
    match rest.map skipGap with
    | some (']' :: rest) => ([item], some rest)
    | some (',' :: rest) =>
      let (items, rest) := readItems fuel depth rest
      (item :: items, rest)
    | _ => ([item], none)

/-- Reads the entries of an object that is not empty, up to its closing brace. -/
def readEntries : Nat → Nat → List Char → List (DraftKey × Draft) × Option (List Char)
  | 0, _, _ => ([], none)
  | fuel + 1, depth, cs =>
    match skipGap cs with
    | '"' :: rest =>
      match readQuoted? .empty rest with
      | none => ([], none)
      | some (key, rest) =>
        match skipGap rest with
        | ':' :: rest =>
          let (value, rest) := readValue fuel depth rest
          match rest.map skipGap with
          | some ('\x7d' :: rest) => ([(keyOf key, value)], some rest)
          | some (',' :: rest) =>
            let (entries, rest) := readEntries fuel depth rest
            ((keyOf key, value) :: entries, rest)
          | _ => ([(keyOf key, value)], none)
        | _ => ([(keyOf key, .broken)], none)
    | cs => (if startsForeign cs then [(.foreign, .broken)] else [], none)

end

/-- Reads one value from the start of a text, and gives what follows it. Every level
of the reading takes at least one character, so its bound is never reached. -/
def read (text : String) : Draft × Option (List Char) :=
  let cs := text.toList
  readValue (2 * cs.length + 2) 0 cs

/-- The draft at the start of a text; what follows it does not matter. -/
def ofText (text : String) : Draft := (read text).1

end Draft

/-- Reads a text that holds one JSON value and nothing else. -/
def Json.parse? (text : String) : Option Json :=
  match Draft.read text with
  | (draft, some rest) => if (Draft.skipGap rest).isEmpty then draft.toJson? else none
  | (_, none) => none

end DruidPanels
