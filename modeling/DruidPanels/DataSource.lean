import DruidPanels.Text.Blank

/-! # Datasource paths

The broker describes a datasource at a path that ends in its name, written as a
single segment. Line breaks and tabs are left out of a segment, and every byte
that could end it or that is no printable ASCII character is written with a
percent sign. -/

namespace DruidPanels

namespace DataSource

/-- Where the broker lists its datasources. -/
def listing : String := "/druid/v2/datasources"

def hexDigit (n : Nat) : Char := if n < 10 then Char.ofNat (48 + n) else Char.ofNat (55 + n)

/-- A byte that stands for itself in a segment. -/
def isPlain (b : UInt8) : Bool :=
  0x20 < b.toNat && b.toNat < 0x7F && !("\"#<>?`\x7b\x7d%/\\".toList.contains (Char.ofNat b.toNat))

def encodeByte (b : UInt8) : List Char :=
  if isPlain b then [Char.ofNat b.toNat]
  else ['%', hexDigit (b.toNat / 16), hexDigit (b.toNat % 16)]

/-- A character that is left out of a segment. -/
def isOmitted (c : Char) : Bool := c = '\t' || c = '\n' || c = '\r'

def segment (name : List Char) : List Char :=
  ((name.filter (!isOmitted ·)).flatMap String.utf8EncodeChar).flatMap encodeByte

/-- The path at which a datasource is described. The names `.` and `..` add no segment.
A segment that only turns into `..` by what is left out of it takes away the last
segment of the listing. -/
def path (name : String) : String :=
  if name = "." ∨ name = ".." then listing
  else if segment name.toList = ['.', '.'] then "/druid/v2/"
  else listing ++ "/" ++ String.ofList (segment name.toList)

/-- The path for a name as it was typed. Blanks around it do not count. Nothing if the
name is empty or holds a slash. -/
def path? (typed : String) : Option String :=
  let name := Text.trim typed
  if name.isEmpty || name.toList.contains '/' then none else some (path name)

end DataSource

end DruidPanels
