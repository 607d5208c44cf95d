/-! # Blanks and trimming

A property of characters is given as a table of ranges of code points. White space
is the Unicode property `White_Space`. Trimming removes it from both ends of a text
and touches nothing between them. -/

namespace DruidPanels.Text

/-- Ranges of code points, both ends of a range being in it. -/
abbrev Ranges := List (Nat × Nat)

/-- The character lies in one of the ranges. -/
def Ranges.contains (ranges : Ranges) (c : Char) : Bool :=
  ranges.any fun (first, last) => first ≤ c.toNat && c.toNat ≤ last

/-- The code points of the Unicode property `White_Space`, as inclusive ranges.
A zero-width space and a byte order mark are not among them. -/
def blankRanges : Ranges :=
  [(0x0009, 0x000D), (0x0020, 0x0020), (0x0085, 0x0085), (0x00A0, 0x00A0),
   (0x1680, 0x1680), (0x2000, 0x200A), (0x2028, 0x2029), (0x202F, 0x202F),
   (0x205F, 0x205F), (0x3000, 0x3000)]

def isBlank (c : Char) : Bool := blankRanges.contains c

/-- Drops the characters that satisfy `p` from both ends of `cs`. -/
def dropEnds (p : Char → Bool) (cs : List Char) : List Char :=
  ((cs.dropWhile p).reverse.dropWhile p).reverse

/-- The text without the white space at its ends. -/
def trim (s : String) : String := String.ofList (dropEnds isBlank s.toList)

/-- Nothing but white space, or nothing at all. -/
def blank (s : String) : Bool := s.toList.all isBlank

/-- The trimmed text, unless nothing is left of it. -/
def trimmed? (s : String) : Option String :=
  if blank s then none else some (trim s)

/-- The text as it stands, unless it is blank. -/
def unlessBlank? (s : Option String) : Option String := s.filter fun s => !blank s

/-- Texts that differ at most in the case of ASCII letters. -/
def equalsIgnoringCase (a b : String) : Bool :=
  a.toList.map Char.toLower == b.toList.map Char.toLower

end DruidPanels.Text
