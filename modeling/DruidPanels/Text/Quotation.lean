import DruidPanels.Text.Extending
import DruidPanels.Text.Unassigned

/-! # Quotations

A text that is quoted in a message is written so that every character of it shows.
Controls, formatting characters, blanks other than the space, fillers, marks that
combine with the character before them and code points without a character of
their own are written as escapes. -/

namespace DruidPanels.Text

/-- The code points of general categories Cc, Cf, Zs, Zl, Zp and Co, as inclusive
ranges, without the space; and the Hangul fillers, which are the letters of the
property `Default_Ignorable_Code_Point`. -/
def invisibleRanges : Ranges :=
  [(0x0000, 0x001F), (0x007F, 0x00A0), (0x00AD, 0x00AD), (0x0600, 0x0605), (0x061C, 0x061C),
   (0x06DD, 0x06DD), (0x070F, 0x070F), (0x0890, 0x0891), (0x08E2, 0x08E2), (0x115F, 0x1160),
   (0x1680, 0x1680), (0x180E, 0x180E), (0x2000, 0x200F), (0x2028, 0x202F), (0x205F, 0x2064),
   (0x2066, 0x206F), (0x3000, 0x3000), (0x3164, 0x3164), (0xE000, 0xF8FF), (0xFEFF, 0xFEFF),
   (0xFFA0, 0xFFA0), (0xFFF9, 0xFFFB), (0x110BD, 0x110BD), (0x110CD, 0x110CD), (0x13430, 0x1343F),
   (0x1BCA0, 0x1BCA3), (0x1D173, 0x1D17A), (0xE0001, 0xE0001), (0xE0020, 0xE007F),
   (0xF0000, 0xFFFFD), (0x100000, 0x10FFFD)]

/-- A character that does not show by itself. -/
def isUnseen (c : Char) : Bool :=
  invisibleRanges.contains c || isExtending c || isUnassigned c

/-- A character inside a quotation. -/
def quotedChar (c : Char) : List Char :=
  if c = '"' then ['\\', '"']
  else if c = '\\' then ['\\', '\\']
  else if c = '\t' then ['\\', 't']
  else if c = '\r' then ['\\', 'r']
  else if c = '\n' then ['\\', 'n']
  else if c.toNat = 0 then ['\\', '0']
  else if isUnseen c then
    ['\\', 'u', '\x7b'] ++ Nat.toDigits 16 c.toNat ++ ['\x7d']
  else [c]

/-- A text as it is quoted in a message. -/
def quotation (s : String) : String :=
  String.ofList ('"' :: s.toList.flatMap quotedChar ++ ['"'])

end DruidPanels.Text
