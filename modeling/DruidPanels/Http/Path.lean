import DruidPanels.Text.Digits

/-! # Request paths

The query and the fragment of a request target do not matter. A segment is decoded
byte by byte: a percent sign with two hexadecimal digits stands for their byte, and
the bytes must be UTF-8. -/

namespace DruidPanels

namespace RequestPath

def ofTarget (target : String) : List Char :=
  target.toList.takeWhile fun c => c ≠ '?' && c ≠ '#'

/-- The bytes of a segment. A percent sign without two digits after it stands for
itself. -/
def decodeBytes : List Char → List UInt8
  | [] => []
  | '%' :: a :: b :: rest =>
    match Text.hexDigit? a, Text.hexDigit? b with
    | some high, some low => UInt8.ofNat (high * 16 + low) :: decodeBytes rest
    | _, _ => String.utf8EncodeChar '%' ++ decodeBytes (a :: b :: rest)
  | c :: rest => String.utf8EncodeChar c ++ decodeBytes rest

def decode? (segment : List Char) : Option String :=
  String.fromUTF8? (ByteArray.mk (decodeBytes segment).toArray)

end RequestPath

end DruidPanels
