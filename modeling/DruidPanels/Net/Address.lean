import DruidPanels.Text.Cut
import DruidPanels.Text.Digits

/-! # Network addresses

Addresses of version 4 and 6 of the Internet Protocol, as they are read and
written. What is not read as an address may be the name of a host, which is left
to a look-up. -/

namespace DruidPanels

inductive HostAddress where
  /-- Four octets. -/
  | v4 (octets : List Nat)
  /-- Eight groups of sixteen bits, and the zone; zone 0 is none. -/
  | v6 (groups : List Nat) (zone : Nat)
deriving DecidableEq, Repr

namespace HostAddress

/-- The pieces of a text between the marks `mark`. -/
def splitOn (mark : Char) (cs : List Char) : List (List Char) :=
  cs.foldr (fun c pieces =>
    if c = mark then [] :: pieces
    else
      match pieces with
      | [] => [[c]]
      | piece :: rest => (c :: piece) :: rest) [[]]

/-! ## Version 4 -/

/-- An octet in plain notation: up to three digits, no zero before others. -/
def octet? (cs : List Char) : Option Nat := do
  let n ← Text.natural? cs
  if cs.length ≤ 3 ∧ n < 256 ∧ (cs.head? ≠ some '0' ∨ cs.length = 1) then some n else none

/-- The octets of a plain address: four of them. -/
def octets? (cs : List Char) : Option (List Nat) := do
  let octets ← (splitOn '.' cs).mapM octet?
  if octets.length = 4 then some octets else none

/-- A number in the base that its start names: hexadecimal after `0x`, octal after a
zero, decimal otherwise. -/
def based? (cs : List Char) : Option Nat :=
  let inBase (base : Nat) (cs : List Char) : Option Nat := do
    let digits ← cs.mapM Text.hexDigit?
    if digits.isEmpty || digits.any (base ≤ ·) then none
    else some (digits.foldl (fun n d => n * base + d) 0)
  match cs with
  | '0' :: 'x' :: rest => inBase 16 rest
  | '0' :: 'X' :: rest => inBase 16 rest
  | '0' :: c :: rest => inBase 8 (c :: rest)
  | cs => inBase 10 cs

/-- The last octets of an address, written as one number. -/
def octetsOf (count n : Nat) : List Nat :=
  (List.range count).map fun i => n / Nat.pow 256 (count - 1 - i) % 256

/-- The octets of a classic address: up to four numbers, the last of which fills what
the others leave. -/
def classicOctets? (cs : List Char) : Option (List Nat) := do
  let parts ← (splitOn '.' cs).mapM based?
  let leading := parts.dropLast
  let last ← parts.getLast?
  let width := 4 - leading.length
  if leading.length ≤ 3 ∧ leading.all (· < 256) ∧ last < Nat.pow 256 width then
    some (leading ++ octetsOf width last)
  else none

/-! ## Version 6 -/

/-- A group: up to four hexadecimal digits. -/
def group? (cs : List Char) : Option Nat := do
  let digits ← cs.mapM Text.hexDigit?
  if digits.isEmpty || 4 < digits.length then none
  else some (digits.foldl (fun n d => n * 16 + d) 0)

/-- Four octets as two groups. -/
def groupsOfOctets : List Nat → List Nat
  | a :: b :: rest => (a * 256 + b) :: groupsOfOctets rest
  | _ => []

/-- Groups between colons; the last two may be written as a version 4 address if
`allowOctets`. No text holds no groups. -/
def groups? (allowOctets : Bool) (cs : List Char) : Option (List Nat) :=
  if cs.isEmpty then some []
  else do
    let pieces := splitOn ':' cs
    let leading ← pieces.dropLast.mapM group?
    let last ← pieces.getLast?
    let ending ←
      (group? last).map ([·]) <|>
        (if allowOctets then (octets? last).map groupsOfOctets else none)
    return leading ++ ending

/-- The eight groups of an address; `::` stands for at least one group of zero. -/
def allGroups? (cs : List Char) : Option (List Nat) :=
  match Text.splitAt? [':', ':'] cs with
  | none => do
    let groups ← groups? true cs
    if groups.length = 8 then some groups else none
  | some (before, after) => do
    let first ← groups? false before
    let last ← groups? true after
    let count := first.length + last.length
    if count ≤ 7 then some (first ++ List.replicate (8 - count) 0 ++ last) else none

/-! ## Zones -/

/-- Zones have thirty-two bits. -/
def zoneBound : Nat := 4294967296

/-- A number below `bound` in digits alone. -/
def natural? (bound : Nat) (cs : List Char) : Option Nat := do
  let n ← Text.natural? cs
  if n < bound then some n else none

/-- An address of version 6, perhaps with the number of a zone after a percent sign. -/
def v6? (cs : List Char) : Option HostAddress :=
  match Text.splitAt? ['%'] cs with
  | none => do return .v6 (← allGroups? cs) 0
  | some (address, zone) => do return .v6 (← allGroups? address) (← natural? zoneBound zone)

/-! ## Texts -/

/-- Start and length of the longest run of zeros, the first one of several. -/
def longestZeros (groups : List Nat) : Nat × Nat :=
  (List.range groups.length).foldl (fun best start =>
    let length := ((groups.drop start).takeWhile (· = 0)).length
    if best.2 < length then (start, length) else best) (0, 0)

/-- Groups in hexadecimal between colons. -/
def groupsText (groups : List Nat) : List Char :=
  List.intercalate [':'] (groups.map (Nat.toDigits 16))

/-- Octets in decimal between points. -/
def octetsText (octets : List Nat) : List Char :=
  List.intercalate ['.'] (octets.map (Nat.toDigits 10))

/-- An address of eight groups: the longest run of at least two zeros is left out, and
an address that wraps one of version 4 ends in it. -/
def v6Text (groups : List Nat) : List Char :=
  if groups.take 6 = [0, 0, 0, 0, 0, 0xffff] then
    "::ffff:".toList ++ octetsText ((groups.drop 6).flatMap fun g => [g / 256, g % 256])
  else
    let (start, length) := longestZeros groups
    if length < 2 then groupsText groups
    else groupsText (groups.take start) ++ [':', ':'] ++ groupsText (groups.drop (start + length))

/-- An address without a name: a classic one of version 4, or one of version 6. -/
def literal? (cs : List Char) : Option HostAddress :=
  ((classicOctets? cs).map .v4).or (v6? cs)

end HostAddress

/-- Looks up the addresses of a host by its name, best first. A look-up that fails gives
none, one that finds nothing an empty list. -/
abbrev HostLookup := String → Option (List HostAddress)

/-- The look-up that knows no names. -/
def HostLookup.nameless : HostLookup := fun _ => none

structure SocketAddress where
  host : HostAddress
  number : Nat
deriving DecidableEq, Repr

namespace SocketAddress

/-- Socket numbers have sixteen bits. -/
def numberBound : Nat := 65536

/-- A number below `bound` in digits, with or without a plus before them. -/
def signedNatural? (bound : Nat) (cs : List Char) : Option Nat := do
  let n ← Text.natural? (if cs.head? = some '+' then cs.tail else cs)
  if n < bound then some n else none

/-- The two sides of the last colon. -/
def splitLast? (cs : List Char) : Option (List Char × List Char) :=
  (Text.splitAt? [':'] cs.reverse).map fun (after, before) => (before.reverse, after.reverse)

/-- An address of version 6 in brackets. -/
def bracketed? (cs : List Char) : Option HostAddress := do
  let inner ← Text.after? ['['] cs
  let (address, rest) ← Text.splitAt? [']'] inner
  if rest.isEmpty then HostAddress.v6? address else none

/-- Reads an address in its standard form. -/
def standard? (cs : List Char) : Option SocketAddress := do
  let (host, number) ← splitLast? cs
  let host ← ((HostAddress.octets? host).map .v4).or (bracketed? host)
  return ⟨host, ← HostAddress.natural? numberBound number⟩

/-- Reads a host, an address or a name, and a number after the last colon. -/
def loose? (lookUp : HostLookup) (cs : List Char) : Option (List SocketAddress) := do
  let (host, number) ← splitLast? cs
  let number ← signedNatural? numberBound number
  let hosts ← ((HostAddress.literal? host).map ([·])).or (lookUp (String.ofList host))
  return hosts.map (⟨·, number⟩)

/-- The addresses that a text stands for. -/
def resolve? (lookUp : HostLookup) (text : String) : Option (List SocketAddress) :=
  ((standard? text.toList).map ([·])).or (loose? lookUp text.toList)

def text (a : SocketAddress) : String :=
  let number := ':' :: Nat.toDigits 10 a.number
  match a.host with
  | .v4 octets => String.ofList (HostAddress.octetsText octets ++ number)
  | .v6 groups zone =>
    let zoneText := if zone = 0 then [] else '%' :: Nat.toDigits 10 zone
    String.ofList ('[' :: HostAddress.v6Text groups ++ zoneText ++ ']' :: number)

end SocketAddress

end DruidPanels
