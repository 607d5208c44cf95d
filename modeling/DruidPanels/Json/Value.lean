/-! # JSON values

Objects keep their entries in the order in which the keys first came. Numbers
are either integers or 64-bit floats, and the two are never confused: `1` and
`1.0` are different values. -/

namespace DruidPanels

/-- A JSON number. Reading a text makes an `int` of every literal without point
and exponent that fits into 64 bits, signed or unsigned, and a `float` of all
others, `-0` among them. -/
inductive Number where
  | int (value : Int)
  | float (value : Float)

inductive Json where
  | null
  | bool (value : Bool)
  | num (value : Number)
  | str (text : String)
  | arr (items : List Json)
  | obj (fields : List (String × Json))

instance : Inhabited Json := ⟨.null⟩

abbrev Fields := List (String × Json)

namespace Fields

/-- The value under `key`. -/
def get? (fields : Fields) (key : String) : Option Json := fields.lookup key

/-- Puts `value` under `key`: in its old place if the key is there, last otherwise. -/
def insert (key : String) (value : Json) : Fields → Fields
  | [] => [(key, value)]
  | (k, v) :: rest =>
    if k = key then (key, value) :: rest else (k, v) :: insert key value rest

/-- Entries in order of arrival; a repeated key keeps its first place and its last value. -/
def ofEntries (entries : List (String × Json)) : Fields :=
  entries.foldl (fun fields (key, value) => insert key value fields) []

end Fields

namespace Json

def ofInt (n : Int) : Json := .num (.int n)

def ofNat (n : Nat) : Json := ofInt n

def ofTexts (texts : List String) : Json := .arr (texts.map .str)

def text? : Json → Option String
  | .str s => some s
  | _ => none

def bool? : Json → Option Bool
  | .bool b => some b
  | _ => none

def items? : Json → Option (List Json)
  | .arr items => some items
  | _ => none

def fields? : Json → Option Fields
  | .obj fields => some fields
  | _ => none

/-- The value under `key` of an object; nothing on any other value. -/
def get? (value : Json) (key : String) : Option Json :=
  value.fields?.bind fun fields => Fields.get? fields key

/-- The items of an array; none on any other value. -/
def items (value : Json) : List Json := value.items?.getD []

/-- The entries of an object; none on any other value. -/
def fields (value : Json) : Fields := value.fields?.getD []

end Json

end DruidPanels
