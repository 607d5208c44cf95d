import DruidPanels.Json.Draft

/-! # Decoding drafts

A decoder walks a draft in text order and stops at the first fault. A fault of
syntax and a value of the wrong shape are told apart, since a caller answers
them differently. A number, a text or a word in the wrong place is read to its
end before its shape counts; an array or an object is not looked into. -/

namespace DruidPanels

/-- Why a draft is refused. -/
inductive ReadFault where
  /-- The text is no JSON. -/
  | malformed
  /-- The text is JSON of another shape. -/
  | misshapen
deriving DecidableEq, Repr

/-- Reads a domain value out of a draft. -/
abbrev Decoder (α : Type) := Draft → Except ReadFault α

/-- The fault of a draft that stands where a value of another kind is due. -/
def Draft.misfit : Draft → ReadFault
  | .broken => .malformed
  | .number none => .malformed
  | .text none => .malformed
  | _ => .misshapen

namespace Decoder

def text : Decoder String
  | .text (some s) => .ok s
  | d => .error d.misfit

def flag : Decoder Bool
  | .bool b => .ok b
  | d => .error d.misfit

/-- An integer of sixty-four bits with a sign. Floats are no integers. -/
def signed : Decoder Int
  | .number (some (.int n)) => if Word.fits n then .ok n else .error .misshapen
  | d => .error d.misfit

/-- An integer of sixty-four bits without a sign. Floats are no integers. -/
def natural : Decoder Nat
  | .number (some (.int n)) =>
    if 0 ≤ n ∧ n < Word.size then .ok n.toNat else .error .misshapen
  | d => .error d.misfit

def json : Decoder Json := fun d =>
  match d.toJson? with
  | some value => .ok value
  | none => .error .malformed

def nullable {α : Type} (decode : Decoder α) : Decoder (Option α)
  | .null => .ok none
  | d => (decode d).map some

/-- A value for which null stands for `fallback`. -/
def nullAs {α : Type} (fallback : α) (decode : Decoder α) : Decoder α := fun d =>
  (nullable decode d).map fun value => value.getD fallback

def list {α : Type} (decode : Decoder α) : Decoder (List α)
  | .array items closed deep => do
    if deep then throw .malformed
    let values ← items.mapM decode
    if closed then return values else throw .malformed
  | d => .error d.misfit

/-- The entries of an object whose values are of one kind, repeated keys included. -/
def entries {α : Type} (decode : Decoder α) : Decoder (List (String × α))
  | .object entries closed deep => do
    if deep then throw .malformed
    let values ← entries.mapM fun (key, item) =>
      match key with
      | .text key => (decode item).map (key, ·)
      | _ => .error .malformed
    if closed then return values else throw .malformed
  | d => .error d.misfit

/-- Decodes a value that is already read. -/
def ofJson? {α : Type} (decode : Decoder α) (value : Json) : Option α :=
  (decode (.ofJson value)).toOption

end Decoder

/-! ## Layouts of objects -/

/-- A field of an object: its name, other names for it, the test of its value, and
whether it must be there. -/
structure Field where
  name : String
  aliases : List String
  check : Draft → Except ReadFault Unit
  required : Bool

namespace Field

/-- The field answers to `key`. -/
def answers (f : Field) (key : String) : Bool := f.name == key || f.aliases.contains key

end Field

/-- The values found for the fields of an object, by field name. -/
abbrev Found := List (String × Draft)

namespace Found

/-- Fails unless every field that must be there was found. -/
def complete (fields : List Field) (found : Found) : Except ReadFault Found :=
  if fields.all fun f => !f.required || (found.lookup f.name).isSome then .ok found
  else .error .misshapen

/-- Collects the entries of an object in order. Unknown keys are passed over; a
second entry for a field is refused before its value is looked at. -/
def ofEntries (fields : List Field) (found : Found) :
    List (DraftKey × Draft) → Except ReadFault Found
  | [] => .ok found
  | (.text key, value) :: rest =>
    match fields.find? (·.answers key) with
    | none => if value.skippable then ofEntries fields found rest else .error .malformed
    | some field => do
      if (found.lookup field.name).isSome then throw .misshapen
      field.check value
      ofEntries fields ((field.name, value) :: found) rest
  | _ => .error .malformed

/-- Pairs the items of an array with the fields in order. -/
def ofItems (closed : Bool) (found : Found) :
    List Field → List Draft → Except ReadFault Found
  | [], [] => if closed then .ok found else .error .malformed
  | [], _ :: _ => .error .malformed
  | field :: fields, [] =>
    if !closed then .error .malformed
    else if field.required then .error .misshapen
    else ofItems closed found fields []
  | field :: fields, value :: rest => do
    field.check value
    ofItems closed ((field.name, value) :: found) fields rest

/-- The values for `fields` in a draft: an object, or an array that gives them in order. -/
def ofDraft (fields : List Field) : Decoder Found
  | .object entries closed deep => do
    if deep then throw .malformed
    let found ← ofEntries fields [] entries
    if closed then complete fields found else throw .malformed
  | .array items closed deep =>
    if deep then .error .malformed else ofItems closed [] fields items
  | d => .error d.misfit

end Found

/-- How a value of `α` is laid out over the fields of an object. -/
structure Layout (α : Type) where
  fields : List Field
  build : Found → Except ReadFault α

namespace Layout

/-- A field of its own: absent, it is `fallback` if there is one. -/
def field {α : Type} (name : String) (decode : Decoder α) (fallback : Option α)
    (aliases : List String) : Layout α where
  fields := [⟨name, aliases, fun d => (decode d).map fun _ => (), fallback.isNone⟩]
  build := fun found =>
    match found.lookup name, fallback with
    | some d, _ => decode d
    | none, some value => .ok value
    | none, none => .error .misshapen

def required {α : Type} (name : String) (decode : Decoder α) : Layout α :=
  field name decode none []

def withDefault {α : Type} (name : String) (decode : Decoder α) (fallback : α) : Layout α :=
  field name decode (some fallback) []

/-- A field that may be absent or null, under its name or one of the aliases. -/
def optional {α : Type} (name : String) (decode : Decoder α) (aliases : List String) :
    Layout (Option α) :=
  field name (.nullable decode) (some none) aliases

/-- A field for which absent and null both stand for `fallback`. -/
def defaulted {α : Type} (name : String) (decode : Decoder α) (fallback : α) : Layout α :=
  withDefault name (.nullAs fallback decode) fallback

/-- Applies a function to what is laid out. -/
def map {α β : Type} (f : α → β) (l : Layout α) : Layout β :=
  ⟨l.fields, fun found => (l.build found).map f⟩

/-- Lays out a function and its argument side by side. -/
def and {α β : Type} (f : Layout (α → β)) (x : Layout α) : Layout β where
  fields := f.fields ++ x.fields
  build := fun found => do
    let g ← f.build found
    (x.build found).map g

instance : Functor Layout where
  map := map

instance : Seq Layout where
  seq f x := and f (x ())

def decoder {α : Type} (l : Layout α) : Decoder α := fun d => do
  l.build (← Found.ofDraft l.fields d)

end Layout

end DruidPanels
