import DruidPanels.Json.Decode
import DruidPanels.Json.Text
import DruidPanels.Template
import DruidPanels.Text.Blank

/-! # Filters

A dashboard describes each filter by a kind, a flag that negates it, and fields
that the kind gives a meaning to. The descriptions are compiled into one tree:
every variable expanded where the kind allows it, every negated filter under a
`not`, and several filters under one `and`. -/

namespace DruidPanels

inductive FilterKind where
  | selector | regex | javaScript | search
  | other (name : String)
deriving DecidableEq, Repr

namespace FilterKind

def ofName (name : String) : FilterKind :=
  if name = "selector" then .selector
  else if name = "regex" then .regex
  else if name = "javascript" then .javaScript
  else if name = "search" then .search
  else .other name

def name : FilterKind → String
  | .selector => "selector"
  | .regex => "regex"
  | .javaScript => "javascript"
  | .search => "search"
  | .other text => text

/-- The field in which variables are expanded. -/
def expandedField? : FilterKind → Option String
  | .selector => some "value"
  | .regex => some "pattern"
  | .javaScript => some "function"
  | .search => none
  | .other _ => none

end FilterKind

structure FilterDescriptor where
  kind : FilterKind
  negate : Bool
  fields : Fields

namespace FilterDescriptor

/-- A negation flag: null, a truth value, or its word with any blanks around it. -/
def negation? : Json → Option Bool
  | .null => some false
  | .bool b => some b
  | .str s =>
    let word := Text.trim s
    if word = "true" then some true
    else if word = "false" ∨ word = "" then some false
    else none
  | _ => none

/-- What has been read of a descriptor. -/
structure Gathered where
  kind : Option FilterKind
  negate : Option Bool
  fields : Fields

/-- Takes the entries of a descriptor in order. `type` and `negate` may come once
each, in any place; every other key is a field. -/
def readEntries (p : Gathered) : List (DraftKey × Draft) → Except ReadFault Gathered
  | [] => .ok p
  | (.text key, item) :: rest =>
    if key = "type" then
      if p.kind.isSome then .error .misshapen
      else do
        let name ← Decoder.text item
        readEntries { p with kind := some (.ofName name) } rest
    else if key = "negate" then
      if p.negate.isSome then .error .misshapen
      else do
        match negation? (← Decoder.json item) with
        | some negate => readEntries { p with negate := some negate } rest
        | none => .error .misshapen
    else do
      let value ← Decoder.json item
      readEntries { p with fields := Fields.insert key value p.fields } rest
  | _ => .error .malformed

/-- Reads a descriptor, which must be an object with a `type`. -/
def decoder : Decoder FilterDescriptor
  | .object entries closed deep => do
    if deep then throw .malformed
    let p ← readEntries ⟨none, none, []⟩ entries
    if !closed then throw .malformed
    match p.kind with
    | some kind => return ⟨kind, p.negate.getD false, p.fields⟩
    | none => throw .misshapen
  | d => .error d.misfit

def toJson (f : FilterDescriptor) : Json :=
  .obj (("type", .str f.kind.name) ::
    ((if f.negate then [("negate", .bool true)] else []) ++ f.fields))

/-- Finds `text` in a dimension, in any case. -/
def insensitiveSearch (dimension text : String) : FilterDescriptor where
  kind := .search
  negate := false
  fields :=
    [("dimension", .str dimension),
     ("query", .obj [("type", .str "insensitive_contains"), ("value", .str text)])]

/-- A field with its variables expanded, if its kind allows that. -/
def expandField (kind : FilterKind) (vars : Variables) (key : String) : Json → Json
  | .str s => if kind.expandedField? = some key then .str (vars.expand s) else .str s
  | value => value

/-- The fields of the leaf that a descriptor is compiled to: the kind first, then
its own fields with their variables expanded. -/
def leaf (f : FilterDescriptor) (vars : Variables) : Fields :=
  ("type", .str f.kind.name) ::
    f.fields.map fun (key, value) => (key, expandField f.kind vars key value)

end FilterDescriptor

inductive FilterTree where
  | leaf (fields : Fields)
  | not (inner : FilterTree)
  | and (parts : List FilterTree)

namespace FilterTree

mutual

def toJson : FilterTree → Json
  | .leaf fields => .obj fields
  | .not inner => .obj [("type", .str "not"), ("field", toJson inner)]
  | .and parts => .obj [("type", .str "and"), ("fields", .arr (toJsons parts))]

def toJsons : List FilterTree → List Json
  | [] => []
  | part :: rest => toJson part :: toJsons rest

end

def ofDescriptor (vars : Variables) (f : FilterDescriptor) : FilterTree :=
  if f.negate then .not (.leaf (f.leaf vars)) else .leaf (f.leaf vars)

/-- All of the trees at once; nothing for no trees. -/
def conjunction : List FilterTree → Option FilterTree
  | [] => none
  | [tree] => some tree
  | trees => some (.and trees)

/-- Compiles descriptors into one tree; nothing for no descriptors. -/
def compile (filters : List FilterDescriptor) (vars : Variables) : Option FilterTree :=
  conjunction (filters.map (ofDescriptor vars))

end FilterTree

end DruidPanels
