import DruidPanels.Text.Cut

/-! # Media types

The syntax of a content type: two tokens around a slash, and parameters after
semicolons. Spaces may stand before a parameter and after a quoted value, and
nowhere else. -/

namespace DruidPanels

structure MediaType where
  main : List Char
  /-- All that follows the slash, with any `+` in it. -/
  sub : List Char
deriving DecidableEq, Repr

namespace MediaType

/-- A character of a token. -/
def isToken (c : Char) : Bool :=
  c.isAlphanum || "!#$%&'*+-.^_`|~".toList.contains c

/-- A character that may stand in a quoted value. -/
def isQuotable (c : Char) : Bool := 0x1F < c.toNat && c.toNat ≠ 0x7F

/-- Drops a quoted value after its opening quote, up to and with the closing one. The
first character always belongs to the value. -/
def dropQuoted? : List Char → Option (List Char)
  | [] => none
  | c :: cs =>
    if !isQuotable c then none
    else Text.after? ['"'] (cs.dropWhile fun c => isQuotable c && c ≠ '"')

/-- Drops a parameter and the semicolon after it. Nothing if there is no parameter. -/
def dropParameter? (cs : List Char) : Option (List Char) :=
  let name := cs.takeWhile isToken
  match cs.dropWhile isToken with
  | '=' :: '"' :: rest =>
    if name.isEmpty then none
    else
      match (dropQuoted? rest).map (·.dropWhile (· = ' ')) with
      | some [] => some []
      | some (';' :: rest) => some rest
      | _ => none
  | '=' :: rest =>
    if name.isEmpty then none
    else
      match rest.dropWhile isToken with
      | [] => some []
      | ';' :: after => if (rest.takeWhile isToken).isEmpty then none else some after
      | _ => none
  | _ => none

/-- The text after a semicolon is a list of parameters, perhaps an empty one. A text of
`bound` characters holds no more parameters than that. -/
def parametersUpTo : Nat → List Char → Bool
  | 0, cs => cs.isEmpty
  | bound + 1, cs =>
    match cs.dropWhile (· = ' ') with
    | [] => true
    | cs =>
      match dropParameter? cs with
      | some rest => parametersUpTo bound rest
      | none => false

def parse? (text : String) : Option MediaType :=
  let cs := text.toList.map Char.toLower
  let main := cs.takeWhile isToken
  match cs.dropWhile isToken with
  | '/' :: rest =>
    let sub := rest.takeWhile isToken
    match rest.dropWhile isToken with
    | [] => if main.isEmpty then none else some ⟨main, sub⟩
    | ';' :: parameters =>
      if main.isEmpty || sub.isEmpty || !parametersUpTo (parameters.length + 1) parameters then none
      else some ⟨main, sub⟩
    | _ => none
  | _ => none

/-- The two sides of the last `+` of a subtype that is not its first character. -/
def splitSuffix? (sub : List Char) : Option (List Char × List Char) :=
  match Text.splitAt? ['+'] sub.reverse with
  | some (suffix, main) => if main.isEmpty then none else some (main.reverse, suffix.reverse)
  | none => none

/-- The type is JSON, or some application's own format written in JSON. -/
def isJson (m : MediaType) : Bool :=
  m.main == "application".toList &&
    match splitSuffix? m.sub with
    | some (main, suffix) => main == "json".toList || suffix == "json".toList
    | none => m.sub == "json".toList

end MediaType

end DruidPanels
