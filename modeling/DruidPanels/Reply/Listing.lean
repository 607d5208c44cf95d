import DruidPanels.Reply.Error
import DruidPanels.Text.Quotation

/-! # Listings

The broker lists its datasources as an array of texts. A listing of another shape is
refused with the kind of the first value that does not fit. -/

namespace DruidPanels

namespace Json

/-- How the kind of a value is named in a refusal. -/
def kindName : Json → String
  | .null => "null"
  | .bool true => "boolean `true`"
  | .bool false => "boolean `false`"
  | .num (.int n) => "integer `" ++ toString n ++ "`"
  | .num (.float x) => "floating point `" ++ Number.text (.float x) ++ "`"
  | .str s => "string " ++ Text.quotation s
  | .arr _ => "sequence"
  | .obj _ => "map"

end Json

namespace Reply

/-- The refusal of a value in place of what was expected. -/
def misfit (value : Json) (expected : String) : Fault :=
  (ReplyError.notListing ("invalid type: " ++ value.kindName ++ ", expected " ++ expected)).fault

def name : Json → Except Fault String
  | .str s => .ok s
  | item => .error (misfit item "a string")

def names : Json → Except Fault (List String)
  | .arr items => items.mapM name
  | value => .error (misfit value "a sequence")

end Reply

end DruidPanels
