import DruidPanels.Panel.Target
import DruidPanels.Time.Expression
import DruidPanels.Word

/-! # Panel requests

What a dashboard sends: a panel to be queried, or a lookup of the values that a
filter could take. -/

namespace DruidPanels

/-- An edge of a range: milliseconds from 1970, or an expression. -/
inductive RangeEdge where
  | millis (ms : Int)
  | text (expression : String)
deriving DecidableEq, Repr

namespace RangeEdge

def expression : RangeEdge → String
  | .millis ms => toString ms
  | .text expression => expression

/-- Reads an edge: an integer of sixty-four bits or a text. The whole value is read
before its kind counts. -/
def decoder : Decoder RangeEdge := fun d => do
  match ← Decoder.json d with
  | .num (.int n) => if Word.fits n then return .millis n else throw .misshapen
  | .str s => return .text s
  | _ => throw .misshapen

end RangeEdge

/-- The edges of a range as the dashboard gives them. -/
structure PanelRange where
  start : RangeEdge
  stop : RangeEdge
deriving DecidableEq, Repr

namespace PanelRange

def layout : Layout PanelRange :=
  PanelRange.mk <$> .required "from" RangeEdge.decoder <*> .required "to" RangeEdge.decoder

def resolve (r : PanelRange) (now : Instant) : Except Fault TimeRange :=
  TimeRange.resolve now r.start.expression r.stop.expression

end PanelRange

namespace Variables

/-- Reads variables: an object of texts. -/
def decoder : Decoder Variables := fun d => (Decoder.entries .text d).map Variables.mk

end Variables

structure PanelQuery where
  range : PanelRange
  maxDataPoints : Option Nat
  targets : List PanelTarget
  vars : Variables

namespace PanelQuery

def layout : Layout PanelQuery :=
  PanelQuery.mk
    <$> .required "range" PanelRange.layout.decoder
    <*> .optional "maxDataPoints" .natural []
    <*> .withDefault "targets" (.list PanelTarget.decoder) []
    <*> .withDefault "variables" Variables.decoder .empty

def decoder : Decoder PanelQuery := layout.decoder

end PanelQuery

/-- A lookup of the values of the dimension that the filter editor is set to. -/
structure FilterLookup where
  target : PanelTarget
  range : PanelRange
  search : String
  vars : Variables

namespace FilterLookup

def layout : Layout FilterLookup :=
  FilterLookup.mk
    <$> .required "target" PanelTarget.decoder
    <*> .required "range" PanelRange.layout.decoder
    <*> .withDefault "query" .text ""
    <*> .withDefault "variables" Variables.decoder .empty

def decoder : Decoder FilterLookup := layout.decoder

end FilterLookup

end DruidPanels
