import DruidPanels.Json.Value
import DruidPanels.Text.Blank
import DruidPanels.Time.Instant

/-! # Granularities

A bucket width is one of five. The broker also takes granularities outside this
table, by name or as a period in a time zone. -/

namespace DruidPanels

inductive BucketWidth where
  | minute | fifteenMinutes | thirtyMinutes | hour | day
deriving DecidableEq, Repr

namespace BucketWidth

def all : List BucketWidth := [.minute, .fifteenMinutes, .thirtyMinutes, .hour, .day]

def seconds : BucketWidth → Int
  | .minute => 60
  | .fifteenMinutes => 900
  | .thirtyMinutes => 1800
  | .hour => 3600
  | .day => 86400

def millis (w : BucketWidth) : Int := w.seconds * 1000

def name : BucketWidth → String
  | .minute => "minute"
  | .fifteenMinutes => "fifteen_minute"
  | .thirtyMinutes => "thirty_minute"
  | .hour => "hour"
  | .day => "day"

/-- The width of a name, in any case and with any blanks around it. -/
def ofName? (name : String) : Option BucketWidth :=
  all.find? fun w => Text.equalsIgnoringCase w.name (Text.trim name)

/-- How many buckets of a width cover `interval` seconds. -/
def bucketsFor (w : BucketWidth) (interval : Int) : Int :=
  (interval + w.seconds - 1) / w.seconds

end BucketWidth

inductive Granularity where
  | all
  | simple (width : BucketWidth)
  /-- Buckets of a calendar period in a time zone. -/
  | period (length timeZone : String)
  | named (name : String)
deriving DecidableEq, Repr

namespace Granularity

def ofName (name : String) : Granularity :=
  let trimmed := Text.trim name
  if Text.equalsIgnoringCase trimmed "all" then .all
  else
    match BucketWidth.ofName? trimmed with
    | some w => .simple w
    | none => .named trimmed

/-- Days of a time zone. -/
def daily (timeZone : String) : Granularity := .period "P1D" timeZone

def toJson : Granularity → Json
  | .all => .str "all"
  | .simple w => .str w.name
  | .period length zone =>
    .obj [("type", .str "period"), ("period", .str length), ("timeZone", .str zone)]
  | .named text => .str text

end Granularity

end DruidPanels
