import DruidPanels.Json.Decode
import DruidPanels.Time.Instant

/-! # Series

A series is a name with its points in order. A point is a value and a time in
milliseconds from 1970. A table of series grows by appending points under names:
a name not seen before opens a new series behind the others. -/

namespace DruidPanels

structure Point where
  value : Json
  time : Int

structure Series where
  name : String
  points : List Point

namespace Point

def toJson (p : Point) : Json := .arr [p.value, .ofInt p.time]

def layout : Layout Point :=
  Point.mk <$> .required "value" .json <*> .required "time" .signed

/-- Reads a point: an array of just a value and a time. -/
def decoder : Decoder Point
  | .array items closed deep => layout.decoder (.array items closed deep)
  | d => .error d.misfit

end Point

namespace Series

def layout : Layout Series :=
  Series.mk <$> .required "target" .text <*> .required "datapoints" (.list Point.decoder)

def decoder : Decoder Series := layout.decoder

def toJson (s : Series) : Json :=
  .obj [("target", .str s.name), ("datapoints", .arr (s.points.map Point.toJson))]

/-- Moves the first point to `time` if it lies before. -/
def clampFirst (time : Int) (s : Series) : Series :=
  match s.points with
  | [] => s
  | first :: rest =>
    { s with points := (if first.time < time then { first with time := time } else first) :: rest }

/-- Moves the first point of every series to the second of `start`, if it lies before. -/
def clampStart (start : Instant) (table : List Series) : List Series :=
  table.map (clampFirst (start.seconds * 1000))

/-- Appends a point to the series of a name. -/
def append (name : String) (point : Point) : List Series → List Series
  | [] => [⟨name, [point]⟩]
  | s :: rest =>
    if s.name = name then ⟨name, s.points ++ [point]⟩ :: rest else s :: append name point rest

/-- The table of points that arrive one by one, each with the name of its series. -/
def tabulate (points : List (String × Point)) : List Series :=
  points.foldl (fun table (name, point) => append name point table) []

end Series

end DruidPanels
