import Segmentation.Metrics.Series
import Segmentation.Decimal.Style

namespace Segmentation.Metrics

structure Registry where
  started : List String
  readings : List Reading
  deriving Repr

namespace Registry

def counted (r : Registry) : List Series :=
  r.started.map (fun service => ⟨.starts, [("service", service)]⟩) ++
    r.readings.filterMap fun reading => reading.measurement.counter?

def observed (r : Registry) : List (Series × Float) :=
  r.readings.filterMap Reading.observation?

def counterValue (r : Registry) (s : Series) : Nat :=
  r.counted.count s

def observations (r : Registry) (s : Series) : List Float :=
  (r.observed.filter fun o => o.1 == s).map Prod.snd

def series (r : Registry) : List Series :=
  (r.counted ++ r.observed.map Prod.fst).eraseDups

end Registry

namespace Exposition

/-- The characters of a label value. A quote and a line end are escaped. A backslash is doubled
unless it is half of a pair or stands in front of a quote; `held` says that one was met and not yet
written. -/
def escapeLabel (held : Bool) : List Char → List Char
  | [] => if held then ['\\', '\\'] else []
  | '\n' :: rest => '\\' :: 'n' :: escapeLabel held rest
  | '"' :: rest => '\\' :: '"' :: escapeLabel false rest
  | '\\' :: rest => if held then '\\' :: '\\' :: escapeLabel false rest else escapeLabel true rest
  | c :: rest => (if held then ['\\', '\\', c] else [c]) ++ escapeLabel false rest

def label (l : String × String) : String :=
  l.1 ++ "=\"" ++ String.ofList (escapeLabel false l.2.toList) ++ "\""

def line (part : String) (s : Series) (value : String) : String :=
  s.metric.name ++ part ++ "\x7b" ++ ",".intercalate (s.labels.map label) ++ "\x7d " ++ value

def sum (xs : List Float) : Float :=
  xs.foldl (· + ·) 0.0

def seriesLines (r : Registry) (s : Series) : List String :=
  match s.metric.kind with
  | .counter => [line "" s (toString (r.counterValue s))]
  | .summary =>
    let xs := r.observations s
    [line "_sum" s (Decimal.Style.plain.write (sum xs)), line "_count" s (toString xs.length)]

def kindName : Kind → String
  | .counter => "counter"
  | .summary => "summary"

def header (m : Metric) : List String :=
  (m.description?.map fun text => "# HELP " ++ m.name ++ " " ++ text).toList ++
    ["# TYPE " ++ m.name ++ " " ++ kindName m.kind]

def metricLines (r : Registry) (m : Metric) : List String :=
  match r.series.filter fun s => s.metric == m with
  | [] => []
  | series => header m ++ series.flatMap (seriesLines r)

end Exposition

def Registry.expose (r : Registry) : List String :=
  Metric.all.flatMap (Exposition.metricLines r)

end Segmentation.Metrics
