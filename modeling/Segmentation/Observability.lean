import Segmentation.Configuration
import Segmentation.Log.Event
import Segmentation.Metrics.Exposition

namespace Segmentation.Observability

structure Setup where
  service : String
  settings : Configuration.Observability
  environmentFilter : Option String
  portIsFree : Bool
  deriving DecidableEq, Repr

inductive Work where
  | measured (r : Metrics.Reading)
  | compiled (now : Instant) (rules : Json)

def Work.events : Work → List Log.Event
  | .measured r =>
    match r.measurement with
    | .refusal operation errors => [.refused operation errors]
    | _ => []
  | .compiled now rules => ((Rule.Node.ofJson rules).drops now).map .dropped

def Work.reading? : Work → Option Metrics.Reading
  | .measured r => some r
  | .compiled _ _ => none

namespace Setup

def serves (s : Setup) : Bool :=
  s.settings.metricsEnabled && s.portIsFree

def starts (s : Setup) : Bool :=
  !s.settings.metricsEnabled || s.portIsFree

def guard? (s : Setup) : Option Bool :=
  if s.starts then some s.serves else none

def filter (s : Setup) : Log.Filter :=
  Log.Filter.choose s.environmentFilter s.settings.logLevel

def events (s : Setup) (address : String) (work : List Work) : List Log.Event :=
  [.started s.service s.settings.logFormat s.settings.metricsEnabled] ++
    (if s.serves then [.listening address] else []) ++ work.flatMap Work.events ++
    (if s.serves then [.stopping] else [])

def written (s : Setup) (address : String) (work : List Work) : List Log.Event :=
  (s.events address work).filter fun e => s.filter.allows e.target e.level

def registry? (s : Setup) (work : List Work) : Option Metrics.Registry :=
  if s.settings.metricsEnabled then
    some { started := [s.service], readings := work.filterMap Work.reading? }
  else none

end Setup

end Segmentation.Observability
