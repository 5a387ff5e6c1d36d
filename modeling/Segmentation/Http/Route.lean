import Segmentation.Text.Split

namespace Segmentation.Http

inductive Route where
  | health
  | ready
  | segments
  | preview
  | refreshAll
  | segment (id : String)
  | refresh (id : String)
  | audience (id : String)
  deriving DecidableEq, Repr

namespace Route

def template : Route → String
  | health => "/health"
  | ready => "/ready"
  | segments => "/api/segments"
  | preview => "/api/segments/preview"
  | refreshAll => "/api/segments/refresh-all"
  | segment _ => "/api/segments/\x7bid\x7d"
  | refresh _ => "/api/segments/\x7bid\x7d/refresh"
  | audience _ => "/api/segments/\x7bid\x7d/audience"

def withId (route : String → Route) (id : String) : Option Route :=
  if id.isEmpty then none else some (route id)

def ofPath? (path : String) : Option Route :=
  match (Text.splitAll '/' path.toList).map String.ofList with
  | ["", "health"] => some health
  | ["", "ready"] => some ready
  | ["", "api", "segments"] => some segments
  | ["", "api", "segments", "preview"] => some preview
  | ["", "api", "segments", "refresh-all"] => some refreshAll
  | ["", "api", "segments", id] => withId segment id
  | ["", "api", "segments", id, "refresh"] => withId refresh id
  | ["", "api", "segments", id, "audience"] => withId audience id
  | _ => none

def label (route : Option Route) : String :=
  (route.map template).getD "unmatched"

end Route

inductive Verb where
  | get
  | post
  deriving DecidableEq, Repr

/-- A request for the head of an answer is served like one for the answer. -/
def Verb.ofMethod? : String → Option Verb
  | "GET" => some get
  | "HEAD" => some get
  | "POST" => some post
  | _ => none

end Segmentation.Http
