import Segmentation.Metrics.Measurement
import Segmentation.Decimal

namespace Segmentation.Metrics

inductive Kind where
  | counter
  | summary
  deriving DecidableEq, Repr

inductive Metric where
  | requests
  | requestSeconds
  | compilations
  | compilationSeconds
  | refusals
  | audienceSize
  | starts
  deriving DecidableEq, Repr

namespace Metric

def all : List Metric :=
  [requests, requestSeconds, compilations, compilationSeconds, refusals, audienceSize, starts]

def name : Metric → String
  | requests => "http_requests_total"
  | requestSeconds => "http_request_duration_seconds"
  | compilations => "segment_compilations_total"
  | compilationSeconds => "segment_compilation_duration_seconds"
  | refusals => "segment_validation_failures_total"
  | audienceSize => "segment_audience_size"
  | starts => "service_starts_total"

def kind : Metric → Kind
  | requests | compilations | refusals | starts => .counter
  | requestSeconds | compilationSeconds | audienceSize => .summary

def description? : Metric → Option String
  | requests => some "Total number of HTTP requests"
  | requestSeconds => some "HTTP request duration in seconds"
  | compilations => some "Total number of segment rule compilations"
  | compilationSeconds => some "Segment rule compilation duration in seconds"
  | refusals => some "Total number of rule trees rejected by validation"
  | audienceSize => some "Number of customers matched by a segment"
  | starts => none

end Metric

structure Series where
  metric : Metric
  labels : List (String × String)
  deriving DecidableEq, Repr

structure Reading where
  measurement : Measurement
  seconds : Float
  deriving DecidableEq, Repr

namespace Measurement

def matchAllLabel (predicates : Nat) : String :=
  if predicates = 0 then "true" else "false"

def counter? : Measurement → Option Series
  | request method path status =>
    some ⟨.requests, [("method", method), ("path", path), ("status", toString status)]⟩
  | compilation operation predicates =>
    some ⟨.compilations, [("operation", operation), ("match_all", matchAllLabel predicates)]⟩
  | refusal operation _ => some ⟨.refusals, [("operation", operation)]⟩
  | audience _ _ => none

end Measurement

namespace Reading

def observation? (r : Reading) : Option (Series × Float) :=
  match r.measurement with
  | .request method path status =>
    some (⟨.requestSeconds, [("method", method), ("path", path), ("status", toString status)]⟩,
      r.seconds)
  | .compilation operation _ => some (⟨.compilationSeconds, [("operation", operation)]⟩, r.seconds)
  | .refusal _ _ => none
  | .audience operation count =>
    some (⟨.audienceSize, [("operation", operation)]⟩, Decimal.floatOfInt count)

end Reading

end Segmentation.Metrics
