import Segmentation.Filter
import Segmentation.Json
import Segmentation.Uuid

namespace Segmentation

structure Segment where
  id : Uuid
  owner : String
  name : String
  description : Option String
  rules : Json
  /-- The filter of the last evaluation; it grows old where the rules speak of days. -/
  filter : Filter
  customerCount : Option Int
  isActive : Bool
  createdAt : Instant
  updatedAt : Instant
  lastRun : Option Instant
  deriving BEq, Repr

namespace Segment

structure Stats where
  filter : Filter
  customerCount : Int
  lastRun : Instant
  deriving BEq, Repr

def applyStats (s : Segment) (stats : Stats) : Segment :=
  { s with
    filter := stats.filter
    customerCount := some stats.customerCount
    lastRun := some stats.lastRun
    updatedAt := stats.lastRun }

end Segment

end Segmentation
