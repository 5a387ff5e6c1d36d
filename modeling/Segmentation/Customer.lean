import Segmentation.Attribute
import Segmentation.Uuid

namespace Segmentation

structure Customer where
  id : Uuid
  owner : String
  name : String
  email : String
  spend : Float
  visits : Int
  lastOrder : Option Instant
  createdAt : Instant
  deriving DecidableEq, Repr

namespace Customer

/-- A customer who never ordered has no date of the last order; the other attributes are always
there. -/
def record (c : Customer) : Record
  | .spend => some (.number c.spend)
  | .visits => some (.number (Decimal.floatOfInt c.visits))
  | .lastOrderDate => c.lastOrder.map .timestamp

/-- The time between two instants in whole milliseconds, what is left over dropped. -/
def millisBetween (s t : Instant) : Int :=
  ((t.since s).tdiv Instant.nanosPerMilli).natAbs

/-- Days since the last order, begun days counting in full. -/
def inactiveDays (c : Customer) (now : Instant) : Option Int :=
  c.lastOrder.map fun last =>
    (millisBetween last now + Instant.millisPerDay - 1) / Instant.millisPerDay

end Customer

end Segmentation
