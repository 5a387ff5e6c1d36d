import Segmentation.Instant
import Segmentation.Json.Reader
import Segmentation.Json.Writer
import Segmentation.Uuid

namespace Segmentation

namespace Instant

/-- The microseconds since 1970-01-01 at 2000-01-01, from which a database counts. -/
def databaseEpoch : Int := 946684800000000

/-- The instant in microseconds since 1970-01-01. What is left over is dropped towards the epoch
of the database. -/
def micros (t : Instant) : Int :=
  databaseEpoch + (t.nanos - databaseEpoch * 1000).tdiv 1000

def ofMicros? (micros : Int) : Option Instant :=
  ofNanos? (micros * 1000)

end Instant

namespace Sql

inductive Value where
  | null
  | bool (b : Bool)
  | int (n : Int)
  | float (x : Float)
  | text (s : String)
  | uuid (id : Uuid)
  /-- A point in time, in microseconds since 1970-01-01. -/
  | time (micros : Int)
  | json (value : Json)
  deriving BEq, Repr

namespace Value

def optional {α : Type} (write : α → Value) : Option α → Value
  | none => null
  | some a => write a

def ofInstant (t : Instant) : Value := time t.micros

def bool? : Value → Option Bool
  | bool b => some b
  | _ => none

def int? : Value → Option Int
  | int n => some n
  | _ => none

def float? : Value → Option Float
  | float x => some x
  | _ => none

def text? : Value → Option String
  | text s => some s
  | _ => none

def uuid? : Value → Option Uuid
  | uuid id => some id
  | _ => none

def instant? : Value → Option Instant
  | time micros => Instant.ofMicros? micros
  | _ => none

/-- A document is sent as text, and read again from the text that was sent. -/
def json? (read? : String → Option Json) : Value → Option Json
  | json value => read? value.write
  | _ => none

def orNull? {α : Type} (read : Value → Option α) : Value → Option (Option α)
  | null => some none
  | v => (read v).map some

end Value

end Sql

end Segmentation
