import Segmentation.Configuration
import Segmentation.Database.Address
import Segmentation.Database.Target
import Segmentation.Fault
import Segmentation.Sql.Query
import Segmentation.Sql.Schema

namespace Segmentation.Database

inductive Order where
  | statement (s : Sql.Statement)
  | script (text : String)
  deriving BEq, Repr

abbrev Server := Order → Except Database.Fault Sql.Outcome

structure Pool where
  maxConnections : Nat
  minConnections : Nat
  isOpen : Bool
  deriving DecidableEq, Repr

namespace Pool

/-- The bounds of a pool; it never keeps more connections than it may have. -/
def ofSettings (s : Configuration.Pool) : Pool where
  maxConnections := s.maxConnections
  minConnections := min s.minConnections s.maxConnections
  isOpen := true

/-- Opens a pool, and says to what, for the log. Only a server that answers can be connected to,
and only without encryption. -/
def connect (answers : Target → Bool) (s : Configuration.Pool) :
    Except Segmentation.Fault (Pool × String) :=
  match Target.ofAddress? s.url with
  | none => .error (.database (.badAddress "it is not an address"))
  | some target =>
    if !answers target then .error (.database (.io "no server answers"))
    else if target.encrypted then .error (.database (.encryption "it is not supported"))
    else .ok (ofSettings s, Address.hidePassword s.url)

def close (p : Pool) : Pool :=
  { p with isOpen := false }

def send (p : Pool) (server : Server) (order : Order) :
    Except Segmentation.Fault Sql.Outcome × List Order :=
  if p.isOpen then ((server order).mapError .database, [order])
  else (.error (.database .poolClosed), [])

def probe : Order :=
  .statement ⟨[.plain "SELECT", .plain "1"], []⟩

def makeTables : Order :=
  .script Sql.Schema.script

end Pool

end Segmentation.Database
