namespace Segmentation.Database

inductive Fault where
  | poolTimedOut
  | poolClosed
  | noRow
  | workerCrashed
  | io (text : String)
  | protocol (text : String)
  | rejected (state text : String)
  | undecodable (column : String)
  | badAddress (text : String)
  | encryption (text : String)
  deriving DecidableEq, Repr

namespace Fault

def message : Fault → String
  | poolTimedOut => "pool timed out while waiting for an open connection"
  | poolClosed => "attempted to acquire a connection on a closed pool"
  | noRow => "no rows returned by a query that expected to return at least one row"
  | workerCrashed => "attempted to communicate with a crashed background worker"
  | io text => "error communicating with database: " ++ text
  | protocol text => "encountered unexpected or invalid data: " ++ text
  | rejected _ text => "error returned from database: " ++ text
  | undecodable column => "error occurred while decoding column \"" ++ column ++ "\""
  | badAddress text => "error with configuration: " ++ text
  | encryption text => "error occurred while attempting to establish a TLS connection: " ++ text

def isPassing : Fault → Bool
  | poolTimedOut | poolClosed | io _ => true
  | _ => false

def uniqueViolation : String := "23505"

def isUniqueViolation : Fault → Bool
  | rejected state _ => state == uniqueViolation
  | _ => false

end Fault

end Segmentation.Database
