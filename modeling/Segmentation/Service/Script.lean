import Segmentation.Customer
import Segmentation.Failure
import Segmentation.Metrics.Measurement
import Segmentation.Segment

namespace Segmentation.Service

inductive Call where
  | now
  | freshId
  /-- Which of two goes first where nothing else decides it. -/
  | toss
  | count (filter : Filter) (owner : String)
  | find (filter : Filter) (owner : String) (limit : Nat)
  | findByName (owner name : String)
  | get (owner : String) (id : Uuid)
  | list (owner : String)
  | insert (segment : Segment)
  | updateStats (id : Uuid) (stats : Segment.Stats)
  | record (m : Metrics.Measurement)
  /-- Whether the database answers; nothing where there is none. -/
  | probe

namespace Call

/-- What a call is answered with. Every access to a store may fail. -/
abbrev Answer : Call → Type
  | now => Instant
  | freshId => Uuid
  | toss => Bool
  | count _ _ => Except Failure Nat
  | find _ _ _ => Except Failure (List Customer)
  | findByName _ _ => Except Failure (Option Segment)
  | get _ _ => Except Failure (Option Segment)
  | list _ => Except Failure (List Segment)
  | insert _ => Except Failure Unit
  | updateStats _ _ => Except Failure Unit
  | record _ => Unit
  | probe => Option Bool

end Call

inductive Script (α : Type) where
  | done (a : α)
  | call (c : Call) (next : c.Answer → Script α)

namespace Script

variable {α β : Type}

def bind (s : Script α) (f : α → Script β) : Script β :=
  match s with
  | done a => f a
  | call c next => call c fun answer => (next answer).bind f

instance : Monad Script where
  pure := done
  bind := bind

def ask (c : Call) : Script c.Answer :=
  call c done

end Script

abbrev Action := ExceptT Failure Script

namespace Action

def fail {α : Type} (f : Failure) : Action α :=
  throw f

def now : Action Instant :=
  monadLift (Script.ask .now)

def freshId : Action Uuid :=
  monadLift (Script.ask .freshId)

def record (m : Metrics.Measurement) : Action Unit :=
  monadLift (Script.ask (.record m))

def count (filter : Filter) (owner : String) : Action Nat :=
  .mk <| Script.ask (.count filter owner)

def find (filter : Filter) (owner : String) (limit : Nat) : Action (List Customer) :=
  .mk <| Script.ask (.find filter owner limit)

def findByName (owner name : String) : Action (Option Segment) :=
  .mk <| Script.ask (.findByName owner name)

def get (owner : String) (id : Uuid) : Action (Option Segment) :=
  .mk <| Script.ask (.get owner id)

def list (owner : String) : Action (List Segment) :=
  .mk <| Script.ask (.list owner)

def insert (segment : Segment) : Action Unit :=
  .mk <| Script.ask (.insert segment)

def updateStats (id : Uuid) (stats : Segment.Stats) : Action Unit :=
  .mk <| Script.ask (.updateStats id stats)

end Action

end Segmentation.Service
