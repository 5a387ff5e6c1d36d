import Segmentation.Service.Script
import Segmentation.Store.Customers
import Segmentation.Store.Segments

namespace Segmentation.Service

structure World where
  customers : Store.Customers
  segments : Store.Segments
  clock : Instant
  ids : Nat → Uuid
  /-- How what is left to chance falls out. -/
  coins : Nat → Bool := fun _ => true
  /-- How many identifiers and coins were drawn. -/
  drawn : Nat
  /-- Whether the database answers; nothing where there is none. -/
  database : Option Bool
  /-- All that was measured, the latest first. -/
  measured : List Metrics.Measurement

namespace World

/-- The result of a change of the segments, which a refused change leaves as they are. -/
def change (w : World) (result : Except Failure Store.Segments) : Except Failure Unit × World :=
  match result with
  | .ok segments => (.ok (), { w with segments })
  | .error f => (.error f, w)

/-- The answer to one call, and the world after it. -/
def perform (w : World) : (c : Call) → c.Answer × World
  | .now => (w.clock, w)
  | .freshId => (w.ids w.drawn, { w with drawn := w.drawn + 1 })
  | .toss => (w.coins w.drawn, { w with drawn := w.drawn + 1 })
  | .count filter owner => (.ok (w.customers.count filter owner), w)
  | .find filter owner limit => (.ok (w.customers.find filter owner limit), w)
  | .findByName owner name => (.ok (w.segments.findByName owner name), w)
  | .get owner id => (.ok (w.segments.get? owner id), w)
  | .list owner => (.ok (w.segments.list owner), w)
  | .insert segment => w.change (w.segments.insert segment)
  | .updateStats id stats => w.change (w.segments.updateStats id stats)
  | .record m => ((), { w with measured := m :: w.measured })
  | .probe => (w.database, w)

end World

def Script.run {α : Type} (s : Script α) (w : World) : α × World :=
  match s with
  | .done a => (a, w)
  | .call c next => (next (w.perform c).1).run (w.perform c).2

namespace Script

variable {α β : Type}

@[simp] theorem run_pure (a : α) (w : World) : (pure a : Script α).run w = (a, w) :=
  rfl

@[simp] theorem run_ask (c : Call) (w : World) : (ask c).run w = w.perform c :=
  rfl

@[simp] theorem run_bind (s : Script α) (f : α → Script β) (w : World) :
    (s >>= f).run w = (f (s.run w).1).run (s.run w).2 := by
  change (s.bind f).run w = _
  induction s generalizing w with
  | done a => rfl
  | call c next ih => exact ih _ _

end Script

end Segmentation.Service
