import Segmentation.Compilation
import Segmentation.Rule.Validation
import Segmentation.Service.Script
import Segmentation.Text.Blank
import Segmentation.Word

namespace Segmentation.Service

inductive Operation where
  | preview
  | save
  | refresh
  | audience
  deriving DecidableEq, Repr

def Operation.name : Operation → String
  | preview => "preview"
  | save => "save"
  | refresh => "refresh"
  | audience => "audience"

structure Limits where
  previewSample : Nat
  audience : Nat
  deriving DecidableEq, Repr

structure Draft where
  name : String
  description : Option String
  rules : Json
  deriving BEq, Repr

/-- The customers that rules select at an instant: how many, and the first of them. -/
structure Selection where
  count : Nat
  customers : List Customer
  evaluatedAt : Instant
  deriving DecidableEq, Repr

structure Tally where
  refreshed : Nat
  failed : Nat
  deriving DecidableEq, Repr

def clampCount (n : Nat) : Int :=
  min n Word.maxInt

def validate (op : Operation) (rules : Json) : Action Unit := do
  let problems := Rule.problems rules
  if problems.isEmpty then return
  Action.record (.refusal op.name problems.length)
  Action.fail (.invalidRules (problems.map (·.message)))

def compile (op : Operation) (rules : Json) (now : Instant) : Action Filter := do
  let filter := compileRules now rules
  Action.record (.compilation op.name filter.predicateCount)
  return filter

def select (op : Operation) (limit : Nat) (owner : String) (rules : Json) : Action Selection := do
  validate op rules
  let now ← Action.now
  let filter ← compile op rules now
  let count ← Action.count filter owner
  let customers ← Action.find filter owner limit
  Action.record (.audience op.name count)
  return ⟨count, customers, now⟩

def preview (limits : Limits) (owner : String) (rules : Json) : Action Selection :=
  select .preview limits.previewSample owner rules

def tidyDescription (description : Option String) : Option String :=
  (description.map Text.trim).filter fun text => !text.isEmpty

/-- Stores a new segment with the result of its first evaluation. -/
def save (owner : String) (draft : Draft) : Action Segment := do
  let name := Text.trim draft.name
  if name.isEmpty then Action.fail (.validation "Segment name is required")
  validate .save draft.rules
  if (← Action.findByName owner name).isSome then Action.fail (.nameTaken name)
  let now ← Action.now
  let filter ← compile .save draft.rules now
  let count ← Action.count filter owner
  let id ← Action.freshId
  let segment : Segment :=
    { id, owner, name, filter
      description := tidyDescription draft.description
      rules := draft.rules
      customerCount := none
      isActive := true
      createdAt := now
      updatedAt := now
      lastRun := none }
  let evaluated := segment.applyStats ⟨filter, clampCount count, now⟩
  Action.insert evaluated
  return evaluated

def list (owner : String) : Action (List Segment) :=
  Action.list owner

def get (owner : String) (id : Uuid) : Action Segment := do
  match ← Action.get owner id with
  | some segment => return segment
  | none => Action.fail (.segmentNotFound id.write)

def refreshSegment (segment : Segment) : Action Segment := do
  validate .refresh segment.rules
  let now ← Action.now
  let filter ← compile .refresh segment.rules now
  let count ← Action.count filter segment.owner
  let stats : Segment.Stats := ⟨filter, clampCount count, now⟩
  Action.updateStats segment.id stats
  return segment.applyStats stats

def refresh (owner : String) (id : Uuid) : Action Segment := do
  refreshSegment (← get owner id)

/-- Refreshes segments one after the other; one that fails does not stop the rest. -/
def refreshEach : List Segment → Script Tally
  | [] => return ⟨0, 0⟩
  | segment :: rest => do
    let result ← (refreshSegment segment).run
    let tally ← refreshEach rest
    match result with
    | .ok _ => return { tally with refreshed := tally.refreshed + 1 }
    | .error _ => return { tally with failed := tally.failed + 1 }

def refreshAll (owner : String) : Action Tally := do
  let segments ← Action.list owner
  monadLift (refreshEach (segments.filter (·.isActive)))

def audience (limits : Limits) (owner : String) (id : Uuid) : Action Selection := do
  let segment ← get owner id
  select .audience limits.audience owner segment.rules

end Segmentation.Service
