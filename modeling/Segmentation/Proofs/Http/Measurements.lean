import Segmentation.Proofs.Http.Changes
import Segmentation.Proofs.Metrics.Counts
import Segmentation.Proofs.Rule.Pruning
import Segmentation.Proofs.Service.Measurements

namespace Segmentation

open Metrics (Measurement Registry Series)

namespace Http

open Service (Action Draft Limits Measures Operation Script Tally World)

def Route.operation? : Route → Verb → Option Operation
  | .preview, .post => some .preview
  | .segments, .post => some .save
  | .refresh _, .post => some .refresh
  | .audience _, .get => some .audience
  | _, _ => none

def Request.rules? (r : Request) (w : World) : Route → Option Json
  | .preview => (Payload.readRules r).toOption
  | .segments => (Payload.readDraft r).toOption.map (·.rules)
  | .refresh raw | .audience raw => do
    let segment ← w.segments.get? (← r.user?) (← Server.segmentId? raw)
    return segment.rules
  | _ => none

namespace Response

def member? (x : Response) (key : String) : Option Json :=
  match x.body with
  | .json value => value.get? key
  | _ => none

def code? (x : Response) : Option String :=
  (x.member? "code").bind Json.str?

def number (x : Response) (key : String) : Nat :=
  (((x.member? "data").bind (Json.get? key)).bind Json.int?).elim 0 Int.toNat

def success : Operation → Nat
  | .save => 201
  | .preview | .refresh | .audience => 200

def sizes (x : Response) : Operation → List Nat
  | .preview | .audience => [x.number "count"]
  | .save | .refresh => []

theorem code?_ofFailure (f : Failure) : (ofFailure f).code? = some f.code := by
  cases f <;> rfl

end Response

namespace Server

/-- What is measured of a request for an operation, by how it is answered. -/
inductive Accounts (op : Operation) (rules? : Option Json) (w : World) : Response × World → Prop
  | idle {x : Response} {w' : World} (status : 400 ≤ x.status)
      (code : x.code? ≠ some "INVALID_RULES") (measured : w'.measured = w.measured) :
      Accounts op rules? w (x, w')
  | invalid {x : Response} {w' : World} {errors : Nat} (status : 400 ≤ x.status)
      (code : x.code? = some "INVALID_RULES")
      (measured : w'.measured = .refusal op.name errors :: w.measured) :
      Accounts op rules? w (x, w')
  | done {x : Response} {w' : World} {rules : Json} (status : x.status = Response.success op)
      (code : x.code? = some "SUCCESS") (evaluated : rules? = some rules)
      (measured : w'.measured = (x.sizes op).map (.audience op.name) ++
        .compilation op.name (compileRules w.clock rules).predicateCount :: w.measured) :
      Accounts op rules? w (x, w')

section Accounts

variable {α : Type} {op : Operation} {rules? : Option Json} {w : World} {r : Request}

theorem accounts_ofFailure {f : Failure} {w' : World} (h : f.code ≠ "INVALID_RULES")
    (measured : w'.measured = w.measured) : Accounts op rules? w (.ofFailure f, w') := by
  refine .idle (status_ofFailure f) ?_ measured
  rw [Response.code?_ofFailure]
  exact fun heq => h (Option.some.inj heq)

theorem accounts_reject {f : Failure} (h : f.code ≠ "INVALID_RULES") :
    Accounts op rules? w ((reject f).run w) :=
  accounts_ofFailure h rfl

theorem accounts_reply {action : Action α} {respond : α → Response} {sizes : α → List Nat}
    (h : Measures op rules? sizes w (action.run.run w))
    (status : ∀ a, (respond a).status = Response.success op)
    (code : ∀ a, (respond a).code? = some "SUCCESS") (told : ∀ a, (respond a).sizes op = sizes a) :
    Accounts op rules? w ((reply action respond).run w) := by
  rw [reply, Script.run_bind]
  generalize action.run.run w = result at h ⊢
  cases h with
  | refused hcode measured => exact accounts_ofFailure hcode measured
  | @invalid f errors w' hcode measured =>
    refine .invalid (status_ofFailure f) ?_ measured
    rw [Response.code?_ofFailure, hcode]
  | @done a rules w' evaluated measured =>
    refine .done (status a) (code a) evaluated ?_
    rw [told]
    exact measured

theorem accounts_asUser {serve : String → Script Response}
    (h : ∀ user, r.user? = some user → Accounts op rules? w ((serve user).run w)) :
    Accounts op rules? w ((asUser r serve).run w) := by
  rw [asUser]
  cases huser : r.user? with
  | none => exact accounts_reject (by decide)
  | some user => exact h user huser

theorem accounts_withSegment {raw : String} {serve : Uuid → Script Response}
    (h : ∀ id, segmentId? raw = some id → Accounts op rules? w ((serve id).run w)) :
    Accounts op rules? w ((withSegment raw serve).run w) := by
  rw [withSegment]
  cases htext : Text.Percent.decodeText? raw.toList with
  | none => exact .idle (Nat.le_refl 400) (Option.some_ne_none _).symm rfl
  | some text =>
    simp only
    cases hid : Uuid.read? text with
    | none => exact accounts_reject (by simp [Failure.code])
    | some id =>
      apply h
      rw [segmentId?, htext, Option.bind_some, hid]

theorem accounts_withPayload {payload : Except Payload.Fault α} {serve : α → Script Response}
    (h : ∀ a, payload = .ok a → Accounts op rules? w ((serve a).run w)) :
    Accounts op rules? w ((withPayload payload serve).run w) := by
  cases payload with
  | ok a => exact h a rfl
  | error f => exact .idle (status_ofFault f) (Option.some_ne_none _).symm rfl

theorem accounts_create {user : String} {draft : Draft} (covered : w.segments.Covered) :
    Accounts .save (some draft.rules) w ((create user draft).run w) := by
  rw [create]
  cases lengthProblems draft with
  | nil =>
    exact accounts_reply (Service.measures_save draft covered) (fun _ => rfl) (fun _ => rfl)
      fun _ => rfl
  | cons problem rest =>
    have hcode (text : String) : (Failure.validation text).code ≠ "INVALID_RULES" := by
      rw [Failure.code]
      decide
    exact accounts_ofFailure (hcode _) rfl

theorem accounts_serve {limits : Limits} {route : Route} {verb : Verb} {script : Script Response}
    (hop : route.operation? verb = some op) (h : serve limits r route verb = some script)
    (covered : w.segments.Covered) : Accounts op (r.rules? w route) w (script.run w) := by
  -- One case for each operation.
  cases route <;> cases verb <;> cases hop <;> cases h
  case segments.post =>
    refine accounts_asUser fun user _ => accounts_withPayload fun draft hdraft => ?_
    rw [Request.rules?, hdraft]
    exact accounts_create covered
  case preview.post =>
    refine accounts_asUser fun user _ => accounts_withPayload fun rules hrules => ?_
    rw [Request.rules?, hrules]
    exact accounts_reply (Service.measures_select .preview limits.previewSample user rules w)
      (fun _ => rfl) (fun _ => rfl) fun _ => rfl
  case refresh.post raw =>
    refine accounts_asUser fun user huser => accounts_withSegment fun id hid => ?_
    have hrules : r.rules? w (.refresh raw) = (w.segments.get? user id).map (·.rules) := by
      rw [Request.rules?, huser, hid]
      exact (Option.map_eq_bind ..).symm
    rw [hrules]
    exact accounts_reply (Service.measures_refresh user id w) (fun _ => rfl) (fun _ => rfl)
      fun _ => rfl
  case audience.get raw =>
    refine accounts_asUser fun user huser => accounts_withSegment fun id hid => ?_
    have hrules : r.rules? w (.audience raw) = (w.segments.get? user id).map (·.rules) := by
      rw [Request.rules?, huser, hid]
      exact (Option.map_eq_bind ..).symm
    rw [hrules]
    exact accounts_reply (Service.measures_audience limits user id w) (fun _ => rfl) (fun _ => rfl)
      fun _ => rfl

end Accounts

/-- A refresh of all segments is not begun, or it tells how often it has measured what. -/
inductive AccountsAll (r : Request) (w : World) : Response × World → Prop
  | idle {x : Response} {w' : World} (status : 400 ≤ x.status)
      (measured : w'.measured = w.measured) : AccountsAll r w (x, w')
  | done {user : String} {x : Response} {w' : World} (huser : r.user? = some user)
      (status : x.status = 200)
      (refreshed : x.number "refreshed" = (w.segments.due user).countP fun s => s.IsSound)
      (failed : x.number "failed" = (w.segments.due user).countP fun s => ¬s.IsSound)
      (measured : w'.measured = ((w.segments.due user).map w.refreshed).reverse ++ w.measured) :
      AccountsAll r w (x, w')

section Serving

variable {limits : Limits} {r : Request} {w : World} {route : Route} {verb : Verb}
  {script : Script Response}

theorem accountsAll_serve (h : serve limits r .refreshAll .post = some script) :
    AccountsAll r w (script.run w) := by
  cases h
  rw [asUser]
  cases huser : r.user? with
  | none => exact .idle (status_ofFailure _) rfl
  | some user =>
    obtain ⟨w', hrun, hmeasured⟩ := Service.run_refreshAll_measures user w
    simp only [reply, Script.run_bind, hrun]
    exact .done huser rfl rfl rfl hmeasured

theorem measured_withSegment {raw : String} {serve : Uuid → Script Response}
    (h : ∀ id, ((serve id).run w).2.measured = w.measured) :
    ((withSegment raw serve).run w).2.measured = w.measured := by
  rw [withSegment]
  cases Text.Percent.decodeText? raw.toList with
  | none => rfl
  | some text =>
    simp only
    cases Uuid.read? text with
    | none => rfl
    | some id => exact h id

theorem measured_serve (hop : route.operation? verb = none) (hall : route ≠ .refreshAll)
    (h : serve limits r route verb = some script) :
    (script.run w).2.measured = w.measured := by
  have asUser_measured {serve : String → Script Response}
      (hserve : ∀ user, ((serve user).run w).2.measured = w.measured) :
      ((asUser r serve).run w).2.measured = w.measured := by
    rw [asUser]
    cases r.user? with
    | none => rfl
    | some user => exact hserve user
  cases route <;> cases verb <;> cases hop <;> cases h
  case health.get => rfl
  case ready.get => rfl
  case segments.get => exact asUser_measured fun user => rfl
  case segment.get =>
    refine asUser_measured fun user => measured_withSegment fun id => ?_
    rw [reply, Script.run_bind, Service.run_get]
    cases w.segments.get? user id <;> rfl
  all_goals exact absurd rfl hall

end Serving

end Server

/-- A request that was answered, and the world in which it came in. The response is the one before
its body is left out where only the head of the answer was asked for. -/
structure Answered where
  world : World
  request : Request
  response : Response

namespace Answered

def ofRequest (limits : Limits) (w : World) (r : Request) : Answered where
  world := w
  request := r
  response :=
    ((Server.respond limits r (Route.ofPath? r.path)).run ((RequestId.ofRequest r).run w).2).1

def sent (a : Answered) : Response :=
  if a.request.method = "HEAD" then { a.response with body := .empty } else a.response

def label (a : Answered) : String :=
  Route.label (Route.ofPath? a.request.path)

def series (a : Answered) : Series :=
  ⟨.requests, [("method", a.request.method), ("path", a.label),
    ("status", toString a.response.status)]⟩

def operation? (a : Answered) : Option Operation :=
  (Route.ofPath? a.request.path).bind fun route =>
    (Verb.ofMethod? a.request.method).bind route.operation?

def Succeeds (a : Answered) (op : Operation) : Prop :=
  a.operation? = some op ∧ a.response.status = Response.success op

def Refuses (a : Answered) (op : Operation) : Prop :=
  a.operation? = some op ∧ a.response.code? = some "INVALID_RULES"

def RefreshesAll (a : Answered) : Prop :=
  a.request.Asks .refreshAll .post ∧ a.response.status = 200

instance (a : Answered) (op : Operation) : Decidable (a.Succeeds op) :=
  inferInstanceAs (Decidable (_ ∧ _))

instance (a : Answered) (op : Operation) : Decidable (a.Refuses op) :=
  inferInstanceAs (Decidable (_ ∧ _))

instance (r : Request) (route : Route) (verb : Verb) : Decidable (r.Asks route verb) :=
  decidable_of_iff (Route.ofPath? r.path = some route ∧ Verb.ofMethod? r.method = some verb)
    ⟨fun h => ⟨h.1, h.2⟩, fun h => ⟨h.route, h.verb⟩⟩

instance (a : Answered) : Decidable a.RefreshesAll :=
  inferInstanceAs (Decidable (_ ∧ _))

/-- How many evaluations the answer tells for an operation. -/
def successes (op : Operation) (a : Answered) : Nat :=
  (if a.Succeeds op then 1 else 0) +
    if op = .refresh ∧ a.RefreshesAll then a.response.number "refreshed" else 0

/-- How many refusals of rules the answer tells for an operation. -/
def refusals (op : Operation) (a : Answered) : Nat :=
  (if a.Refuses op then 1 else 0) +
    if op = .refresh ∧ a.RefreshesAll then a.response.number "failed" else 0

/-- The sizes of audiences that the answer tells for an operation. -/
def sizes (op : Operation) (a : Answered) : List Nat :=
  if a.Succeeds op then a.response.sizes op else []

def rules? (a : Answered) : Option Json :=
  (Route.ofPath? a.request.path).bind (a.request.rules? a.world)

/-- The segments that a refresh of all of them takes up and refreshes. -/
def refreshed (a : Answered) : List Segment :=
  a.request.user?.elim [] fun user => (a.world.segments.due user).filter fun s => s.IsSound

/-- The filters that were compiled for the answer. -/
def filters (op : Operation) (a : Answered) : List Filter :=
  ((if a.Succeeds op then a.rules?.toList else []) ++
    if op = .refresh ∧ a.RefreshesAll then a.refreshed.map (·.rules) else []).map
    (compileRules a.world.clock)

end Answered

/-- What was measured of an operation is what the answers tell of it. -/
structure Tells (op : Operation) (answers : List Answered) (measured : List Measurement) :
    Prop where
  compilations : measured.filterMap (·.predicates? op.name) =
    (answers.flatMap (·.filters op)).map (·.predicateCount)
  successes : ∀ a ∈ answers, (a.filters op).length = a.successes op
  refusals : measured.countP (·.isRefusal op.name) = (answers.map (·.refusals op)).sum
  sizes : measured.filterMap (·.size? op.name) = answers.flatMap (·.sizes op)

theorem Tells.append {op : Operation} {answers answers' : List Answered}
    {measured measured' : List Measurement} (h : Tells op answers measured)
    (h' : Tells op answers' measured') :
    Tells op (answers ++ answers') (measured ++ measured') where
  compilations := by
    rw [List.filterMap_append, h.compilations, h'.compilations, List.flatMap_append,
      List.map_append]
  successes a ha := (List.mem_append.1 ha).elim (h.successes a) (h'.successes a)
  refusals := by
    rw [List.countP_append, h.refusals, h'.refusals, List.map_append, List.sum_append]
  sizes := by rw [List.filterMap_append, h.sizes, h'.sizes, List.flatMap_append]

section Single

variable {a : Answered} {op op' : Operation} {measured : List Measurement}

theorem operation_name_inj : op.name = op'.name ↔ op = op' := by
  cases op <;> cases op' <;> decide

theorem Answered.Succeeds.unique (h : a.Succeeds op) (h' : a.Succeeds op') : op = op' :=
  Option.some.inj (h.1.symm.trans h'.1)

theorem Answered.Refuses.unique (h : a.Refuses op) (h' : a.Refuses op') : op = op' :=
  Option.some.inj (h.1.symm.trans h'.1)

theorem tells_of_silent (failed : ¬a.Succeeds op) (accepted : ¬a.Refuses op)
    (single : op = .refresh → ¬a.RefreshesAll)
    (silent : ∀ m ∈ measured, m.operation? ≠ some op.name) : Tells op [a] measured := by
  have hsingle : ¬(op = .refresh ∧ a.RefreshesAll) := fun h => single h.1 h.2
  constructor
  · simp [Measurement.filterMap_predicates?_eq_nil silent, Answered.filters, failed, hsingle]
  · simp [Answered.filters, Answered.successes, failed, hsingle]
  · simp [Measurement.countP_isRefusal_eq_zero silent, Answered.refusals, accepted, hsingle]
  · simp [Measurement.filterMap_size?_eq_nil silent, Answered.sizes, failed]

theorem tells_refusal {errors : Nat} (failed : ¬a.Succeeds op) (refused : a.Refuses op)
    (single : ¬a.RefreshesAll) : Tells op [a] [.refusal op.name errors] := by
  constructor
  · simp [Measurement.predicates?, Answered.filters, failed, single]
  · simp [Answered.filters, Answered.successes, failed, single]
  · simp [Measurement.isRefusal, Answered.refusals, refused, single]
  · simp [Measurement.size?, Answered.sizes, failed]

theorem tells_compilation {rules : Json} (succeeded : a.Succeeds op) (accepted : ¬a.Refuses op)
    (single : ¬a.RefreshesAll) (evaluated : a.rules? = some rules) :
    Tells op [a] (.compilation op.name (compileRules a.world.clock rules).predicateCount ::
      (a.response.sizes op).map (.audience op.name)) := by
  constructor
  · simp [Measurement.predicates?, Answered.filters, succeeded, single, evaluated,
      List.filterMap_map]
  · simp [Answered.filters, Answered.successes, succeeded, single, evaluated]
  · simp [Measurement.isRefusal, Answered.refusals, accepted, single, List.countP_map,
      Function.comp_def]
  · simp [Measurement.size?, Answered.sizes, succeeded, List.filterMap_map]

section Refreshed

variable (w : World) (segments : List Segment)

theorem filterMap_predicates?_refreshed :
    (segments.map w.refreshed).filterMap (·.predicates? Operation.refresh.name) =
      (segments.filter fun s => s.IsSound).map
        fun s => (compileRules w.clock s.rules).predicateCount := by
  induction segments with
  | nil => rfl
  | cons s rest ih =>
    by_cases sound : s.IsSound <;>
      simp [World.refreshed, sound, Measurement.predicates?, Operation.name, ← ih]

theorem countP_isRefusal_refreshed :
    (segments.map w.refreshed).countP (·.isRefusal Operation.refresh.name) =
      segments.countP fun s => ¬s.IsSound := by
  rw [List.countP_map]
  refine List.countP_congr fun s _ => ?_
  by_cases sound : s.IsSound <;>
    simp [World.refreshed, sound, Measurement.isRefusal, Operation.name]

theorem filterMap_size?_refreshed (operation : String) :
    (segments.map w.refreshed).filterMap (·.size? operation) = [] := by
  rw [List.filterMap_map]
  refine List.filterMap_eq_nil_iff.2 fun s _ => ?_
  by_cases sound : s.IsSound <;> simp [World.refreshed, sound, Measurement.size?]

end Refreshed

theorem tells_refreshedAll {user : String} (failed : ¬a.Succeeds .refresh)
    (accepted : ¬a.Refuses .refresh) (all : a.RefreshesAll) (huser : a.request.user? = some user)
    (refreshed : a.response.number "refreshed" =
      (a.world.segments.due user).countP fun s => s.IsSound)
    (failures : a.response.number "failed" =
      (a.world.segments.due user).countP fun s => ¬s.IsSound) :
    Tells .refresh [a] ((a.world.segments.due user).map a.world.refreshed) := by
  constructor
  · rw [filterMap_predicates?_refreshed]
    simp [Answered.filters, Answered.refreshed, failed, all, huser, Function.comp_def]
  · simp [Answered.filters, Answered.refreshed, Answered.successes, failed, all, huser, refreshed,
      List.countP_eq_length_filter]
  · rw [countP_isRefusal_refreshed, ← failures]
    simp [Answered.refusals, accepted, all]
  · rw [filterMap_size?_refreshed]
    simp [Answered.sizes, failed]

/-- What is measured of an answer before the request itself, the earliest first. -/
structure Answered.Measures (a : Answered) (measured : List Measurement) : Prop where
  tells : ∀ op, Tells op [a] measured
  named : ∀ m ∈ measured, ∃ op : Operation, m.operation? = some op.name

theorem Answered.not_succeeds (status : 400 ≤ a.response.status) (op : Operation) :
    ¬a.Succeeds op := by
  rintro ⟨-, hsuccess⟩
  rw [hsuccess] at status
  cases op <;> exact absurd status (by decide)

theorem Answered.not_succeeds_of_none (h : a.operation? = none) (op : Operation) :
    ¬a.Succeeds op :=
  fun hs => Option.some_ne_none op (hs.1.symm.trans h)

theorem Answered.not_refuses_of_none (h : a.operation? = none) (op : Operation) :
    ¬a.Refuses op :=
  fun hr => Option.some_ne_none op (hr.1.symm.trans h)

theorem Answered.not_refreshesAll (status : 400 ≤ a.response.status) : ¬a.RefreshesAll := by
  rintro ⟨-, hdone⟩
  rw [hdone] at status
  exact absurd status (by decide)

theorem silent_of_named {named : Operation} (h : ∀ m ∈ measured, m.operation? = some named.name)
    (hne : op ≠ named) : ∀ m ∈ measured, m.operation? ≠ some op.name := by
  intro m hm heq
  rw [h m hm] at heq
  exact hne (operation_name_inj.1 (Option.some.inj heq)).symm

theorem measures_idle (failed : ∀ op, ¬a.Succeeds op) (accepted : ∀ op, ¬a.Refuses op)
    (single : ¬a.RefreshesAll) : a.Measures [] where
  tells op := tells_of_silent (failed op) (accepted op) (fun _ => single) nofun
  named := nofun

theorem measures_invalid (errors : Nat) (status : 400 ≤ a.response.status)
    (refused : a.Refuses op) :
    a.Measures [.refusal op.name errors] where
  tells op' := by
    have failed := a.not_succeeds status
    have single := a.not_refreshesAll status
    by_cases hop : op' = op
    · rw [hop]
      exact tells_refusal (failed op) refused single
    · refine tells_of_silent (failed op') (fun h => hop (h.unique refused)) (fun _ => single)
        (silent_of_named (fun m hm => ?_) hop)
      rw [List.mem_singleton.1 hm]
      rfl
  named m hm := ⟨op, by rw [List.mem_singleton.1 hm]; rfl⟩

theorem measures_done {rules : Json} (succeeded : a.Succeeds op) (accepted : ∀ op, ¬a.Refuses op)
    (single : ¬a.RefreshesAll) (evaluated : a.rules? = some rules) :
    a.Measures (.compilation op.name (compileRules a.world.clock rules).predicateCount ::
      (a.response.sizes op).map (.audience op.name)) := by
  have named : ∀ m ∈ Measurement.compilation op.name
      (compileRules a.world.clock rules).predicateCount ::
        (a.response.sizes op).map (.audience op.name), m.operation? = some op.name := by
    simp [Measurement.operation?]
  refine ⟨fun op' => ?_, fun m hm => ⟨op, named m hm⟩⟩
  by_cases hop : op' = op
  · rw [hop]
    exact tells_compilation succeeded (accepted op) single evaluated
  · exact tells_of_silent (fun h => hop (h.unique succeeded)) (accepted op') (fun _ => single)
      (silent_of_named named hop)

theorem measures_refreshedAll {user : String} (failed : ∀ op, ¬a.Succeeds op)
    (accepted : ∀ op, ¬a.Refuses op) (all : a.RefreshesAll) (huser : a.request.user? = some user)
    (refreshed : a.response.number "refreshed" =
      (a.world.segments.due user).countP fun s => s.IsSound)
    (failures : a.response.number "failed" =
      (a.world.segments.due user).countP fun s => ¬s.IsSound) :
    a.Measures ((a.world.segments.due user).map a.world.refreshed) := by
  have named : ∀ m ∈ (a.world.segments.due user).map a.world.refreshed,
      m.operation? = some Operation.refresh.name := by
    intro m hm
    obtain ⟨s, -, rfl⟩ := List.mem_map.1 hm
    rw [World.refreshed]
    split <;> rfl
  refine ⟨fun op => ?_, fun m hm => ⟨.refresh, named m hm⟩⟩
  by_cases hop : op = .refresh
  · rw [hop]
    exact tells_refreshedAll (failed _) (accepted _) all huser refreshed failures
  · exact tells_of_silent (failed op) (accepted op) (fun h => absurd h hop)
      (silent_of_named named hop)

end Single

section Step

variable {limits : Limits} {r : Request} {w : World} {route : Route} {verb : Verb}
  {op : Operation} {served : Response × World}

theorem operation?_of_asks (asks : r.Asks route verb) (x : Response) :
    (Answered.mk w r x).operation? = route.operation? verb := by
  rw [Answered.operation?, asks.route, Option.bind_some, asks.verb, Option.bind_some]

theorem measures_refused {x : Response} (status : 400 ≤ x.status)
    (code : x.code? ≠ some "INVALID_RULES") : (Answered.mk w r x).Measures [] :=
  measures_idle (Answered.not_succeeds status) (fun _ h => code h.2)
    (Answered.not_refreshesAll status)

theorem Server.Accounts.measures (h : Server.Accounts op (r.rules? w route) w served)
    (asks : r.Asks route verb) (hop : route.operation? verb = some op) :
    ∃ measured, (Answered.mk w r served.1).Measures measured ∧
      served.2.measured = measured.reverse ++ w.measured := by
  have hoperation := (operation?_of_asks (w := w) asks served.1).trans hop
  cases h with
  | idle status code measured =>
    exact ⟨[], measures_refused status code, measured⟩
  | @invalid x w' errors status code measured =>
    exact ⟨_, measures_invalid errors status ⟨hoperation, code⟩, measured⟩
  | @done x w' rules status code evaluated measured =>
    have accepted (op' : Operation) : ¬(Answered.mk w r x).Refuses op' := by
      rintro ⟨-, hrefused⟩
      exact absurd (code.symm.trans hrefused) (by decide)
    have single : ¬(Answered.mk w r x).RefreshesAll := by
      rintro ⟨hasks, -⟩
      obtain ⟨rfl, rfl⟩ := asks.eq hasks
      cases hop
    have hrules : (Answered.mk w r x).rules? = some rules := by
      rw [Answered.rules?, asks.route, Option.bind_some, evaluated]
    refine ⟨_, measures_done ⟨hoperation, status⟩ accepted single hrules, measured.trans ?_⟩
    cases op <;> rfl

theorem Server.AccountsAll.measures (h : Server.AccountsAll r w served)
    (asks : r.Asks .refreshAll .post) :
    ∃ measured, (Answered.mk w r served.1).Measures measured ∧
      served.2.measured = measured.reverse ++ w.measured := by
  have hoperation : (Answered.mk w r served.1).operation? = none := operation?_of_asks asks _
  have failed := Answered.not_succeeds_of_none hoperation
  have accepted := Answered.not_refuses_of_none hoperation
  cases h with
  | idle status measured =>
    exact ⟨[], measures_idle failed accepted (Answered.not_refreshesAll status), measured⟩
  | done huser status refreshed failures measured =>
    exact ⟨_, measures_refreshedAll failed accepted ⟨asks, status⟩ huser refreshed failures,
      measured⟩

theorem measures_serve {script : Script Response} (asks : r.Asks route verb)
    (h : Server.serve limits r route verb = some script) (covered : w.segments.Covered) :
    ∃ measured, (Answered.mk w r (script.run w).1).Measures measured ∧
      (script.run w).2.measured = measured.reverse ++ w.measured := by
  -- One case for the operations on single sets of rules, one for the refresh of all segments, and
  -- one for the routes that evaluate nothing.
  cases hop : route.operation? verb with
  | some op => exact (Server.accounts_serve hop h covered).measures asks hop
  | none =>
    by_cases hall : route = .refreshAll
    · subst hall
      cases verb with
      | get => cases h
      | post => exact (Server.accountsAll_serve h).measures asks
    · have hoperation := (operation?_of_asks (w := w) asks (script.run w).1).trans hop
      have single : ¬(Answered.mk w r (script.run w).1).RefreshesAll :=
        fun ha => hall (asks.eq ha.1).1
      exact ⟨[], measures_idle (Answered.not_succeeds_of_none hoperation)
        (Answered.not_refuses_of_none hoperation) single, Server.measured_serve hop hall h⟩

theorem measures_respond (limits : Limits) (r : Request) (covered : w.segments.Covered) :
    ∃ measured,
      (Answered.mk w r ((Server.respond limits r (Route.ofPath? r.path)).run w).1).Measures
        measured ∧
      ((Server.respond limits r (Route.ofPath? r.path)).run w).2.measured =
        measured.reverse ++ w.measured := by
  have uncoded : none ≠ some "INVALID_RULES" := (Option.some_ne_none _).symm
  cases hroute : Route.ofPath? r.path with
  | none => exact ⟨[], measures_refused (Nat.le_of_ble_eq_true rfl) uncoded, rfl⟩
  | some route =>
    rw [Server.respond]
    cases hserve : (Verb.ofMethod? r.method).bind (Server.serve limits r route) with
    | none => exact ⟨[], measures_refused (Nat.le_of_ble_eq_true rfl) uncoded, rfl⟩
    | some script =>
      obtain ⟨verb, hverb, hscript⟩ := Option.bind_eq_some_iff.1 hserve
      exact measures_serve ⟨hroute, hverb⟩ hscript covered

end Step

theorem Answered.Measures.of_drawn {r : Request} {x : Response} {w : World} {n : Nat}
    {measured : List Measurement}
    (h : (Answered.mk { w with drawn := n } r x).Measures measured) :
    (Answered.mk w r x).Measures measured := by
  -- It makes no difference to what is measured which identifiers were drawn before.
  have hrules : (Answered.mk { w with drawn := n } r x).rules? = (Answered.mk w r x).rules? := by
    rw [Answered.rules?, Answered.rules?]
    cases Route.ofPath? r.path with
    | none => rfl
    | some route => cases route <;> rfl
  have hfilters (op : Operation) : (Answered.mk { w with drawn := n } r x).filters op =
      (Answered.mk w r x).filters op := by
    rw [Answered.filters, hrules]
    rfl
  refine ⟨fun op => ⟨?_, ?_, (h.tells op).refusals, (h.tells op).sizes⟩, h.named⟩
  · have hcompilations := (h.tells op).compilations
    rw [List.flatMap_singleton, hfilters] at hcompilations
    rw [List.flatMap_singleton]
    exact hcompilations
  · have hsuccesses := (h.tells op).successes
    rw [List.forall_mem_singleton, hfilters] at hsuccesses
    rw [List.forall_mem_singleton]
    exact hsuccesses

end Http

end Segmentation
