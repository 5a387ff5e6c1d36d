import Segmentation.Http.Server
import Segmentation.Proofs.Service.Frames

namespace Segmentation.Http

open Service (Action Draft Limits Script Tally World)

structure Request.Asks (r : Request) (route : Route) (verb : Verb) : Prop where
  route : Route.ofPath? r.path = some route
  verb : Verb.ofMethod? r.method = some verb

def Route.stores : Route → Verb → Bool
  | .segments, .post | .refreshAll, .post | .refresh _, .post => true
  | _, _ => false

namespace Server

def segmentId? (raw : String) : Option Uuid :=
  (Text.Percent.decodeText? raw.toList).bind Uuid.read?

/-- What a request may come to on a route. -/
inductive Outcome (r : Request) (w : World) : Route → Verb → Response × World → Prop
  | refused {route : Route} {verb : Verb} {response : Response} {w' : World}
      (status : 400 ≤ response.status) (same : w'.segments = w.segments) :
      Outcome r w route verb (response, w')
  | read {route : Route} {verb : Verb} {response : Response} {w' : World}
      (reads : route.stores verb = false) (status : response.status ≠ 201)
      (same : w'.segments = w.segments) : Outcome r w route verb (response, w')
  | created {user : String} {draft : Draft} {s : Segment} {w' : World}
      (huser : r.user? = some user) (hdraft : Payload.readDraft r = .ok draft)
      (run : (Service.save user draft).run.run w = (.ok s, w')) :
      Outcome r w .segments .post (.created (Answer.created (Answer.newSegment s)), w')
  | refreshed {user raw : String} {id : Uuid} {s : Segment} {w' : World}
      (huser : r.user? = some user) (hid : segmentId? raw = some id)
      (run : (Service.refresh user id).run.run w = (.ok s, w')) :
      Outcome r w (.refresh raw) .post (.ok (Answer.done (Answer.detail s)), w')
  | refreshedAll {user : String} {t : Tally} {w' : World} (huser : r.user? = some user)
      (run : (Service.refreshAll user).run.run w = (.ok t, w')) :
      Outcome r w .refreshAll .post (.ok (Answer.done (Answer.tally t)), w')

/-- A request is served in the world `v` and answered in the world `w`. Around what it comes to, it
at most draws an identifier and records a measurement. -/
structure Served (w : World) (answered : Exchange × World) (v : World)
    (served : Response × World) : Prop where
  segments : v.segments = w.segments
  ids : v.ids = w.ids
  drawn_le : w.drawn ≤ v.drawn
  scene : w.SameScene v
  status : answered.1.response.status = served.1.status
  segments_after : answered.2.segments = served.2.segments
  drawn_after : answered.2.drawn = served.2.drawn

theorem status_ofFailure (f : Failure) : 400 ≤ (Response.ofFailure f).status := by
  cases f <;> exact Nat.le_of_ble_eq_true rfl

theorem status_ofFault (f : Payload.Fault) : 400 ≤ (Response.ofFault f).status := by
  cases f <;> exact Nat.le_of_ble_eq_true rfl

section Outcomes

variable {α : Type} {r : Request} {w : World} {route : Route} {verb : Verb}

theorem outcome_reject (f : Failure) : Outcome r w route verb ((reject f).run w) :=
  .refused (status_ofFailure f) rfl

theorem outcome_reply {action : Action α} {respond : α → Response}
    (succeeded : ∀ a w', action.run.run w = (.ok a, w') → Outcome r w route verb (respond a, w'))
    (failed : ∀ f w', action.run.run w = (.error f, w') → w'.segments = w.segments) :
    Outcome r w route verb ((reply action respond).run w) := by
  rw [reply, Script.run_bind]
  rcases hrun : action.run.run w with ⟨f | a, w'⟩
  · exact .refused (status_ofFailure f) (failed f w' hrun)
  · exact succeeded a w' hrun

theorem outcome_reply_of_reads {action : Action α} {user : Option String}
    (reads : action.run.Reads user) (hroute : route.stores verb = false) (write : α → Json) :
    Outcome r w route verb ((reply action fun a => .ok (write a)).run w) := by
  have same {result : Except Failure α × World} (hrun : action.run.run w = result) :
      result.2.segments = w.segments := by
    rw [← hrun]
    exact Script.segments_run reads
  apply outcome_reply
  · intro a w' hrun
    exact .read hroute (show (200 : Nat) ≠ 201 by decide) (same hrun)
  · intro f w' hrun
    exact same hrun

theorem outcome_ready (hroute : route.stores verb = false) :
    Outcome r w route verb (ready.run w) := by
  refine .read hroute ?_ rfl
  change (if Answer.isReady w.database then 200 else 503) ≠ 201
  split <;> decide

theorem outcome_asUser {serve : String → Script Response}
    (h : ∀ user, r.user? = some user → Outcome r w route verb ((serve user).run w)) :
    Outcome r w route verb ((asUser r serve).run w) := by
  rw [asUser]
  cases huser : r.user? with
  | none => exact outcome_reject _
  | some user => exact h user huser

theorem outcome_withSegment {raw : String} {serve : Uuid → Script Response}
    (h : ∀ id, segmentId? raw = some id → Outcome r w route verb ((serve id).run w)) :
    Outcome r w route verb ((withSegment raw serve).run w) := by
  rw [withSegment]
  cases htext : Text.Percent.decodeText? raw.toList with
  | none => exact .refused (Nat.le_refl 400) rfl
  | some text =>
    simp only
    cases hid : Uuid.read? text with
    | none => exact outcome_reject _
    | some id =>
      apply h
      rw [segmentId?, htext, Option.bind_some, hid]

theorem outcome_withPayload {payload : Except Payload.Fault α} {serve : α → Script Response}
    (h : ∀ a, payload = .ok a → Outcome r w route verb ((serve a).run w)) :
    Outcome r w route verb ((withPayload payload serve).run w) := by
  cases payload with
  | ok a => exact h a rfl
  | error f => exact .refused (status_ofFault f) rfl

theorem outcome_create {user : String} {draft : Draft} (huser : r.user? = some user)
    (hdraft : Payload.readDraft r = .ok draft) :
    Outcome r w .segments .post ((create user draft).run w) := by
  rw [create]
  cases lengthProblems draft with
  | nil =>
    apply outcome_reply
    · intro s w' hrun
      exact .created huser hdraft hrun
    · intro f w' hrun
      exact Service.segments_of_save_error hrun
  | cons problem rest => exact .refused (status_ofFailure _) rfl

theorem outcome_serve {limits : Limits} {script : Script Response}
    (h : serve limits r route verb = some script) : Outcome r w route verb (script.run w) := by
  cases route <;> cases verb <;> cases h
  case health.get => exact .read rfl (by decide) rfl
  case ready.get => exact outcome_ready rfl
  case segments.get =>
    exact outcome_asUser fun user _ =>
      outcome_reply_of_reads (Service.Action.reads_list user) rfl _
  case segments.post =>
    exact outcome_asUser fun user huser => outcome_withPayload fun draft hdraft =>
      outcome_create huser hdraft
  case preview.post =>
    refine outcome_asUser fun user _ => outcome_withPayload fun rules _ => ?_
    exact outcome_reply_of_reads
      (Service.reads_select .preview rules limits.previewSample user) rfl _
  case refreshAll.post =>
    refine outcome_asUser fun user huser => outcome_reply ?_ ?_
    · intro t w' hrun
      exact .refreshedAll huser hrun
    · intro f w' hrun
      rw [Service.run_refreshAll] at hrun
      cases hrun
  case segment.get =>
    refine outcome_asUser fun user _ => outcome_withSegment fun id _ => ?_
    exact outcome_reply_of_reads (Service.reads_get user id) rfl _
  case refresh.post =>
    refine outcome_asUser fun user huser => outcome_withSegment fun id hid => outcome_reply ?_ ?_
    · intro s w' hrun
      exact .refreshed huser hid hrun
    · intro f w' hrun
      exact Service.segments_of_refresh_error hrun
  case audience.get =>
    refine outcome_asUser fun user _ => outcome_withSegment fun id _ => ?_
    exact outcome_reply_of_reads (Service.reads_audience limits user id) rfl _

theorem outcome_respond (limits : Limits) (r : Request) (w : World) :
    400 ≤ ((respond limits r (Route.ofPath? r.path)).run w).1.status ∧
        ((respond limits r (Route.ofPath? r.path)).run w).2.segments = w.segments ∨
      ∃ route verb, r.Asks route verb ∧
        Outcome r w route verb ((respond limits r (Route.ofPath? r.path)).run w) := by
  cases hroute : Route.ofPath? r.path with
  | none => exact .inl ⟨Nat.le_of_ble_eq_true rfl, rfl⟩
  | some route =>
    rw [respond]
    cases hserve : (Verb.ofMethod? r.method).bind (serve limits r route) with
    | none => exact .inl ⟨Nat.le_of_ble_eq_true rfl, rfl⟩
    | some script =>
      obtain ⟨verb, hverb, hscript⟩ := Option.bind_eq_some_iff.1 hserve
      exact .inr ⟨route, verb, ⟨hroute, hverb⟩, outcome_serve hscript⟩

theorem outcome_handle (limits : Limits) (r : Request) (w : World) :
    ∃ v served, Served w ((handle limits r).run w) v served ∧
      (400 ≤ served.1.status ∧ served.2.segments = v.segments ∨
        ∃ route verb, r.Asks route verb ∧ Outcome r v route verb served) := by
  have hsegments : ((RequestId.ofRequest r).run w).2.segments = w.segments := by
    rw [RequestId.ofRequest]
    cases r.requestId? <;> rfl
  have houtcome := outcome_respond limits r ((RequestId.ofRequest r).run w).2
  generalize hrespond : (respond limits r (Route.ofPath? r.path)).run
    ((RequestId.ofRequest r).run w).2 = served at houtcome
  refine ⟨_, served, ⟨hsegments, Script.ids_run, Script.drawn_run _ w, Script.sameScene_run _ w, ?_,
    ?_, ?_⟩, houtcome⟩
  all_goals
    simp only [handle, Script.run_bind, hrespond]
    rfl

end Outcomes

end Server

end Segmentation.Http
