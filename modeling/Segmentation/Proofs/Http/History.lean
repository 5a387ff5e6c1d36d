import Mathlib.Data.List.Induction
import Segmentation.Proofs.Http.Effects
import Segmentation.Proofs.Service.Interleaving

namespace Segmentation

structure Segment.Proper (s : Segment) : Prop where
  owner_ne : s.owner ≠ ""
  name_ne : s.name ≠ ""
  trim_name : Text.trim s.name = s.name
  description : ∀ text, s.description = some text → text ≠ "" ∧ Text.trim text = text
  no_problems : Rule.problems s.rules = []
  isActive : s.isActive = true

/-- The results of a segment are those of one evaluation of its rules in a world. -/
structure Segment.EvaluatedIn (s : Segment) (w : Service.World) : Prop where
  lastRun : s.lastRun = some w.clock
  updatedAt : s.updatedAt = w.clock
  filter : s.filter = compileRules w.clock s.rules
  customerCount : s.customerCount =
    some (Service.clampCount (w.customers.count s.filter s.owner))

theorem Segment.EvaluatedIn.of_sameScene {s : Segment} {w w' : Service.World}
    (h : s.EvaluatedIn w') (scene : w.SameScene w') : s.EvaluatedIn w := by
  obtain ⟨lastRun, updatedAt, filter, customerCount⟩ := h
  rw [scene.clock] at lastRun updatedAt filter
  rw [scene.customers] at customerCount
  exact ⟨lastRun, updatedAt, filter, customerCount⟩

namespace Service

def World.cleared (w : World) : World :=
  { w with segments := .empty }

theorem tidyDescription_eq_some {description : Option String} {text : String}
    (h : tidyDescription description = some text) : text ≠ "" ∧ Text.trim text = text := by
  obtain ⟨hmap, hne⟩ := Option.filter_eq_some_iff.1 h
  obtain ⟨raw, -, rfl⟩ := Option.map_eq_some_iff.1 hmap
  refine ⟨?_, Text.trim_trim raw⟩
  intro heq
  rw [heq] at hne
  cases hne

theorem Draft.Valid.proper {draft : Draft} (valid : draft.Valid) {owner : String}
    (howner : owner ≠ "") (id : Uuid) (now : Instant) (count : Nat) :
    (draft.segment owner id now count).Proper where
  owner_ne := howner
  name_ne := valid.name_ne
  trim_name := Text.trim_trim draft.name
  description _ h := tidyDescription_eq_some h
  no_problems := valid.no_problems
  isActive := rfl

theorem World.evaluatedIn_applyStats (w : World) (s : Segment) :
    (s.applyStats (w.evaluate s.owner s.rules)).EvaluatedIn w :=
  ⟨rfl, rfl, rfl, rfl⟩

theorem World.evaluatedIn_segmentOf (w : World) (owner : String) (draft : Draft) :
    (w.segmentOf owner draft).EvaluatedIn w :=
  ⟨rfl, rfl, rfl, rfl⟩

end Service

theorem Segment.Proper.applyStats {s : Segment} (h : s.Proper) (stats : Stats) :
    (s.applyStats stats).Proper :=
  ⟨h.owner_ne, h.name_ne, h.trim_name, h.description, h.no_problems, h.isActive⟩

namespace Http

open Service (Draft Limits World)

theorem Request.user?_ne_empty {r : Request} {user : String} (h : r.user? = some user) :
    user ≠ "" := by
  rintro rfl
  cases (Option.filter_eq_some_iff.1 h).2

/-- What happens to a service: it is asked something, or its surroundings change. -/
inductive Event where
  | request (r : Request)
  | drift (d : World.Drift)

namespace Event

def apply (limits : Limits) (w : World) : Event → World
  | request r => ((Server.handle limits r).run w).2
  | drift d => w.drift d

def after (limits : Limits) (w : World) (events : List Event) : World :=
  events.foldl (apply limits) w

variable {limits : Limits} {w : World} {events : List Event} {s t : Segment}

theorem after_concat (limits : Limits) (w : World) (events : List Event) (e : Event) :
    after limits w (events ++ [e]) = apply limits (after limits w events) e := by
  rw [after, List.foldl_append]
  rfl

/-- A request in the course of the events has made the segment of a draft. -/
def HasMade (limits : Limits) (w : World) (events : List Event) (s : Segment) : Prop :=
  ∃ before r later draft first, events = before ++ request r :: later ∧
    r.user? = some s.owner ∧ Payload.readDraft r = .ok draft ∧
    s.name = Text.trim draft.name ∧ s.description = Service.tidyDescription draft.description ∧
    s.rules = draft.rules ∧ s.createdAt = (after limits w before).clock ∧
    (after limits w (before ++ [request r])).segments.byId.get? s.id = some first ∧
    first.Renewal s

/-- A request in the course of the events has stored the segment as it is, with the results of its
evaluation at that moment. -/
def HasEvaluated (limits : Limits) (w : World) (events : List Event) (s : Segment) : Prop :=
  ∃ before r later, events = before ++ request r :: later ∧ r.user? = some s.owner ∧
    s.EvaluatedIn (after limits w before) ∧
    (after limits w (before ++ [request r])).segments.byId.get? s.id = some s

theorem HasMade.concat (h : HasMade limits w events s) (e : Event) :
    HasMade limits w (events ++ [e]) s := by
  obtain ⟨before, r, later, draft, first, rfl, hrest⟩ := h
  exact ⟨before, r, later ++ [e], draft, first, List.append_assoc _ _ _, hrest⟩

theorem HasMade.applyStats (h : HasMade limits w events s) (stats : Segment.Stats) :
    HasMade limits w events (s.applyStats stats) := by
  obtain ⟨before, r, later, draft, first, hevents, huser, hdraft, hname, hdescription, hrules,
    hcreated, hfirst, renewal⟩ := h
  exact ⟨before, r, later, draft, first, hevents, huser, hdraft, hname, hdescription, hrules,
    hcreated, hfirst, renewal.applyStats stats⟩

theorem HasEvaluated.concat (h : HasEvaluated limits w events s) (e : Event) :
    HasEvaluated limits w (events ++ [e]) s := by
  obtain ⟨before, r, later, rfl, hrest⟩ := h
  exact ⟨before, r, later ++ [e], List.append_assoc _ _ _, hrest⟩

theorem hasMade_of_segmentOf {r : Request} {draft : Draft} {v : World}
    (huser : r.user? = some s.owner) (hdraft : Payload.readDraft r = .ok draft)
    (scene : (after limits w events).SameScene v) (hs : s = v.segmentOf s.owner draft)
    (stored : (after limits w (events ++ [request r])).segments.byId.get? s.id = some s) :
    HasMade limits w (events ++ [request r]) s := by
  refine ⟨events, r, [], draft, s, rfl, huser, hdraft, ?_, ?_, ?_, ?_, stored, .refl s⟩
  · exact congrArg Segment.name hs
  · exact congrArg Segment.description hs
  · exact congrArg Segment.rules hs
  · exact (congrArg Segment.createdAt hs).trans scene.clock

theorem of_stored (empty : w.segments = .empty) {id : Uuid}
    (h : (after limits w events).segments.byId.get? id = some s) :
    s.Proper ∧ HasMade limits w events s ∧ HasEvaluated limits w events s := by
  -- By induction on the events: a segment that the last event has not touched is as it was, and
  -- one that it has created or evaluated is what that event has made of it.
  induction events using List.reverseRecOn generalizing s with
  | nil =>
    change w.segments.byId.get? id = some s at h
    rw [empty] at h
    cases h
  | append_singleton events e ih =>
    have hstored : (after limits w (events ++ [e])).segments.byId.get? s.id = some s := by
      rw [Store.Segments.id_of_get? _ h]
      exact h
    rw [after_concat] at h
    have kept (hold : (after limits w events).segments.byId.get? id = some s) :
        s.Proper ∧ HasMade limits w (events ++ [e]) s ∧
          HasEvaluated limits w (events ++ [e]) s := by
      obtain ⟨proper, made, evaluated⟩ := ih hold
      exact ⟨proper, made.concat e, evaluated.concat e⟩
    cases e with
    | drift d =>
      apply kept
      cases d <;> exact h
    | request r =>
      rcases Server.stored_handle h with
        hold | ⟨draft, huser, hdraft, valid, v, scene, hs⟩ | ⟨s₀, hs₀, huser, rfl⟩
      · exact kept hold
      · refine ⟨?_, hasMade_of_segmentOf huser hdraft scene hs hstored,
          events, r, [], rfl, huser, ?_, hstored⟩
        · rw [hs]
          exact valid.proper (Request.user?_ne_empty huser) _ _ _
        · rw [hs]
          exact (v.evaluatedIn_segmentOf s.owner draft).of_sameScene scene
      · obtain ⟨proper, made, -⟩ := ih hs₀
        refine ⟨proper.applyStats _, (made.applyStats _).concat _,
          events, r, [], rfl, huser, ?_, hstored⟩
        exact World.evaluatedIn_applyStats _ s₀

/-- However a service is used from an empty store, with the clock set forward or back and customers
added or replaced meanwhile: every segment that is stored is proper, a request of its owner has made
it of a draft with these very rules, and its results are all from one evaluation, at the moment of
the request of its owner that has stored it as it is. And whatever a save or a refresh returns is
what is read right after it. -/
theorem stored_after (limits : Limits) (w : World) (events : List Event) :
    (∀ s ∈ (after limits w.cleared events).segments.byId.values,
      s.Proper ∧ HasMade limits w.cleared events s ∧ HasEvaluated limits w.cleared events s) ∧
    (∀ (v v' : World) (owner : String) (draft : Draft) (s : Segment),
      (Service.save owner draft).run.run v = (.ok s, v') →
      (Service.get owner s.id).run.run v' = (.ok s, v')) ∧
    ∀ (v v' : World) (owner : String) (id : Uuid) (s : Segment),
      (Service.refresh owner id).run.run v = (.ok s, v') →
      (Service.get owner id).run.run v' = (.ok s, v') := by
  refine ⟨?_, ?_, ?_⟩
  · intro s hs
    obtain ⟨id, hid⟩ := Table.mem_values_iff.1 hs
    exact of_stored rfl hid
  · intro v v' owner draft s hsave
    exact Service.get_of_save hsave
  · intro v v' owner id s hrefresh
    exact Service.get_of_refresh hrefresh

def yearOfShop : List Event :=
  [.request ⟨"POST", "/api/segments",
      [⟨"x-user-id", " shop "⟩, ⟨"content-type", "application/json"⟩],
      "\x7b\"name\":\" VIP\",\"rules\":\x7b\"rules\":[],\"combinator\":\"AND\"\x7d\x7d"⟩,
    .drift (.customer
      { id := default
        owner := "shop"
        name := "Ada"
        email := "ada@example.org"
        spend := 0
        visits := 1
        lastOrder := none
        createdAt := default }),
    .drift (.clock ((Instant.ofNanos? 86400000000000).getD default)),
    .request ⟨"POST", "/api/segments/refresh-all", [⟨"x-user-id", "shop"⟩], ""⟩]

def draftOfShop : Draft :=
  ⟨" VIP", none, .obj [("rules", .arr []), ("combinator", .str "or")]⟩

theorem stored_after_year :
    (∃ s ∈ (after ⟨20, 100⟩ World.blank.cleared yearOfShop).segments.byId.values,
      s.name = "VIP" ∧ s.customerCount = some 1 ∧ s.Proper ∧
        HasMade ⟨20, 100⟩ World.blank.cleared yearOfShop s ∧
        HasEvaluated ⟨20, 100⟩ World.blank.cleared yearOfShop s) ∧
    (∃ s v, (Service.save "shop" draftOfShop).run.run .blank = (.ok s, v) ∧
      (Service.get "shop" s.id).run.run v = (.ok s, v)) ∧
    ∃ s v, (Service.refresh "shop" (World.blank.ids 1)).run.run
        (after ⟨20, 100⟩ .blank yearOfShop) = (.ok s, v) ∧
      (Service.get "shop" (World.blank.ids 1)).run.run v = (.ok s, v) := by
  have exists_ok {ε α β : Type} {x : Except ε α × β} (h : x.1.isOk) : ∃ a b, x = (.ok a, b) := by
    obtain ⟨r, b⟩ := x
    cases r with
    | ok a => exact ⟨a, b, rfl⟩
    | error e => cases h
  obtain ⟨hstored, hsaved, hrefreshed⟩ := stored_after ⟨20, 100⟩ .blank yearOfShop
  refine ⟨?_, ?_, ?_⟩
  · have hfound : ∃ s ∈ (after ⟨20, 100⟩ World.blank.cleared yearOfShop
        ).segments.byId.values, s.name = "VIP" ∧ s.customerCount = some 1 := by decide +kernel
    obtain ⟨s, hs, hname, hcount⟩ := hfound
    exact ⟨s, hs, hname, hcount, hstored s hs⟩
  · obtain ⟨s, v, h⟩ := exists_ok (x := (Service.save "shop" draftOfShop).run.run .blank)
      (by decide +kernel)
    exact ⟨s, v, h, hsaved _ _ _ _ _ h⟩
  · obtain ⟨s, v, h⟩ := exists_ok (x := (Service.refresh "shop" (World.blank.ids 1)).run.run
      (after ⟨20, 100⟩ .blank yearOfShop)) (by decide +kernel)
    exact ⟨s, v, h, hrefreshed _ _ _ _ _ h⟩

end Event

end Http

end Segmentation
