import Segmentation.Proofs.Service.Calls
import Segmentation.Proofs.Service.Interleaving
import Segmentation.Proofs.Service.Operations

namespace Segmentation

namespace Store.Segments

theorem insert_error {s : Segments} {segment : Segment} {f : Failure}
    (h : s.insert segment = .error f) :
    f = .nameTaken segment.name ∧ s.names.contains (segment.owner, segment.name) := by
  rw [insert] at h
  split at h
  · next htaken =>
    cases h
    exact ⟨rfl, htaken⟩
  · cases h

theorem contains_of_findByName {s : Segments} {owner name : String}
    (h : (s.findByName owner name).isSome) : s.names.contains (owner, name) := by
  obtain ⟨segment, hfound⟩ := Option.isSome_iff_exists.1 h
  obtain ⟨id, hname, -⟩ := Option.bind_eq_some_iff.1 hfound
  rw [Table.contains, hname]
  rfl

end Store.Segments

namespace Service

theorem Action.run_map {α β : Type} (f : α → β) (x : Action α) :
    (f <$> x).run = x.run.bind fun r => .done (r.map f) := by
  refine congrArg (Script.bind x.run) (funext fun r => ?_)
  cases r <;> rfl

inductive Job where
  | save (owner : String) (draft : Draft)
  | refresh (owner : String) (id : Uuid)
  | refreshAll (owner : String)

inductive Outcome where
  | segment (s : Segment)
  | tally (t : Tally)

namespace Job

def script : Job → Script (Except Failure Outcome)
  | save owner draft => (Outcome.segment <$> Service.save owner draft).run
  | refresh owner id => (Outcome.segment <$> Service.refresh owner id).run
  | refreshAll owner => (Outcome.tally <$> Service.refreshAll owner).run

/-- A save that nothing but the names of other segments can stop. -/
def Wants (owner name : String) (job : Job) : Prop :=
  ∃ draft, job = save owner draft ∧ draft.Valid ∧ Text.trim draft.name = name

end Job

/-- A save in the course of its run: the number of the identifier that it has drawn, what is left
of it, and the world that others may have changed meanwhile. A call that is still to be made may be
made in any later world. -/
inductive Saving (owner : String) (draft : Draft) :
    Option Nat → Script (Except Failure Outcome) → World → Prop
  | kept {n : Nat} {now : Instant} {count : Nat} {s t : Segment} {w : World} (valid : draft.Valid)
      (hs : s = draft.segment owner (w.ids n) now count)
      (stored : w.segments.byId.get? s.id = some t) (renewal : s.Renewal t) :
      Saving owner draft (some n) (.done (.ok (.segment s))) w
  | refused {number : Option Nat} {f : Failure} {w : World}
      (taken : draft.Valid → f = .nameTaken (Text.trim draft.name) ∧
        w.segments.names.contains (owner, Text.trim draft.name)) :
      Saving owner draft number (.done (.error f)) w
  | reads {c : Call} {next : c.Answer → Script (Except Failure Outcome)} {w : World}
      (reads : c.Reads (some owner))
      (after : ∀ w', w.Later w' →
        Saving owner draft none (next (w'.perform c).1) (w'.perform c).2) :
      Saving owner draft none (.call c next) w
  | draws {next : Uuid → Script (Except Failure Outcome)} {w : World}
      (after : ∀ w', w.Later w' →
        Saving owner draft (some w'.drawn) (next (w'.ids w'.drawn)) (w'.perform .freshId).2) :
      Saving owner draft none (.call .freshId next) w
  /-- The last call: the segment that it is about to store is the one that it returns then. -/
  | inserts {n : Nat} {now : Instant} {count : Nat} {s : Segment}
      {next : Except Failure Unit → Script (Except Failure Outcome)} {w : World}
      (valid : draft.Valid) (hs : s = draft.segment owner (w.ids n) now count)
      (taken : next (.ok ()) = .done (.ok (.segment s)))
      (failed : ∀ f, next (.error f) = .done (.error f)) :
      Saving owner draft (some n) (.call (.insert s) next) w

namespace Saving

variable {owner : String} {draft : Draft} {number : Option Nat} {w : World}

theorem later {s : Script (Except Failure Outcome)} {w' : World}
    (h : Saving owner draft number s w) (hlater : w.Later w') :
    Saving owner draft number s w' := by
  cases h with
  | kept valid hs stored renewal =>
    obtain ⟨u, hu, htu⟩ := hlater.stored _ _ stored
    rw [← hlater.ids] at hs
    exact .kept valid hs hu (renewal.trans htu)
  | refused taken =>
    refine .refused fun valid => ?_
    obtain ⟨hf, hcontains⟩ := taken valid
    exact ⟨hf, hlater.names _ hcontains⟩
  | reads reads after => exact .reads reads fun u hu => after u (hlater.trans hu)
  | draws after => exact .draws fun u hu => after u (hlater.trans hu)
  | inserts valid hs taken failed =>
    rw [← hlater.ids] at hs
    exact .inserts valid hs taken failed

theorem start (owner : String) (draft : Draft) (w : World) :
    Saving owner draft none (Job.save owner draft).script w := by
  rw [Job.script, Action.run_map]
  by_cases valid : draft.Valid
  · rw [save_of_valid owner valid, Script.bind]
    refine .reads (c := .findByName _ _) rfl fun w₁ _ => ?_
    simp only [World.perform]
    cases hfound : w₁.segments.findByName owner (Text.trim draft.name) with
    | some held =>
      have hcontains := Store.Segments.contains_of_findByName (Option.isSome_of_eq_some hfound)
      exact .refused fun _ => ⟨rfl, hcontains⟩
    | none =>
      refine .reads (c := .now) trivial fun w₂ _ => ?_
      refine .reads (c := .record _) trivial fun w₃ _ => ?_
      refine .reads (c := .count _ _) rfl fun w₄ _ => ?_
      refine .draws fun w₅ _ => ?_
      exact .inserts valid rfl rfl fun f => rfl
  · have invalid {f : Failure} {w : World} : Saving owner draft none (.done (.error f)) w :=
      .refused fun h => absurd h valid
    rcases save_of_not_valid owner valid with ⟨f, h⟩ | ⟨m, f, h⟩
    · rw [h]
      exact invalid
    · rw [h]
      exact .reads trivial fun _ _ => invalid

theorem step {c : Call} {next : c.Answer → Script (Except Failure Outcome)}
    (h : Saving owner draft number (.call c next) w) :
    ∃ number', Saving owner draft number' (next (w.perform c).1) (w.perform c).2 ∧
      (number' = number ∨ number' = some w.drawn ∧ w.drawn < (w.perform c).2.drawn) := by
  cases h with
  | reads reads after => exact ⟨none, after w (.refl w), .inl rfl⟩
  | draws after => exact ⟨some w.drawn, after w (.refl w), .inr ⟨rfl, Nat.lt_succ_self _⟩⟩
  | @inserts n now count s next w valid hs taken failed =>
    refine ⟨some n, ?_, .inl rfl⟩
    cases hinsert : w.segments.insert s with
    | ok segments =>
      have stored : segments.byId.get? s.id = some s := by
        rw [Store.Segments.byId_insert hinsert, if_pos rfl]
      rw [World.perform, hinsert, World.change, taken]
      exact .kept valid hs stored (.refl s)
    | error f =>
      have hrefused := Store.Segments.insert_error hinsert
      rw [hs] at hrefused
      rw [World.perform, hinsert, World.change, failed]
      exact .refused fun _ => hrefused

theorem of_insert {s : Segment} {next : Except Failure Unit → Script (Except Failure Outcome)}
    (h : Saving owner draft number (.call (.insert s) next) w) :
    (∃ n, number = some n ∧ s.id = w.ids n) ∧ next (.ok ()) = .done (.ok (.segment s)) := by
  cases h with
  | reads reads after => exact reads.elim
  | inserts valid hs taken failed => exact ⟨⟨_, rfl, congrArg Segment.id hs⟩, taken⟩

theorem of_kept {s : Segment} (h : Saving owner draft number (.done (.ok (.segment s))) w) :
    draft.Valid ∧ s.owner = owner ∧ s.name = Text.trim draft.name ∧
      (∃ n, number = some n ∧ s.id = w.ids n) ∧
      ∃ t, w.segments.byId.get? s.id = some t ∧ s.Renewal t := by
  cases h with
  | kept valid hs stored renewal =>
    exact ⟨valid, congrArg Segment.owner hs, congrArg Segment.name hs,
      ⟨_, rfl, congrArg Segment.id hs⟩, _, stored, renewal⟩

theorem of_done {r : Except Failure Outcome} (h : Saving owner draft number (.done r) w)
    (valid : draft.Valid) :
    (∃ s, r = .ok (.segment s)) ∨ r = .error (.nameTaken (Text.trim draft.name)) ∧
      w.segments.names.contains (owner, Text.trim draft.name) := by
  cases h with
  | kept _ hs stored renewal => exact .inl ⟨_, rfl⟩
  | refused taken =>
    obtain ⟨rfl, hcontains⟩ := taken valid
    exact .inr ⟨rfl, hcontains⟩

theorem segments_step {c : Call} {next : c.Answer → Script (Except Failure Outcome)}
    (h : Saving owner draft number (.call c next) w) :
    (w.perform c).2.segments = w.segments ∨
      ∃ s, next (w.perform c).1 = .done (.ok (.segment s)) := by
  cases h with
  | reads reads after => exact .inl (World.segments_of_reads reads)
  | draws after => exact .inl rfl
  | @inserts n now count s next w valid hs taken failed =>
    rw [World.perform]
    cases w.segments.insert s with
    | ok segments => exact .inr ⟨s, taken⟩
    | error f => exact .inl rfl

end Saving

section Refreshing

variable {α : Type}

theorem Script.Reads.keeps {user : Option String} {s : Script α} (h : s.Reads user) :
    s.Only Call.Keeps := by
  induction h with
  | done a => exact .done a
  | @call c next read _ ih =>
    refine .call ?_ ih
    cases c with
    | insert segment => exact read.elim
    | _ => trivial

theorem keeps_refreshSegment (segment : Segment) :
    (refreshSegment segment).run.Only Call.Keeps := by
  by_cases h : Rule.problems segment.rules = []
  · rw [refreshSegment_of_valid h]
    refine .call trivial fun now => .call trivial fun _ => .call trivial fun counted => ?_
    rcases counted with f | count
    · exact .done _
    · refine .call trivial fun updated => ?_
      cases updated <;> exact .done _
  · obtain ⟨m, f, hrun⟩ := refreshSegment_of_not_valid h
    rw [hrun]
    exact .call trivial fun _ => .done _

theorem keeps_refreshEach (segments : List Segment) :
    (refreshEach segments).Only Call.Keeps := by
  induction segments with
  | nil => exact .done _
  | cons segment rest ih =>
    refine (keeps_refreshSegment segment).bind fun result => ih.bind fun tally => ?_
    cases result <;> exact .done _

end Refreshing

namespace Job

/-- A job in the course of its run. Every job but a save adds no segment. -/
def Running : Job → Option Nat → Script (Except Failure Outcome) → World → Prop
  | save owner draft, number, s, w => Saving owner draft number s w
  | refresh _ _, _, s, _ | refreshAll _, _, s, _ => s.Only Call.Keeps

variable {job : Job} {number : Option Nat} {w : World}

theorem running_script (job : Job) (w : World) : job.Running none job.script w := by
  cases job with
  | save owner draft => exact Saving.start owner draft w
  | refresh owner id =>
    rw [script, Action.run_map]
    refine Script.Only.bind (Script.Only.bind (reads_get owner id).keeps ?_) fun _ => .done _
    rintro (f | segment)
    · exact .done _
    · exact keeps_refreshSegment segment
  | refreshAll owner =>
    rw [script, Action.run_map]
    refine Script.Only.bind (Script.Only.bind (Action.reads_list owner).keeps ?_) fun _ => .done _
    rintro (f | segments)
    · exact .done _
    · exact (keeps_refreshEach _).bind fun _ => .done _

namespace Running

theorem later {s : Script (Except Failure Outcome)} {w' : World} (h : job.Running number s w)
    (hlater : w.Later w') : job.Running number s w' := by
  cases job with
  | save owner draft => exact Saving.later h hlater
  | refresh owner id => exact h
  | refreshAll owner => exact h

theorem step {c : Call} {next : c.Answer → Script (Except Failure Outcome)}
    (h : job.Running number (.call c next) w) :
    ∃ number', job.Running number' (next (w.perform c).1) (w.perform c).2 ∧
      (number' = number ∨ number' = some w.drawn ∧ w.drawn < (w.perform c).2.drawn) := by
  cases job with
  | save owner draft => exact Saving.step h
  | refresh owner id =>
    cases h with
    | call first after => exact ⟨number, after _, .inl rfl⟩
  | refreshAll owner =>
    cases h with
    | call first after => exact ⟨number, after _, .inl rfl⟩

theorem of_insert {s : Segment} {next : Except Failure Unit → Script (Except Failure Outcome)}
    (h : job.Running number (.call (.insert s) next) w) :
    ∃ owner draft, job = .save owner draft ∧ (∃ n, number = some n ∧ s.id = w.ids n) ∧
      next (.ok ()) = .done (.ok (.segment s)) := by
  cases job with
  | save owner draft => exact ⟨owner, draft, rfl, Saving.of_insert h⟩
  | refresh owner id =>
    cases h with
    | call first after => exact first.elim
  | refreshAll owner =>
    cases h with
    | call first after => exact first.elim

end Running

end Job

end Service

end Segmentation
