import Segmentation.Proofs.Service.Agreement
import Segmentation.Proofs.Service.Frames

namespace Segmentation

namespace Segment

/-- A refresh of all segments of an account takes up the segment. -/
def IsDue (owner : String) (s : Segment) : Prop :=
  s.owner = owner ∧ s.isActive

/-- The rules of the segment are still accepted. -/
def IsSound (s : Segment) : Prop :=
  Rule.problems s.rules = []

instance (owner : String) (s : Segment) : Decidable (s.IsDue owner) :=
  inferInstanceAs (Decidable (_ ∧ _))

instance (s : Segment) : Decidable s.IsSound :=
  decidable_of_iff (Rule.problems s.rules).isEmpty List.isEmpty_iff

end Segment

namespace Store.Segments

/-- The active segments of an account as a refresh of all of them takes them up. -/
def due (s : Segments) (owner : String) : List Segment :=
  (s.list owner).filter (·.isActive)

variable {s : Segments} {owner : String}

theorem mem_due {segment : Segment} : segment ∈ s.due owner ↔
    s.byId.get? segment.id = some segment ∧ segment.IsDue owner := by
  rw [due, List.mem_filter, mem_list, get?_eq_some_iff, Segment.IsDue, and_assoc]

theorem due_perm (s : Segments) (owner : String) :
    (s.due owner).Perm (s.byId.values.filter fun segment => segment.IsDue owner) := by
  have hfilter : (s.byId.values.filter fun segment => segment.IsDue owner) =
      (s.byId.values.filter fun segment => segment.owner == owner).filter (·.isActive) := by
    rw [List.filter_filter]
    refine List.filter_congr fun segment _ => ?_
    rw [Bool.eq_iff_iff, decide_eq_true_eq, Bool.and_eq_true, beq_iff_eq, Segment.IsDue]
    exact and_comm
  rw [hfilter]
  exact (List.mergeSort_perm _ _).filter _

theorem nodup_due (s : Segments) (owner : String) : (s.due owner).Nodup :=
  (due_perm s owner).nodup_iff.2 ((Table.nodup_values s.id_of_get?).sublist List.filter_sublist)

end Store.Segments

namespace Service

section Segment

variable {segment : Segment} {w : World}

theorem run_refreshSegment_of_sound (held : w.segments.byId.get? segment.id = some segment)
    (sound : segment.IsSound) :
    ∃ w₁, (refreshSegment segment).run.run w =
        (.ok (segment.applyStats (w.evaluate segment.owner segment.rules)), w₁) ∧
      w₁.segments =
        w.segments.put (segment.applyStats (w.evaluate segment.owner segment.rules)) := by
  have hget := Store.Segments.get?_eq_some_iff.2 ⟨held, rfl⟩
  have hrun := run_refresh_of_get? hget sound
  rw [run_refresh, hget] at hrun
  exact ⟨_, hrun, rfl⟩

theorem run_refreshSegment_of_not_sound (broken : ¬segment.IsSound) :
    ∃ f w₁, (refreshSegment segment).run.run w = (.error f, w₁) ∧
      w₁.segments = w.segments := by
  obtain ⟨m, f, h⟩ := refreshSegment_of_not_valid broken
  rw [h]
  exact ⟨f, _, rfl, rfl⟩

end Segment

section Run

variable {segment : Segment} {rest : List Segment} {w w₁ : World}

theorem run_refreshEach_cons_of_ok {t : Segment}
    (h : (refreshSegment segment).run.run w = (.ok t, w₁)) :
    (refreshEach (segment :: rest)).run w =
      (⟨((refreshEach rest).run w₁).1.refreshed + 1, ((refreshEach rest).run w₁).1.failed⟩,
        ((refreshEach rest).run w₁).2) := by
  rw [refreshEach, Script.run_bind, Script.run_bind, h]
  rfl

theorem run_refreshEach_cons_of_error {f : Failure}
    (h : (refreshSegment segment).run.run w = (.error f, w₁)) :
    (refreshEach (segment :: rest)).run w =
      (⟨((refreshEach rest).run w₁).1.refreshed, ((refreshEach rest).run w₁).1.failed + 1⟩,
        ((refreshEach rest).run w₁).2) := by
  rw [refreshEach, Script.run_bind, Script.run_bind, h]
  rfl

end Run

/-- What a refresh of some segments, one after the other, comes to: how many of them are sound, and
what is stored of each. -/
structure Settles (segments : List Segment) (w : World) (tally : Tally) (w' : World) : Prop where
  refreshed : tally.refreshed = segments.countP fun s => s.IsSound
  failed : tally.failed = segments.countP fun s => ¬s.IsSound
  sound : ∀ s ∈ segments, s.IsSound →
    w'.segments.byId.get? s.id = some (s.applyStats (w.evaluate s.owner s.rules))
  others : ∀ id, (∀ s ∈ segments, s.IsSound → s.id ≠ id) →
    w'.segments.byId.get? id = w.segments.byId.get? id

namespace Settles

variable {segment : Segment} {rest : List Segment} {w w₁ w' : World} {tally : Tally}

theorem cons_of_sound (h : Settles rest w₁ tally w') (scene : w.SameScene w₁)
    (sound : segment.IsSound) (apart : ∀ s ∈ rest, s.id ≠ segment.id)
    (put : w₁.segments =
      w.segments.put (segment.applyStats (w.evaluate segment.owner segment.rules))) :
    Settles (segment :: rest) w ⟨tally.refreshed + 1, tally.failed⟩ w' := by
  have hafter (id : Uuid) : w₁.segments.byId.get? id = if id = segment.id then
      some (segment.applyStats (w.evaluate segment.owner segment.rules))
      else w.segments.byId.get? id := by
    rw [put]
    exact Table.get?_insert _ _ _ _
  refine ⟨?_, ?_, ?_, ?_⟩
  · simp [h.refreshed, sound]
  · simp [h.failed, sound]
  · intro s hs hsSound
    rcases List.mem_cons.1 hs with rfl | hs
    · rw [h.others s.id fun t ht _ => apart t ht, hafter, if_pos rfl]
    · rw [h.sound s hs hsSound, scene.evaluate]
  · intro id hid
    rw [h.others id fun s hs => hid s (List.mem_cons_of_mem _ hs), hafter,
      if_neg (hid segment List.mem_cons_self sound).symm]

theorem cons_of_not_sound (h : Settles rest w₁ tally w') (scene : w.SameScene w₁)
    (broken : ¬segment.IsSound) (same : w₁.segments = w.segments) :
    Settles (segment :: rest) w ⟨tally.refreshed, tally.failed + 1⟩ w' := by
  refine ⟨?_, ?_, ?_, ?_⟩
  · simp [h.refreshed, broken]
  · simp [h.failed, broken]
  · intro s hs hsSound
    rcases List.mem_cons.1 hs with rfl | hs
    · exact absurd hsSound broken
    · rw [h.sound s hs hsSound, scene.evaluate]
  · intro id hid
    rw [h.others id fun s hs => hid s (List.mem_cons_of_mem _ hs), same]

end Settles

theorem settles_refreshEach {segments : List Segment} {w : World} (apart : segments.Nodup)
    (held : ∀ s ∈ segments, w.segments.byId.get? s.id = some s) :
    Settles segments w ((refreshEach segments).run w).1 ((refreshEach segments).run w).2 := by
  -- By induction on the segments: those still to come are stored as they were when they were
  -- listed, for a refresh of one leaves every other alone, and they are evaluated in the same
  -- scene.
  induction segments generalizing w with
  | nil => exact ⟨rfl, rfl, fun _ h => absurd h List.not_mem_nil, fun _ _ => rfl⟩
  | cons segment rest ih =>
    obtain ⟨hnew, hrest⟩ := List.nodup_cons.1 apart
    have hheld := held segment List.mem_cons_self
    have hheldRest : ∀ s ∈ rest, w.segments.byId.get? s.id = some s :=
      fun s hs => held s (List.mem_cons_of_mem _ hs)
    have scene := Script.sameScene_run (refreshSegment segment).run w
    by_cases sound : segment.IsSound
    · obtain ⟨w₁, hrun, hput⟩ := run_refreshSegment_of_sound hheld sound
      rw [hrun] at scene
      have hne : ∀ s ∈ rest, s.id ≠ segment.id := by
        intro s hs hid
        have hsame := hheldRest s hs
        rw [hid, hheld] at hsame
        cases hsame
        exact hnew hs
      rw [run_refreshEach_cons_of_ok hrun]
      refine .cons_of_sound (ih hrest fun s hs => ?_) scene sound hne hput
      rw [hput]
      exact (Table.get?_insert _ _ _ _).trans ((if_neg (hne s hs)).trans (hheldRest s hs))
    · obtain ⟨f, w₁, hrun, hsame⟩ := run_refreshSegment_of_not_sound (w := w) sound
      rw [hrun] at scene
      rw [run_refreshEach_cons_of_error hrun]
      refine .cons_of_not_sound (ih hrest fun s hs => ?_) scene sound hsame
      rw [hsame]
      exact hheldRest s hs

/-- The later world has each active sound segment of an account as a refresh of it alone would have
left it, and all else as it was. -/
structure Isolates (owner : String) (w : World) (tally : Tally) (w' : World) : Prop where
  refreshed : tally.refreshed =
    w.segments.byId.values.countP fun s => s.IsDue owner ∧ s.IsSound
  failed : tally.failed =
    w.segments.byId.values.countP fun s => s.IsDue owner ∧ ¬s.IsSound
  alone : ∀ id s, w.segments.byId.get? id = some s → s.IsDue owner → s.IsSound →
    ∃ t w₁, (refresh owner id).run.run w = (.ok t, w₁) ∧
      w₁.segments.byId.get? id = some t ∧ w'.segments.byId.get? id = some t
  others : ∀ id, (∀ s, w.segments.byId.get? id = some s → ¬(s.IsDue owner ∧ s.IsSound)) →
    w'.segments.byId.get? id = w.segments.byId.get? id
  names : w'.segments.names = w.segments.names

theorem countP_of_perm_due {s : Store.Segments} {owner : String} {order : List Segment}
    (perm : order.Perm (s.due owner)) (P : Segment → Prop) [DecidablePred P] :
    order.countP (fun segment => P segment) =
      s.byId.values.countP fun segment => segment.IsDue owner ∧ P segment := by
  rw [(perm.trans (s.due_perm owner)).countP_eq, List.countP_filter]
  refine List.countP_congr fun segment _ => ?_
  simp only [Bool.and_eq_true, decide_eq_true_eq]
  exact and_comm

theorem isolates_of_perm {owner : String} {w : World} {order : List Segment}
    (perm : order.Perm (w.segments.due owner)) :
    Isolates owner w ((refreshEach order).run w).1 ((refreshEach order).run w).2 := by
  have hmem (s : Segment) : s ∈ order ↔
      w.segments.byId.get? s.id = some s ∧ s.IsDue owner :=
    perm.mem_iff.trans Store.Segments.mem_due
  obtain ⟨hrefreshed, hfailed, hsound, hothers⟩ :=
    settles_refreshEach (perm.nodup_iff.2 (w.segments.nodup_due owner))
      fun s hs => ((hmem s).1 hs).1
  refine ⟨?_, ?_, ?_, ?_, (renews_refreshEach order w).names⟩
  · rw [hrefreshed, countP_of_perm_due perm Segment.IsSound]
  · rw [hfailed, countP_of_perm_due perm fun s => ¬s.IsSound]
  · intro id s hget due sound
    obtain rfl := w.segments.id_of_get? hget
    have hheld := Store.Segments.get?_eq_some_iff.2 ⟨hget, due.1⟩
    refine ⟨_, _, run_refresh_of_get? hheld sound, ?_, ?_⟩
    · exact (Table.get?_insert _ _ _ _).trans (if_pos rfl)
    · rw [hsound s ((hmem s).2 ⟨hget, due⟩) sound, due.1]
  · intro id hid
    refine hothers id fun s hs sound heq => ?_
    obtain ⟨hget, due⟩ := (hmem s).1 hs
    rw [heq] at hget
    exact hid s hget ⟨due, sound⟩

/-- A refresh of all segments of an account succeeds, and what fails in it is counted and makes no
difference to the rest; nor would it if the segments were taken in any other order. -/
theorem refreshAll_isolates (owner : String) (w : World) :
    (∃ tally w', (refreshAll owner).run.run w = (.ok tally, w') ∧ Isolates owner w tally w') ∧
      ∀ order : List Segment, order.Perm ((w.segments.list owner).filter (·.isActive)) →
        Isolates owner w ((refreshEach order).run w).1 ((refreshEach order).run w).2 := by
  refine ⟨⟨_, _, run_refreshAll owner w, isolates_of_perm (.refl _)⟩, fun order perm => ?_⟩
  exact isolates_of_perm perm

end Service

end Segmentation
