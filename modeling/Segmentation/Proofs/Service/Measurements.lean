import Segmentation.Proofs.Service.Batch
import Segmentation.Proofs.Store.Changes

namespace Segmentation.Service

variable {α : Type}

theorem World.covered_perform {w : World} (h : w.segments.Covered) (c : Call) :
    (w.perform c).2.segments.Covered := by
  cases c with
  | insert segment =>
    rw [World.perform]
    cases hinsert : w.segments.insert segment with
    | ok segments => exact h.insert hinsert
    | error f => exact h
  | updateStats id stats =>
    rw [World.perform]
    cases hupdate : w.segments.updateStats id stats with
    | ok segments => exact h.updateStats hupdate
    | error f => exact h
  | _ => exact h

theorem Script.covered_run {s : Script α} {w : World} (h : w.segments.Covered) :
    (s.run w).2.segments.Covered := by
  induction s generalizing w with
  | done a => exact h
  | call c next ih => exact ih _ (World.covered_perform h c)

/-- What is measured of an operation, by how it ends. -/
inductive Measures (op : Operation) (rules? : Option Json) (sizes : α → List Nat) (w : World) :
    Except Failure α × World → Prop
  | refused {f : Failure} {w' : World} (code : f.code ≠ "INVALID_RULES")
      (measured : w'.measured = w.measured) : Measures op rules? sizes w (.error f, w')
  | invalid {f : Failure} {errors : Nat} {w' : World} (code : f.code = "INVALID_RULES")
      (measured : w'.measured = .refusal op.name errors :: w.measured) :
      Measures op rules? sizes w (.error f, w')
  | done {a : α} {rules : Json} {w' : World} (evaluated : rules? = some rules)
      (measured : w'.measured = (sizes a).map (.audience op.name) ++
        .compilation op.name (compileRules w.clock rules).predicateCount :: w.measured) :
      Measures op rules? sizes w (.ok a, w')

section Validation

variable {rules : Json} (op : Operation)

theorem validate_bind_of_problems (h : Rule.problems rules ≠ []) (next : Unit → Action α) :
    (validate op rules >>= next).run =
      .call (.record (.refusal op.name (Rule.problems rules).length)) fun _ =>
        .done (.error (.invalidRules ((Rule.problems rules).map (·.message)))) := by
  have hrules : ¬(Rule.problems rules).isEmpty := by
    intro hrules
    exact h (List.isEmpty_iff.1 hrules)
  rw [validate]
  simp only [if_neg hrules]
  rfl

theorem measures_of_problems (h : Rule.problems rules ≠ []) (next : Unit → Action α)
    (rules? : Option Json) (sizes : α → List Nat) (w : World) :
    Measures op rules? sizes w ((validate op rules >>= next).run.run w) := by
  rw [validate_bind_of_problems op h]
  exact .invalid rfl rfl

theorem measures_select (limit : Nat) (owner : String) (rules : Json) (w : World) :
    Measures op (some rules) (fun s : Selection => [s.count]) w
      ((select op limit owner rules).run.run w) := by
  by_cases h : Rule.problems rules = []
  · rw [select_of_valid op limit owner h]
    exact .done rfl rfl
  · exact measures_of_problems op h _ _ _ w

end Validation

def World.refreshed (w : World) (segment : Segment) : Metrics.Measurement :=
  if segment.IsSound then
    .compilation "refresh" (compileRules w.clock segment.rules).predicateCount
  else .refusal "refresh" (Rule.problems segment.rules).length

theorem World.SameScene.refreshed {w w' : World} (h : w.SameScene w') :
    w'.refreshed = w.refreshed := by
  funext segment
  rw [World.refreshed, World.refreshed, h.clock]

section Segments

variable {owner : String} {w : World}

theorem names_get?_of_findByName {s : Store.Segments} (covered : s.Covered) {name : String}
    (h : s.findByName owner name = none) : s.names.get? (owner, name) = none := by
  cases hid : s.names.get? (owner, name) with
  | none => rfl
  | some id =>
    obtain ⟨t, ht⟩ := covered.live hid
    rw [Store.Segments.findByName, hid, Option.bind_some, ht] at h
    cases h

theorem measures_save (draft : Draft) (covered : w.segments.Covered) :
    Measures .save (some draft.rules) (fun _ => []) w ((save owner draft).run.run w) := by
  by_cases valid : draft.Valid
  · rw [save_of_valid owner valid]
    cases hfound : w.segments.findByName owner (Text.trim draft.name) with
    | some held =>
      simp only [Script.run, World.perform, hfound]
      exact .refused (by simp [Failure.code]) rfl
    | none =>
      have hinserts : ∃ s', w.segments.insert (w.segmentOf owner draft) = .ok s' :=
        Store.Segments.insert_of_free (names_get?_of_findByName covered hfound)
      obtain ⟨segments, hinsert⟩ := hinserts
      rw [World.segmentOf] at hinsert
      simp only [Script.run, World.perform, hfound, hinsert, World.change]
      exact .done rfl rfl
  · by_cases hname : Text.trim draft.name = ""
    · have hempty : (Text.trim draft.name).isEmpty := String.isEmpty_iff.2 hname
      rw [save]
      simp only [if_pos hempty]
      exact .refused (by decide) rfl
    · have hempty : ¬(Text.trim draft.name).isEmpty := by
        intro h
        exact hname (String.isEmpty_iff.1 h)
      have hproblems : Rule.problems draft.rules ≠ [] := fun h => valid ⟨hname, h⟩
      rw [save]
      simp only [if_neg hempty]
      exact measures_of_problems .save hproblems _ _ _ w

theorem measured_refreshSegment (segment : Segment) (w : World) :
    ((refreshSegment segment).run.run w).2.measured = w.refreshed segment :: w.measured := by
  -- Whether the segment can be given its new results makes no difference to what is measured.
  by_cases sound : segment.IsSound
  · rw [refreshSegment_of_valid sound, World.refreshed, if_pos sound]
    simp only [Script.run, World.perform]
    generalize w.segments.updateStats segment.id _ = result
    cases result <;> rfl
  · rw [refreshSegment, validate_bind_of_problems .refresh sound, World.refreshed, if_neg sound]
    rfl

theorem measured_refreshEach (segments : List Segment) (w : World) :
    ((refreshEach segments).run w).2.measured =
      (segments.map w.refreshed).reverse ++ w.measured := by
  -- By induction on the segments, for each refresh leaves the clock alone.
  induction segments generalizing w with
  | nil => rfl
  | cons segment rest ih =>
    have scene := Script.sameScene_run (refreshSegment segment).run w
    rw [run_refreshEach_cons, ih, scene.refreshed, measured_refreshSegment]
    simp

theorem measures_refresh (owner : String) (id : Uuid) (w : World) :
    Measures .refresh ((w.segments.get? owner id).map (·.rules)) (fun _ => []) w
      ((refresh owner id).run.run w) := by
  rw [run_refresh]
  cases hget : w.segments.get? owner id with
  | none => exact .refused (by simp [Failure.code]) rfl
  | some segment =>
    by_cases sound : segment.IsSound
    · have hheld : w.segments.byId.get? segment.id = some segment := by
        obtain ⟨hstored, -⟩ := Store.Segments.get?_eq_some_iff.1 hget
        rwa [w.segments.id_of_get? hstored]
      obtain ⟨w₁, hrun, -⟩ := run_refreshSegment_of_sound hheld sound
      have hmeasured := measured_refreshSegment segment w
      simp only [hrun] at hmeasured ⊢
      rw [World.refreshed, if_pos sound] at hmeasured
      exact .done rfl hmeasured
    · exact measures_of_problems .refresh sound _ _ _ w

theorem measures_audience (limits : Limits) (owner : String) (id : Uuid) (w : World) :
    Measures .audience ((w.segments.get? owner id).map (·.rules)) (fun s : Selection => [s.count]) w
      ((audience limits owner id).run.run w) := by
  cases hget : w.segments.get? owner id with
  | none =>
    rw [audience, get_bind, Script.run, World.perform, hget]
    exact .refused (by simp [Failure.code]) rfl
  | some segment =>
    rw [run_audience_of_get? hget]
    exact measures_select .audience limits.audience owner segment.rules w

theorem run_refreshAll_measures (owner : String) (w : World) :
    ∃ w', (refreshAll owner).run.run w =
        (.ok ⟨(w.segments.due owner).countP fun s => s.IsSound,
          (w.segments.due owner).countP fun s => ¬s.IsSound⟩, w') ∧
      w'.measured = ((w.segments.due owner).map w.refreshed).reverse ++ w.measured := by
  have settled := settles_refreshEach (w := w) (w.segments.nodup_due owner)
    fun s hs => (Store.Segments.mem_due.1 hs).1
  have hmeasured := measured_refreshEach (w.segments.due owner) w
  rw [run_refreshAll, ← Store.Segments.due]
  rw [← settled.refreshed, ← settled.failed]
  exact ⟨_, rfl, hmeasured⟩

end Segments

end Segmentation.Service
