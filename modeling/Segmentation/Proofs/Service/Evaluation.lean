import Segmentation.Proofs.Service.Calls
import Segmentation.Proofs.Service.Operations

namespace Segmentation.Service

namespace World

/-- What an evaluation of rules comes to for an account. -/
def evaluate (w : World) (owner : String) (rules : Json) : Segment.Stats :=
  .ofCount rules w.clock (w.customers.count (compileRules w.clock rules) owner)

def segmentOf (w : World) (owner : String) (draft : Draft) : Segment :=
  draft.segment owner (w.ids w.drawn) w.clock
    (w.customers.count (compileRules w.clock draft.rules) owner)

/-- The same time and the same customers: what evaluations depend on. -/
structure SameScene (w w' : World) : Prop where
  clock : w'.clock = w.clock
  customers : w'.customers = w.customers

theorem SameScene.trans {u v w : World} (huv : u.SameScene v) (hvw : v.SameScene w) :
    u.SameScene w :=
  ⟨hvw.clock.trans huv.clock, hvw.customers.trans huv.customers⟩

theorem SameScene.evaluate {w w' : World} (h : w.SameScene w') : w'.evaluate = w.evaluate := by
  funext owner rules
  rw [World.evaluate, World.evaluate, h.clock, h.customers]

theorem sameScene_perform (w : World) (c : Call) : w.SameScene (w.perform c).2 := by
  obtain ⟨segments, drawn, measured, h⟩ := perform_frame w c
  rw [h]
  exact ⟨rfl, rfl⟩

end World

theorem Script.sameScene_run {α : Type} (s : Script α) (w : World) : w.SameScene (s.run w).2 := by
  induction s generalizing w with
  | done a => exact ⟨rfl, rfl⟩
  | call c next ih => exact (World.sameScene_perform w c).trans (ih _ _)

theorem save_cases (owner : String) (draft : Draft) (w : World) :
    (∃ f w', (save owner draft).run.run w = (.error f, w') ∧ w'.segments = w.segments) ∨
      draft.Valid ∧ ∃ w', (save owner draft).run.run w = (.ok (w.segmentOf owner draft), w') ∧
        w.segments.insert (w.segmentOf owner draft) = .ok w'.segments ∧
        w'.drawn = w.drawn + 1 := by
  by_cases valid : draft.Valid
  · rw [save_of_valid owner valid, Script.run, World.perform]
    cases hfound : w.segments.findByName owner (Text.trim draft.name) with
    | some held => exact .inl ⟨_, _, rfl, rfl⟩
    | none =>
      simp only [Script.run, World.perform]
      cases hinsert : w.segments.insert (w.segmentOf owner draft) with
      | error f =>
        rw [World.segmentOf] at hinsert
        simp only [hinsert, World.change]
        exact .inl ⟨_, _, rfl, rfl⟩
      | ok segments =>
        rw [World.segmentOf] at hinsert
        simp only [hinsert, World.change]
        exact .inr ⟨valid, _, rfl, rfl, rfl⟩
  · left
    rcases save_of_not_valid owner valid with ⟨f, h⟩ | ⟨m, f, h⟩
    · rw [h]
      exact ⟨f, _, rfl, rfl⟩
    · rw [h]
      exact ⟨f, _, rfl, rfl⟩

theorem refreshSegment_cases (segment : Segment) (w : World) :
    (∃ f w', (refreshSegment segment).run.run w = (.error f, w') ∧ w'.segments = w.segments) ∨
      Rule.problems segment.rules = [] ∧
      ∃ w', (refreshSegment segment).run.run w =
          (.ok (segment.applyStats (w.evaluate segment.owner segment.rules)), w') ∧
        w.segments.updateStats segment.id (w.evaluate segment.owner segment.rules) =
          .ok w'.segments := by
  by_cases valid : Rule.problems segment.rules = []
  · rw [refreshSegment_of_valid valid]
    simp only [Script.run, World.perform]
    cases hupdate : w.segments.updateStats segment.id
        (w.evaluate segment.owner segment.rules) with
    | error f =>
      rw [World.evaluate] at hupdate
      simp only [hupdate, World.change]
      exact .inl ⟨_, _, rfl, rfl⟩
    | ok segments =>
      rw [World.evaluate] at hupdate
      simp only [hupdate, World.change]
      exact .inr ⟨valid, _, rfl, rfl⟩
  · obtain ⟨m, f, h⟩ := refreshSegment_of_not_valid valid
    rw [h]
    exact .inl ⟨f, _, rfl, rfl⟩

theorem run_refresh (owner : String) (id : Uuid) (w : World) :
    (refresh owner id).run.run w =
      match w.segments.get? owner id with
      | some segment => (refreshSegment segment).run.run w
      | none => (.error (.segmentNotFound id.write), w) := by
  rw [refresh, ExceptT.run_bind, Script.run_bind, run_get]
  cases w.segments.get? owner id with
  | none => rfl
  | some segment => rfl

theorem refresh_cases (owner : String) (id : Uuid) (w : World) :
    (∃ f w', (refresh owner id).run.run w = (.error f, w') ∧ w'.segments = w.segments) ∨
      ∃ segment w', w.segments.get? owner id = some segment ∧
        (refresh owner id).run.run w =
          (.ok (segment.applyStats (w.evaluate segment.owner segment.rules)), w') ∧
        w.segments.updateStats id (w.evaluate segment.owner segment.rules) = .ok w'.segments := by
  rw [run_refresh]
  cases hget : w.segments.get? owner id with
  | none => exact .inl ⟨_, w, rfl, rfl⟩
  | some segment =>
    have hid := w.segments.id_of_get? (Store.Segments.get?_eq_some_iff.1 hget).1
    rcases refreshSegment_cases segment w with ⟨f, w', h, hsame⟩ | ⟨-, w', h, hupdate⟩
    · exact .inl ⟨f, w', h, hsame⟩
    · rw [hid] at hupdate
      exact .inr ⟨segment, w', rfl, h, hupdate⟩

theorem run_refreshAll (owner : String) (w : World) :
    (refreshAll owner).run.run w =
      ((refreshEach ((w.segments.list owner).filter (·.isActive))).run w).map .ok id := by
  rw [refreshAll, ExceptT.run_bind, Script.run_bind]
  change (Script.run (refreshEach _ >>= fun t => pure (Except.ok t))) w = _
  rw [Script.run_bind, Script.run_pure]
  rfl

theorem run_refreshEach_cons (segment : Segment) (rest : List Segment) (w : World) :
    ((refreshEach (segment :: rest)).run w).2 =
      ((refreshEach rest).run ((refreshSegment segment).run.run w).2).2 := by
  rw [refreshEach, Script.run_bind, Script.run_bind]
  cases ((refreshSegment segment).run.run w).1 <;> rfl

section Reading

variable {owner : String} {id : Uuid} {draft : Draft} {s : Segment} {w w' : World}

theorem get_of_save (h : (save owner draft).run.run w = (.ok s, w')) :
    (get owner s.id).run.run w' = (.ok s, w') := by
  rcases save_cases owner draft w with ⟨f, w₁, hfail, -⟩ | ⟨-, w₁, hsave, hinsert, -⟩
  · rw [hfail] at h
    cases h
  · rw [hsave] at h
    cases h
    have howner : (w.segmentOf owner draft).owner = owner := rfl
    rw [run_get, Store.Segments.get?_insert hinsert, if_pos rfl, if_pos howner]

theorem get_of_refresh (h : (refresh owner id).run.run w = (.ok s, w')) :
    (get owner id).run.run w' = (.ok s, w') := by
  rcases refresh_cases owner id w with ⟨f, w₁, hfail, -⟩ | ⟨segment, w₁, hget, hrefresh, hupdate⟩
  · rw [hfail] at h
    cases h
  · rw [hrefresh] at h
    cases h
    rw [run_get, Store.Segments.get?_updateStats hupdate, if_pos rfl, hget]
    rfl

end Reading

namespace World

/-- At most the results of segments of an account change, and they become those of an evaluation
in the world. -/
structure Evaluates (owner : String) (w w' : World) : Prop where
  scene : w.SameScene w'
  stored : ∀ {id t}, w'.segments.byId.get? id = some t → w.segments.byId.get? id = some t ∨
    ∃ s, w.segments.byId.get? id = some s ∧ s.owner = owner ∧ Rule.problems s.rules = [] ∧
      t = s.applyStats (w.evaluate s.owner s.rules)

def Carries (w : World) (segment : Segment) : Prop :=
  ∀ {t}, w.segments.byId.get? segment.id = some t →
    t.owner = segment.owner ∧ t.rules = segment.rules

namespace Evaluates

variable {owner : String} {u v w : World}

theorem of_segments_eq (scene : w.SameScene v) (h : v.segments = w.segments) :
    Evaluates owner w v where
  scene := scene
  stored ht := by
    rw [h] at ht
    exact .inl ht

theorem trans (huv : Evaluates owner u v) (hvw : Evaluates owner v w) : Evaluates owner u w where
  scene := huv.scene.trans hvw.scene
  stored {id t} ht := by
    rcases hvw.stored ht with hold | ⟨s, hs, howner, hproblems, rfl⟩
    · exact huv.stored hold
    · rw [huv.scene.evaluate]
      rcases huv.stored hs with hold | ⟨r, hr, hrowner, hrproblems, rfl⟩
      · exact .inr ⟨s, hold, howner, hproblems, rfl⟩
      · exact .inr ⟨r, hr, hrowner, hrproblems, rfl⟩

theorem carries (h : Evaluates owner w v) {segment : Segment} (hw : w.Carries segment) :
    v.Carries segment := by
  intro t ht
  rcases h.stored ht with hold | ⟨s, hs, -, -, rfl⟩
  · exact hw hold
  · obtain ⟨howner, hrules⟩ := hw hs
    exact ⟨howner, hrules⟩

end Evaluates

end World

section Evaluating

variable {w : World} (owner : String)

theorem evaluates_refreshSegment {segment : Segment} (howner : segment.owner = owner)
    (carries : w.Carries segment) :
    World.Evaluates owner w ((refreshSegment segment).run.run w).2 := by
  have scene := Script.sameScene_run (refreshSegment segment).run w
  rcases refreshSegment_cases segment w with ⟨f, w', h, hsame⟩ | ⟨hproblems, w', h, hupdate⟩
  · rw [h] at scene ⊢
    exact .of_segments_eq scene hsame
  · rw [h] at scene ⊢
    refine ⟨scene, fun {id t} ht => ?_⟩
    obtain ⟨held, hheld, hafter⟩ := Store.Segments.byId_updateStats hupdate
    obtain ⟨hheldOwner, hrules⟩ := carries hheld
    rw [hafter] at ht
    by_cases hid : id = segment.id
    · rw [if_pos hid] at ht
      cases ht
      rw [hid]
      refine .inr ⟨held, hheld, hheldOwner.trans howner, ?_, ?_⟩
      · rw [hrules]
        exact hproblems
      · rw [hheldOwner, hrules]
    · rw [if_neg hid] at ht
      exact .inl ht

theorem evaluates_refresh (id : Uuid) :
    World.Evaluates owner w ((refresh owner id).run.run w).2 := by
  rw [run_refresh]
  cases hget : w.segments.get? owner id with
  | none => exact .of_segments_eq ⟨rfl, rfl⟩ rfl
  | some segment =>
    obtain ⟨hstored, howner⟩ := Store.Segments.get?_eq_some_iff.1 hget
    refine evaluates_refreshSegment owner howner fun {t} ht => ?_
    rw [w.segments.id_of_get? hstored, hstored] at ht
    cases ht
    exact ⟨rfl, rfl⟩

theorem evaluates_refreshEach {segments : List Segment}
    (howner : ∀ segment ∈ segments, segment.owner = owner)
    (carries : ∀ segment ∈ segments, w.Carries segment) :
    World.Evaluates owner w ((refreshEach segments).run w).2 := by
  -- Segments that are refreshed one after the other are all evaluated in the world as it was at
  -- first, for no evaluation changes what another one depends on.
  induction segments generalizing w with
  | nil => exact .of_segments_eq ⟨rfl, rfl⟩ rfl
  | cons segment rest ih =>
    have hfirst := evaluates_refreshSegment owner (howner segment List.mem_cons_self)
      (carries segment List.mem_cons_self)
    have hrest := ih (fun s hs => howner s (List.mem_cons_of_mem _ hs))
      fun s hs => hfirst.carries (carries s (List.mem_cons_of_mem _ hs))
    rw [run_refreshEach_cons]
    exact hfirst.trans hrest

theorem evaluates_refreshAll : World.Evaluates owner w ((refreshAll owner).run.run w).2 := by
  rw [run_refreshAll, Prod.map_snd, id]
  have hmem : ∀ segment ∈ (w.segments.list owner).filter (·.isActive),
      w.segments.get? owner segment.id = some segment := by
    intro segment h
    exact Store.Segments.mem_list.1 (List.mem_filter.1 h).1
  apply evaluates_refreshEach
  · intro segment h
    exact (Store.Segments.get?_eq_some_iff.1 (hmem segment h)).2
  · intro segment h t ht
    rw [(Store.Segments.get?_eq_some_iff.1 (hmem segment h)).1] at ht
    cases ht
    exact ⟨rfl, rfl⟩

end Evaluating

end Segmentation.Service
