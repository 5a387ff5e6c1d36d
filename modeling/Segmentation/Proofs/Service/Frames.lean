import Segmentation.Proofs.Service.Evaluation
import Segmentation.Proofs.Service.Interleaving

namespace Segmentation

namespace Store.Segments

/-- The later store has one segment more, under an identifier and a name that none had. -/
structure Adds (segment : Segment) (s s' : Segments) : Prop where
  unused : s.byId.get? segment.id = none
  untaken : s.names.get? (segment.owner, segment.name) = none
  byId : ∀ id, s'.byId.get? id = if id = segment.id then some segment else s.byId.get? id
  names : ∀ key, s'.names.get? key =
    if key = (segment.owner, segment.name) then some segment.id else s.names.get? key

theorem adds_of_insert {segment : Segment} {s s' : Segments} (h : s.insert segment = .ok s')
    (unused : s.byId.get? segment.id = none) : Adds segment s s' := by
  obtain ⟨untaken, -, hnames⟩ := insert_cases h
  refine ⟨unused, untaken, byId_insert h, fun key => ?_⟩
  rw [hnames, Table.get?_insert]

/-- At most the results of stored segments that satisfy `P` differ. -/
structure Renews (P : Segment → Prop) (s s' : Segments) : Prop where
  names : s'.names = s.names
  byId : ∀ id, s'.byId.get? id = s.byId.get? id ∨ ∃ held stats,
    s.byId.get? id = some held ∧ P held ∧ s'.byId.get? id = some (held.applyStats stats)

namespace Renews

variable {P Q : Segment → Prop} {s s' s'' : Segments}

theorem of_eq (h : s' = s) : Renews P s s' := by
  rw [h]
  exact ⟨rfl, fun _ => .inl rfl⟩

theorem trans (h : Renews P s s') (h' : Renews P s' s'') : Renews P s s'' where
  names := h'.names.trans h.names
  byId id := by
    rcases h'.byId id with hsame | ⟨held, stats, hheld, hP, hafter⟩
    · rw [hsame]
      exact h.byId id
    · rcases h.byId id with hsame | ⟨first, stats', hfirst, hP', hbetween⟩
      · rw [hsame] at hheld
        exact .inr ⟨held, stats, hheld, hP, hafter⟩
      · rw [hbetween] at hheld
        cases hheld
        exact .inr ⟨first, stats, hfirst, hP', hafter⟩

theorem imp (h : Renews P s s') (hPQ : ∀ id held, s.byId.get? id = some held → P held → Q held) :
    Renews Q s s' where
  names := h.names
  byId id := by
    rcases h.byId id with hsame | ⟨held, stats, hheld, hP, hafter⟩
    · exact .inl hsame
    · exact .inr ⟨held, stats, hheld, hPQ id held hheld hP, hafter⟩

end Renews

theorem renews_of_updateStats {s s' : Segments} {id : Uuid} {stats : Segment.Stats}
    (h : s.updateStats id stats = .ok s') : Renews (·.id = id) s s' := by
  obtain ⟨-, -, -, hnames⟩ := updateStats_cases h
  obtain ⟨held, hheld, hafter⟩ := byId_updateStats h
  refine ⟨hnames, fun k => ?_⟩
  rw [hafter]
  by_cases hk : k = id
  · rw [if_pos hk, hk]
    exact .inr ⟨held, stats, hheld, s.id_of_get? hheld, rfl⟩
  · rw [if_neg hk]
    exact .inl rfl

end Store.Segments

namespace Service

open Store.Segments (Adds Renews)

theorem Script.drawn_run {α : Type} (s : Script α) (w : World) : w.drawn ≤ (s.run w).2.drawn := by
  induction s generalizing w with
  | done a => exact Nat.le_refl _
  | call c next ih => exact Nat.le_trans (World.drawn_perform w c) (ih _ _)

section Operations

variable {owner : String} {w w' : World}

theorem adds_of_save {draft : Draft} {s : Segment}
    (h : (save owner draft).run.run w = (.ok s, w')) :
    s.owner = owner ∧ s.id = w.ids w.drawn ∧ w'.drawn = w.drawn + 1 ∧
      (w.segments.byId.get? s.id = none → Adds s w.segments w'.segments) := by
  rcases save_cases owner draft w with ⟨f, w₁, hfail, -⟩ | ⟨-, w₁, hsave, hinsert, hdrawn⟩
  · rw [hfail] at h
    cases h
  · rw [hsave] at h
    cases h
    exact ⟨rfl, rfl, hdrawn, Store.Segments.adds_of_insert hinsert⟩

theorem segments_of_save_error {draft : Draft} {f : Failure}
    (h : (save owner draft).run.run w = (.error f, w')) : w'.segments = w.segments := by
  rcases save_cases owner draft w with ⟨g, w₁, hfail, hsame⟩ | ⟨-, w₁, hsave, -⟩
  · rw [hfail] at h
    cases h
    exact hsame
  · rw [hsave] at h
    cases h

theorem renews_refreshSegment (segment : Segment) (w : World) :
    Renews (·.id = segment.id) w.segments ((refreshSegment segment).run.run w).2.segments := by
  rcases refreshSegment_cases segment w with ⟨f, w₁, hfail, hsame⟩ | ⟨-, w₁, hrefresh, hupdate⟩
  · rw [hfail]
    exact .of_eq hsame
  · rw [hrefresh]
    exact Store.Segments.renews_of_updateStats hupdate

theorem renews_refresh {id : Uuid} {s : Segment}
    (h : (refresh owner id).run.run w = (.ok s, w')) :
    (∃ held, w.segments.get? owner id = some held) ∧
      Renews (·.id = id) w.segments w'.segments := by
  rcases refresh_cases owner id w with ⟨f, w₁, hfail, -⟩ | ⟨held, w₁, hget, hrefresh, hupdate⟩
  · rw [hfail] at h
    cases h
  · rw [hrefresh] at h
    cases h
    exact ⟨⟨held, hget⟩, Store.Segments.renews_of_updateStats hupdate⟩

theorem segments_of_refresh_error {id : Uuid} {f : Failure}
    (h : (refresh owner id).run.run w = (.error f, w')) : w'.segments = w.segments := by
  rcases refresh_cases owner id w with ⟨g, w₁, hfail, hsame⟩ | ⟨held, w₁, -, hrefresh, -⟩
  · rw [hfail] at h
    cases h
    exact hsame
  · rw [hrefresh] at h
    cases h

theorem renews_refreshEach (segments : List Segment) (w : World) :
    Renews (fun s => ∃ segment ∈ segments, s.id = segment.id) w.segments
      ((refreshEach segments).run w).2.segments := by
  induction segments generalizing w with
  | nil => exact .of_eq rfl
  | cons segment rest ih =>
    rw [run_refreshEach_cons]
    refine .trans ((renews_refreshSegment segment w).imp ?_) ((ih _).imp ?_)
    · intro _ s _ hs
      exact ⟨segment, List.mem_cons_self, hs⟩
    · rintro _ s _ ⟨t, ht, hs⟩
      exact ⟨t, List.mem_cons_of_mem _ ht, hs⟩

theorem renews_refreshAll (owner : String) (w : World) :
    Renews (fun s => s.owner = owner ∧ s.isActive) w.segments
      ((refreshAll owner).run.run w).2.segments := by
  -- What is listed is what is stored, so an inactive segment is left as it is.
  rw [run_refreshAll, Prod.map_snd, id]
  refine (renews_refreshEach _ w).imp ?_
  rintro id held hheld ⟨segment, hmem, hid⟩
  obtain ⟨hlisted, hactive⟩ := List.mem_filter.1 hmem
  obtain ⟨hstored, howner⟩ := Store.Segments.get?_eq_some_iff.1 (Store.Segments.mem_list.1 hlisted)
  rw [← hid, w.segments.id_of_get? hheld, hheld] at hstored
  cases hstored
  exact ⟨howner, hactive⟩

end Operations

end Service

end Segmentation
