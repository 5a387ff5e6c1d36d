import Segmentation.Proofs.Http.Responses

namespace Segmentation.Http

open Service (Draft Limits World)

namespace Server

/-- What a request may come to: nothing but reading, or one operation for the user who makes it. -/
inductive Effect (r : Request) (w : World) : World → Prop
  | reads {w' : World} (same : w'.segments = w.segments) : Effect r w w'
  | saves {user : String} {draft : Draft} (huser : r.user? = some user)
      (hdraft : Payload.readDraft r = .ok draft) :
      Effect r w ((Service.save user draft).run.run w).2
  | refreshes {user : String} {id : Uuid} (huser : r.user? = some user) :
      Effect r w ((Service.refresh user id).run.run w).2
  | refreshesAll {user : String} (huser : r.user? = some user) :
      Effect r w ((Service.refreshAll user).run.run w).2

section Effects

variable {r : Request} {w : World}

theorem effect_of_outcome {route : Route} {verb : Verb} {served : Response × World}
    (h : Outcome r w route verb served) : Effect r w served.2 := by
  cases h with
  | refused status same => exact .reads same
  | read reads status same => exact .reads same
  | created huser hdraft run =>
    have effect : Effect r w _ := .saves huser hdraft
    rw [run] at effect
    exact effect
  | @refreshed user raw id s w' huser hid run =>
    have effect := @Effect.refreshes r w user id huser
    rw [run] at effect
    exact effect
  | refreshedAll huser run =>
    have effect : Effect r w _ := .refreshesAll huser
    rw [run] at effect
    exact effect

theorem effect_handle (limits : Limits) (r : Request) (w : World) :
    ∃ v v' : World, v.segments = w.segments ∧ w.SameScene v ∧ Effect r v v' ∧
      ((handle limits r).run w).2.segments = v'.segments := by
  obtain ⟨v, served, hserved, houtcome⟩ := outcome_handle limits r w
  refine ⟨v, served.2, hserved.segments, hserved.scene, ?_, hserved.segments_after⟩
  rcases houtcome with ⟨-, same⟩ | ⟨route, verb, -, h⟩
  · exact .reads same
  · exact effect_of_outcome h

theorem stored_handle {limits : Limits} {r : Request} {w : World} {id : Uuid} {t : Segment}
    (h : ((handle limits r).run w).2.segments.byId.get? id = some t) :
    w.segments.byId.get? id = some t ∨
    (∃ draft, r.user? = some t.owner ∧ Payload.readDraft r = .ok draft ∧ draft.Valid ∧
      ∃ v, w.SameScene v ∧ t = v.segmentOf t.owner draft) ∨
    ∃ s, w.segments.byId.get? id = some s ∧ r.user? = some s.owner ∧
      t = s.applyStats (w.evaluate s.owner s.rules) := by
  obtain ⟨v, v', hv, scene, effect, hafter⟩ := effect_handle limits r w
  rw [hafter] at h
  have evaluated {user : String} (huser : r.user? = some user)
      (hevaluates : World.Evaluates user v v') :
      w.segments.byId.get? id = some t ∨ ∃ s, w.segments.byId.get? id = some s ∧
        r.user? = some s.owner ∧ t = s.applyStats (w.evaluate s.owner s.rules) := by
    rcases hevaluates.stored h with hold | ⟨s, hs, rfl, -, ht⟩
    · rw [hv] at hold
      exact .inl hold
    · rw [hv] at hs
      rw [scene.evaluate] at ht
      exact .inr ⟨s, hs, huser, ht⟩
  cases effect with
  | reads same =>
    rw [same, hv] at h
    exact .inl h
  | @saves user draft huser hdraft =>
    rcases Service.save_cases user draft v with
      ⟨f, v₁, hfail, hsame⟩ | ⟨valid, v₁, hsave, hinsert, -⟩
    · rw [hfail] at h
      change v₁.segments.byId.get? id = some t at h
      rw [hsame, hv] at h
      exact .inl h
    · rw [hsave] at h
      change v₁.segments.byId.get? id = some t at h
      rw [Store.Segments.byId_insert hinsert] at h
      by_cases hid : id = (v.segmentOf user draft).id
      · rw [if_pos hid] at h
        cases h
        exact .inr (.inl ⟨draft, huser, hdraft, valid, v, scene, rfl⟩)
      · rw [if_neg hid, hv] at h
        exact .inl h
  | @refreshes user id huser =>
    exact (evaluated huser (Service.evaluates_refresh user id)).imp_right .inr
  | @refreshesAll user huser =>
    exact (evaluated huser (Service.evaluates_refreshAll user)).imp_right .inr

end Effects

end Server

end Segmentation.Http
