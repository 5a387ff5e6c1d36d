import Mathlib.Data.Nat.Init
import Segmentation.Proofs.Http.History

namespace Segmentation

namespace Service.World

open Store.Segments (Adds Renews)

/-- No segment has an identifier that is drawn up to a later world. -/
def DrawsUnused (w w' : World) : Prop :=
  ∀ n, w.drawn ≤ n → n < w'.drawn → w.segments.byId.get? (w.ids n) = none

instance (w w' : World) : Decidable (w.DrawsUnused w') :=
  inferInstanceAs (Decidable (∀ n, w.drawn ≤ n → n < w'.drawn →
    w.segments.byId.get? (w.ids n) = none))

/-- The identifiers that are drawn up to a later world are new: no segment has one of them, and
none of them is drawn twice. -/
structure DrawsNew (w w' : World) : Prop where
  unused : w.DrawsUnused w'
  apart : ∀ n, w.drawn ≤ n → n < w'.drawn → ∀ m, w.drawn ≤ m → m < n → w.ids m ≠ w.ids n

/-- What no request and no change of the surroundings undoes, where only drawn identifiers are
given to new segments. -/
structure Extends (w w' : World) : Prop where
  later : w.Later w'
  stored : ∀ id, w'.segments.byId.get? id ≠ none →
    w.segments.byId.get? id ≠ none ∨ ∃ n, w.drawn ≤ n ∧ n < w'.drawn ∧ id = w.ids n

section Extends

variable {w w' : World} (hids : w'.ids = w.ids) (hdrawn : w.drawn ≤ w'.drawn)

include hids hdrawn

theorem extends_of_segments_eq (h : w'.segments = w.segments) : w.Extends w' := by
  refine ⟨later_of_segments_eq hids hdrawn h, fun id hid => ?_⟩
  rw [h] at hid
  exact .inl hid

theorem extends_of_renews {P : Segment → Prop} (h : Renews P w.segments w'.segments) :
    w.Extends w' := by
  refine ⟨⟨hids, hdrawn, fun key hkey => ?_, fun id s hs => ?_⟩, fun id hid => ?_⟩
  · rw [h.names]
    exact hkey
  · rcases h.byId id with hsame | ⟨held, stats, hheld, -, hafter⟩
    · rw [hsame]
      exact ⟨s, hs, .refl s⟩
    · rw [hs] at hheld
      cases hheld
      exact ⟨_, hafter, (Segment.Renewal.refl s).applyStats stats⟩
  · rcases h.byId id with hsame | ⟨held, stats, hheld, -, -⟩
    · rw [hsame] at hid
      exact .inl hid
    · rw [hheld]
      exact .inl (Option.some_ne_none held)

theorem extends_of_adds {s : Segment} {n : Nat} (hn : w.drawn ≤ n) (hn' : n < w'.drawn)
    (hid : s.id = w.ids n) (h : Adds s w.segments w'.segments) : w.Extends w' := by
  refine ⟨⟨hids, hdrawn, fun key hkey => ?_, fun id t ht => ?_⟩, fun id hstored => ?_⟩
  · rw [Table.contains, h.names]
    split
    · rfl
    · exact hkey
  · rw [h.byId, if_neg]
    · exact ⟨t, ht, .refl t⟩
    · rintro rfl
      rw [h.unused] at ht
      cases ht
  · rw [h.byId] at hstored
    by_cases heq : id = s.id
    · exact .inr ⟨n, hn, hn', heq.trans hid⟩
    · rw [if_neg heq] at hstored
      exact .inl hstored

end Extends

theorem extends_drift (w : World) (d : Drift) : w.Extends (w.drift d) := by
  cases d with
  | clock t => exact extends_of_segments_eq rfl (Nat.le_refl _) rfl
  | customer c => exact extends_of_segments_eq rfl (Nat.le_refl _) rfl

theorem DrawsNew.rest {w v w' : World} (h : w.DrawsNew w') (hstep : w.Extends v) :
    v.DrawsNew w' where
  unused n hn hn' := by
    rw [hstep.later.ids]
    by_contra hstored
    rcases hstep.stored _ hstored with hold | ⟨m, hm, hm', heq⟩
    · exact hold (h.unused n (Nat.le_trans hstep.later.drawn hn) hn')
    · exact h.apart n (Nat.le_trans hstep.later.drawn hn) hn' m hm
        (Nat.lt_of_lt_of_le hm' hn) heq.symm
  apart n hn hn' m hm hmn := by
    rw [hstep.later.ids]
    exact h.apart n (Nat.le_trans hstep.later.drawn hn) hn' m
      (Nat.le_trans hstep.later.drawn hm) hmn

end Service.World

namespace Http

open Service (Limits Script World)
open Store.Segments (Adds Renews)

theorem Request.Asks.eq {r : Request} {route route' : Route} {verb verb' : Verb}
    (h : r.Asks route verb) (h' : r.Asks route' verb') : route = route' ∧ verb = verb' :=
  ⟨Option.some.inj (h.route.symm.trans h'.route), Option.some.inj (h.verb.symm.trans h'.verb)⟩

@[simp] theorem Response.status_ok (value : Json) : (Response.ok value).status = 200 :=
  rfl

@[simp] theorem Response.status_created (value : Json) : (Response.created value).status = 201 :=
  rfl

namespace Server

section Handle

variable {limits : Limits} {r : Request} {w w' : World} {x : Exchange}
  (hrun : (handle limits r).run w = (x, w'))

include hrun

theorem customers_handle : w'.customers = w.customers := by
  have scene := Script.sameScene_run (handle limits r) w
  rw [hrun] at scene
  exact scene.customers

theorem handle_cases :
    400 ≤ x.response.status ∧ w'.segments = w.segments ∨
    ∃ v served route verb, Served w (x, w') v served ∧ r.Asks route verb ∧
      Outcome r v route verb served := by
  obtain ⟨v, served, hserved, houtcome⟩ := outcome_handle limits r w
  rw [hrun] at hserved
  rcases houtcome with ⟨hstatus, hsame⟩ | ⟨route, verb, hasks, h⟩
  · rw [← hserved.status] at hstatus
    rw [← hserved.segments_after, hserved.segments] at hsame
    exact .inl ⟨hstatus, hsame⟩
  · exact .inr ⟨v, served, route, verb, hserved, hasks, h⟩

theorem segments_of_failed (h : ¬(200 ≤ x.response.status ∧ x.response.status < 300)) :
    w'.segments = w.segments := by
  rcases handle_cases hrun with ⟨-, hsame⟩ | ⟨v, served, route, verb, hserved, -, houtcome⟩
  · exact hsame
  · rw [hserved.status] at h
    rw [hserved.segments_after, ← hserved.segments]
    cases houtcome with
    | refused status same => exact same
    | read reads status same => exact same
    | created huser hdraft run => simp at h
    | refreshed huser hid run => simp at h
    | refreshedAll huser run => simp at h

theorem segments_of_reads {route : Route} {verb : Verb} (hasks : r.Asks route verb)
    (hreads : route.stores verb = false) : w'.segments = w.segments := by
  rcases handle_cases hrun with ⟨-, hsame⟩ | ⟨v, served, route', verb', hserved, hasks', houtcome⟩
  · exact hsame
  · rw [hserved.segments_after, ← hserved.segments]
    obtain ⟨rfl, rfl⟩ := hasks.eq hasks'
    cases houtcome with
    | refused status same => exact same
    | read reads status same => exact same
    | created huser hdraft run => cases hreads
    | refreshed huser hid run => cases hreads
    | refreshedAll huser run => cases hreads

theorem adds_of_created (h : x.response.status = 201) (unused : w.DrawsUnused w') :
    r.Asks .segments .post ∧ ∃ s n, r.user? = some s.owner ∧ w.drawn ≤ n ∧ n < w'.drawn ∧
      s.id = w.ids n ∧ Adds s w.segments w'.segments := by
  rcases handle_cases hrun with ⟨hstatus, -⟩ | ⟨v, served, route, verb, hserved, hasks, houtcome⟩
  · omega
  · rw [hserved.status] at h
    cases houtcome with
    | refused status same =>
      rw [h] at status
      exact absurd status (by decide)
    | read reads status same => exact absurd h status
    | @created user draft s v' huser hdraft run =>
      obtain ⟨rfl, hid, hsucc, hadds⟩ := Service.adds_of_save run
      have hlt : v.drawn < w'.drawn := by
        rw [hserved.drawn_after, hsucc]
        exact Nat.lt_succ_self _
      rw [hserved.ids] at hid
      rw [hserved.segments, ← hserved.segments_after] at hadds
      refine ⟨hasks, s, v.drawn, huser, hserved.drawn_le, hlt, hid, hadds ?_⟩
      rw [hid]
      exact unused v.drawn hserved.drawn_le hlt
    | refreshed huser hid run => simp at h
    | refreshedAll huser run => simp at h

theorem renews_of_refreshed {raw : String} (hasks : r.Asks (.refresh raw) .post)
    (h : x.response.status = 200) :
    ∃ user id held, r.user? = some user ∧ segmentId? raw = some id ∧
      w.segments.get? user id = some held ∧ Renews (·.id = id) w.segments w'.segments := by
  rcases handle_cases hrun with ⟨hstatus, -⟩ | ⟨v, served, route, verb, hserved, hasks', houtcome⟩
  · omega
  · rw [hserved.status] at h
    rw [hserved.segments_after, ← hserved.segments]
    obtain ⟨rfl, rfl⟩ := hasks.eq hasks'
    cases houtcome with
    | refused status same =>
      rw [h] at status
      exact absurd status (by decide)
    | read reads status same => cases reads
    | @refreshed user raw id s v' huser hid run =>
      obtain ⟨⟨held, hheld⟩, hrenews⟩ := Service.renews_refresh run
      exact ⟨user, id, held, huser, hid, hheld, hrenews⟩

theorem renews_of_refreshAll {user : String} (hasks : r.Asks .refreshAll .post)
    (huser : r.user? = some user) :
    Renews (fun s => s.owner = user ∧ s.isActive) w.segments w'.segments := by
  rcases handle_cases hrun with ⟨-, hsame⟩ | ⟨v, served, route, verb, hserved, hasks', houtcome⟩
  · exact .of_eq hsame
  · rw [hserved.segments_after, ← hserved.segments]
    obtain ⟨rfl, rfl⟩ := hasks.eq hasks'
    cases houtcome with
    | refused status same => exact .of_eq same
    | read reads status same => cases reads
    | @refreshedAll user' t v' huser' run =>
      cases huser.symm.trans huser'
      have hrenews := Service.renews_refreshAll user v
      rw [run] at hrenews
      exact hrenews

theorem extends_handle (unused : w.DrawsUnused w') : w.Extends w' := by
  have hids : w'.ids = w.ids := by
    have h := @Script.ids_run _ (handle limits r) w
    rw [hrun] at h
    exact h
  have hdrawn : w.drawn ≤ w'.drawn := by
    have h := Script.drawn_run (handle limits r) w
    rw [hrun] at h
    exact h
  rcases handle_cases hrun with ⟨-, hsame⟩ | ⟨v, served, route, verb, hserved, -, houtcome⟩
  · exact World.extends_of_segments_eq hids hdrawn hsame
  · have hafter := hserved.segments_after
    cases houtcome with
    | refused status same =>
      exact World.extends_of_segments_eq hids hdrawn (hafter.trans (same.trans hserved.segments))
    | read reads status same =>
      exact World.extends_of_segments_eq hids hdrawn (hafter.trans (same.trans hserved.segments))
    | created huser hdraft run =>
      obtain ⟨-, s, n, -, hn, hn', hid, hadds⟩ := adds_of_created hrun hserved.status unused
      exact World.extends_of_adds hids hdrawn hn hn' hid hadds
    | refreshed huser hid run =>
      obtain ⟨-, hrenews⟩ := Service.renews_refresh run
      rw [← hafter, hserved.segments] at hrenews
      exact World.extends_of_renews hids hdrawn hrenews
    | @refreshedAll user t v' huser run =>
      have hrenews := Service.renews_refreshAll user v
      rw [run, ← hafter, hserved.segments] at hrenews
      exact World.extends_of_renews hids hdrawn hrenews

end Handle

end Server

namespace Event

variable {limits : Limits} {w : World}

theorem drawn_apply (limits : Limits) (w : World) (e : Event) :
    w.drawn ≤ (apply limits w e).drawn := by
  cases e with
  | request r => exact Script.drawn_run _ w
  | drift d => cases d <;> exact Nat.le_refl _

theorem drawn_after (limits : Limits) (w : World) (events : List Event) :
    w.drawn ≤ (after limits w events).drawn := by
  induction events generalizing w with
  | nil => exact Nat.le_refl _
  | cons e events ih => exact Nat.le_trans (drawn_apply limits w e) (ih _)

theorem extends_apply {e : Event} (unused : w.DrawsUnused (apply limits w e)) :
    w.Extends (apply limits w e) := by
  cases e with
  | request r => exact Server.extends_handle rfl unused
  | drift d => exact World.extends_drift w d

theorem later_after {events : List Event} (h : w.DrawsNew (after limits w events)) :
    w.Later (after limits w events) := by
  -- By induction on the events: what is drawn after the first of them is new to what it leaves.
  induction events generalizing w with
  | nil => exact .refl w
  | cons e events ih =>
    have hstep : w.Extends (apply limits w e) := by
      apply extends_apply
      intro n hn hn'
      exact h.unused n hn (Nat.lt_of_lt_of_le hn' (drawn_after limits _ events))
    exact hstep.later.trans (ih (h.rest hstep))

theorem kept_after {events : List Event} (h : w.DrawsNew (after limits w events)) {id : Uuid}
    {s : Segment} (hs : w.segments.byId.get? id = some s) :
    ∃ t, (after limits w events).segments.byId.get? id = some t ∧ t.id = s.id ∧
      t.owner = s.owner ∧ t.name = s.name ∧ t.description = s.description ∧ t.rules = s.rules ∧
      t.isActive = s.isActive ∧ t.createdAt = s.createdAt := by
  obtain ⟨t, ht, rfl | ⟨stats, rfl⟩⟩ := (later_after h).stored id s hs
  · exact ⟨t, ht, rfl, rfl, rfl, rfl, rfl, rfl, rfl⟩
  · exact ⟨_, ht, rfl, rfl, rfl, rfl, rfl, rfl, rfl⟩

/-- What a request may change, whatever it is and whatever is stored: nothing where it does not
succeed or where its route only reads, one segment more of the user who makes it where that is
created, and the results of that user's segments where they are refreshed. Customers stay as they
are. So whatever else happens, a stored segment keeps all but its results. -/
theorem changes_are_confined (limits : Limits) (w : World) :
    (∀ r x w', (Server.handle limits r).run w = (x, w') →
      w'.customers = w.customers ∧
      (¬ (200 ≤ x.response.status ∧ x.response.status < 300) → w'.segments = w.segments) ∧
      (∀ route verb, r.Asks route verb → route.stores verb = false →
        w'.segments = w.segments) ∧
      (x.response.status = 201 → w.DrawsUnused w' → r.Asks .segments .post ∧
        ∃ s, r.user? = some s.owner ∧ Adds s w.segments w'.segments) ∧
      (∀ raw, r.Asks (.refresh raw) .post → x.response.status = 200 →
        ∃ user id held, r.user? = some user ∧ Server.segmentId? raw = some id ∧
          w.segments.get? user id = some held ∧ Renews (·.id = id) w.segments w'.segments) ∧
      ∀ user, r.Asks .refreshAll .post → r.user? = some user →
        Renews (fun s => s.owner = user ∧ s.isActive) w.segments w'.segments) ∧
    ∀ events, w.DrawsNew (after limits w events) → ∀ id s,
      w.segments.byId.get? id = some s →
      ∃ t, (after limits w events).segments.byId.get? id = some t ∧ t.id = s.id ∧
        t.owner = s.owner ∧ t.name = s.name ∧ t.description = s.description ∧
        t.rules = s.rules ∧ t.isActive = s.isActive ∧ t.createdAt = s.createdAt := by
  refine ⟨fun r x w' hrun => ⟨?_, ?_, ?_, ?_, ?_, ?_⟩, ?_⟩
  · exact Server.customers_handle hrun
  · exact Server.segments_of_failed hrun
  · intro route verb hasks hreads
    exact Server.segments_of_reads hrun hasks hreads
  · intro hcreated unused
    obtain ⟨hasks, s, n, howner, -, -, -, hadds⟩ := Server.adds_of_created hrun hcreated unused
    exact ⟨hasks, s, howner, hadds⟩
  · intro raw hasks hdone
    exact Server.renews_of_refreshed hrun hasks hdone
  · intro user hasks huser
    exact Server.renews_of_refreshAll hrun hasks huser
  · intro events hnew id s hs
    exact kept_after hnew hs

def byShop (method path body : String) : Request :=
  ⟨method, path, [⟨"x-user-id", "shop"⟩, ⟨"content-type", "application/json"⟩], body⟩

def createByShop : Request :=
  byShop "POST" "/api/segments"
    "\x7b\"name\":\"All\",\"rules\":\x7b\"rules\":[],\"combinator\":\"OR\"\x7d\x7d"

def refreshByShop : Request :=
  byShop "POST" ("/api/segments/" ++ (World.blank.ids 0).write ++ "/refresh") ""

def settledShop : World :=
  ((Service.save "shop" draftOfShop).run.run .blank).2

def settledAnswer (r : Request) : Exchange × World :=
  (Server.handle ⟨20, 100⟩ r).run settledShop

theorem changes_are_confined_settledShop :
    ((settledAnswer (byShop "PUT" "/api/segments" "")).1.response.status = 405 ∧
      (settledAnswer (byShop "PUT" "/api/segments" "")).2.segments = settledShop.segments) ∧
    ((settledAnswer (byShop "GET" "/api/segments" "")).1.response.status = 200 ∧
      (settledAnswer (byShop "GET" "/api/segments" "")).2.segments = settledShop.segments ∧
      (settledAnswer (byShop "GET" "/api/segments" "")).2.customers = settledShop.customers) ∧
    ((settledAnswer createByShop).1.response.status = 201 ∧
      createByShop.Asks .segments .post ∧ ∃ s, createByShop.user? = some s.owner ∧
        Adds s settledShop.segments (settledAnswer createByShop).2.segments) ∧
    ((settledAnswer refreshByShop).1.response.status = 200 ∧
      ∃ user id held, refreshByShop.user? = some user ∧
        Server.segmentId? (World.blank.ids 0).write = some id ∧
        settledShop.segments.get? user id = some held ∧
        Renews (·.id = id) settledShop.segments (settledAnswer refreshByShop).2.segments) ∧
    Renews (fun s => s.owner = "shop" ∧ s.isActive) settledShop.segments
      (settledAnswer (byShop "POST" "/api/segments/refresh-all" "")).2.segments ∧
    ∃ s t, settledShop.segments.byId.get? (World.blank.ids 0) = some s ∧
      (after ⟨20, 100⟩ settledShop [.request refreshByShop]).segments.byId.get?
        (World.blank.ids 0) = some t ∧ t.name = s.name := by
  obtain ⟨requests, runs⟩ := changes_are_confined ⟨20, 100⟩ settledShop
  have ofRequest (r : Request) := requests r (settledAnswer r).1 (settledAnswer r).2 rfl
  obtain ⟨-, failed, -⟩ := ofRequest (byShop "PUT" "/api/segments" "")
  obtain ⟨customers, -, reads, -⟩ := ofRequest (byShop "GET" "/api/segments" "")
  obtain ⟨-, -, -, creates, -⟩ := ofRequest createByShop
  obtain ⟨-, -, -, -, refreshes, -⟩ := ofRequest refreshByShop
  obtain ⟨-, -, -, -, -, refreshesAll⟩ :=
    ofRequest (byShop "POST" "/api/segments/refresh-all" "")
  refine ⟨⟨by decide +kernel, failed (by decide +kernel)⟩,
    ⟨by decide +kernel, reads .segments .get ?_ rfl, customers⟩,
    ⟨by decide +kernel, creates (by decide +kernel) ?_⟩,
    ⟨by decide +kernel, refreshes _ ?_ (by decide +kernel)⟩,
    refreshesAll "shop" ?_ (by decide +kernel), ?_⟩
  · exact ⟨by decide +kernel, by decide +kernel⟩
  · decide +kernel
  · exact ⟨by decide +kernel, by decide +kernel⟩
  · exact ⟨by decide +kernel, by decide +kernel⟩
  · obtain ⟨s, hs⟩ : ∃ s, settledShop.segments.byId.get? (World.blank.ids 0) = some s :=
      Option.isSome_iff_exists.1 (by decide +kernel)
    have hnew : settledShop.DrawsNew (after ⟨20, 100⟩ settledShop [.request refreshByShop]) :=
      ⟨by decide +kernel, by decide +kernel⟩
    obtain ⟨t, ht, -, -, hname, -⟩ := runs _ hnew _ s hs
    exact ⟨s, t, hs, ht, hname⟩

end Event

end Http

end Segmentation
