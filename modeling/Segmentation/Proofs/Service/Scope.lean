import Segmentation.Proofs.Store.Holdings
import Segmentation.Service.World

namespace Segmentation.Service

structure Holdings where
  customers : Uuid → Option Customer
  segments : Uuid → Option Segment

namespace World

def holdings (w : World) (owner : String) : Holdings :=
  ⟨w.customers.get? owner, w.segments.get? owner⟩

/-- Two worlds that a user cannot tell apart. -/
structure Agree (user : String) (v w : World) : Prop where
  holdings : v.holdings user = w.holdings user
  clock : v.clock = w.clock
  ids : v.ids = w.ids
  coins : v.coins = w.coins
  drawn : v.drawn = w.drawn
  database : v.database = w.database

namespace Agree

variable {user : String} {v w : World}

theorem customers (h : Agree user v w) : v.customers.get? user = w.customers.get? user :=
  congrArg Holdings.customers h.holdings

theorem segments (h : Agree user v w) : v.segments.get? user = w.segments.get? user :=
  congrArg Holdings.segments h.holdings

theorem change (h : Agree user v w) {r r' : Except Failure Store.Segments}
    (hr : r.map (fun s => s.get? user) = r'.map fun s => s.get? user) :
    (v.change r).1 = (w.change r').1 ∧ Agree user (v.change r).2 (w.change r').2 := by
  cases r with
  | ok s =>
    cases r' with
    | ok t =>
      have hsegments : s.get? user = t.get? user := Except.ok.inj hr
      refine ⟨rfl, { h with holdings := ?_ }⟩
      change Holdings.mk (v.customers.get? user) (s.get? user) = _
      rw [h.customers, hsegments]
      rfl
    | error g => cases hr
  | error f =>
    cases r' with
    | ok t => cases hr
    | error g =>
      have : f = g := Except.error.inj hr
      subst this
      exact ⟨rfl, h⟩

end Agree

end World

namespace Call

/-- The calls that change no store and look at the data of nobody but the user. -/
def Reads (user : Option String) : Call → Prop
  | now | freshId | toss | record _ | probe => True
  | count _ owner | find _ owner _ | findByName owner _ | get owner _ | list owner =>
    user = some owner
  | insert _ | updateStats _ _ => False

/-- The calls within the data of a user. A segment is only added under an identifier from the
world's supply that no segment has, and only updated if it is the user's own. -/
def InScope (user : Option String) (w : World) : Call → Prop
  | insert segment =>
    user = some segment.owner ∧ w.segments.byId.get? segment.id = none ∧
      ∃ n, w.ids n = segment.id
  | updateStats id _ =>
    ∃ owner segment, user = some owner ∧ w.segments.get? owner id = some segment
  | c => c.Reads user

theorem Reads.inScope {user : Option String} {c : Call} (h : c.Reads user) (w : World) :
    c.InScope user w := by
  cases c with
  | insert segment => exact h.elim
  | updateStats id stats => exact h.elim
  | _ => exact h

end Call

namespace World

variable {user : Option String} {w : World} {c : Call}

theorem perform_frame (w : World) (c : Call) :
    ∃ segments drawn measured, (w.perform c).2 = { w with segments, drawn, measured } := by
  have hchange (r : Except Failure Store.Segments) :
      ∃ segments, (w.change r).2 = { w with segments } := by
    cases r with
    | ok s => exact ⟨s, rfl⟩
    | error f => exact ⟨w.segments, rfl⟩
  cases c with
  | insert segment =>
    obtain ⟨segments, h⟩ := hchange (w.segments.insert segment)
    exact ⟨segments, w.drawn, w.measured, h⟩
  | updateStats id stats =>
    obtain ⟨segments, h⟩ := hchange (w.segments.updateStats id stats)
    exact ⟨segments, w.drawn, w.measured, h⟩
  | _ => exact ⟨_, _, _, rfl⟩

@[simp] theorem perform_customers : (w.perform c).2.customers = w.customers := by
  obtain ⟨segments, drawn, measured, h⟩ := perform_frame w c
  rw [h]

@[simp] theorem perform_ids : (w.perform c).2.ids = w.ids := by
  obtain ⟨segments, drawn, measured, h⟩ := perform_frame w c
  rw [h]

@[simp] theorem perform_database : (w.perform c).2.database = w.database := by
  obtain ⟨segments, drawn, measured, h⟩ := perform_frame w c
  rw [h]

theorem segments_of_reads (h : c.Reads user) : (w.perform c).2.segments = w.segments := by
  cases c with
  | insert segment => exact h.elim
  | updateStats id stats => exact h.elim
  | _ => rfl

theorem segments_cases (w : World) (c : Call) :
    (w.perform c).2.segments = w.segments ∨
    (∃ segment, c = .insert segment ∧
      w.segments.insert segment = .ok (w.perform c).2.segments) ∨
    ∃ id stats, c = .updateStats id stats ∧
      w.segments.updateStats id stats = .ok (w.perform c).2.segments := by
  cases c with
  | insert segment =>
    simp only [perform, change]
    cases hr : w.segments.insert segment with
    | ok s => exact .inr (.inl ⟨segment, rfl, hr⟩)
    | error f => exact .inl rfl
  | updateStats id stats =>
    simp only [perform, change]
    cases hr : w.segments.updateStats id stats with
    | ok s => exact .inr (.inr ⟨id, stats, rfl, hr⟩)
    | error f => exact .inl rfl
  | _ => exact .inl rfl

theorem indexed_perform (h : c.InScope user w) (hw : w.segments.Indexed) :
    (w.perform c).2.segments.Indexed := by
  rcases segments_cases w c with hsame | ⟨segment, rfl, hinsert⟩ | ⟨id, stats, rfl, hupdate⟩
  · rw [hsame]
    exact hw
  · exact hw.insert h.2.1 hinsert
  · exact hw.updateStats hupdate

theorem unused_perform (h : c.InScope user w) {id : Uuid} (hid : w.segments.byId.get? id = none)
    (hne : ∀ n, w.ids n ≠ id) : (w.perform c).2.segments.byId.get? id = none := by
  rcases segments_cases w c with hsame | ⟨segment, rfl, hinsert⟩ | ⟨k, stats, rfl, hupdate⟩
  · rw [hsame]
    exact hid
  · obtain ⟨n, hn⟩ := h.2.2
    rw [Store.Segments.byId_insert hinsert, if_neg fun heq => hne n (hn.trans heq.symm)]
    exact hid
  · obtain ⟨segment, hget, hafter⟩ := Store.Segments.byId_updateStats hupdate
    rw [hafter]
    refine (if_neg ?_).trans hid
    rintro rfl
    rw [hget] at hid
    cases hid

theorem held_perform (h : c.InScope user w) {owner : String} {id : Uuid}
    (hid : (w.segments.get? owner id).isSome) :
    ((w.perform c).2.segments.get? owner id).isSome := by
  rcases segments_cases w c with hsame | ⟨segment, rfl, hinsert⟩ | ⟨k, stats, rfl, hupdate⟩
  · rw [hsame]
    exact hid
  · rw [Store.Segments.get?_insert hinsert, if_neg]
    · exact hid
    · rintro rfl
      rw [Store.Segments.get?, h.2.1] at hid
      cases hid
  · rw [Store.Segments.get?_updateStats hupdate]
    by_cases hk : id = k
    · rw [if_pos hk, ← hk, Option.isSome_map]
      exact hid
    · rw [if_neg hk]
      exact hid

theorem holdings_perform (h : c.InScope user w) {other : String} (hne : user ≠ some other) :
    (w.perform c).2.holdings other = w.holdings other := by
  have hsegments : (w.perform c).2.segments.get? other = w.segments.get? other := by
    rcases segments_cases w c with hsame | ⟨segment, rfl, hinsert⟩ | ⟨id, stats, rfl, hupdate⟩
    · rw [hsame]
    · obtain ⟨huser, unused, -⟩ := h
      exact Store.Segments.get?_insert_of_ne hinsert unused fun heq => hne (heq ▸ huser)
    · obtain ⟨owner, segment, huser, hget⟩ := h
      refine Store.Segments.get?_updateStats_of_ne hupdate ?_
      obtain ⟨hbyId, rfl⟩ := Store.Segments.get?_eq_some_iff.1 hget
      rw [Store.Segments.get?, hbyId]
      exact Option.filter_some_neg (beq_false_of_ne fun heq => hne (heq ▸ huser))
  rw [holdings, hsegments, perform_customers, holdings]

theorem perform_agree {user : String} {v w : World} {c : Call} (agree : Agree user v w)
    (hv : v.segments.Indexed) (hw : w.segments.Indexed) (h : c.InScope (some user) v) :
    (v.perform c).1 = (w.perform c).1 ∧ Agree user (v.perform c).2 (w.perform c).2 := by
  cases c with
  | now => exact ⟨agree.clock, agree⟩
  | freshId =>
    refine ⟨?_, { agree with drawn := congrArg (· + 1) agree.drawn }⟩
    change v.ids v.drawn = w.ids w.drawn
    rw [agree.ids, agree.drawn]
  | toss =>
    refine ⟨?_, { agree with drawn := congrArg (· + 1) agree.drawn }⟩
    change v.coins v.drawn = w.coins w.drawn
    rw [agree.coins, agree.drawn]
  | count filter owner =>
    cases h
    exact ⟨congrArg Except.ok (Store.Customers.count_eq agree.customers filter), agree⟩
  | find filter owner limit =>
    cases h
    exact ⟨congrArg Except.ok (Store.Customers.find_eq agree.customers filter limit), agree⟩
  | findByName owner name =>
    cases h
    exact ⟨congrArg Except.ok (hv.findByName_eq hw agree.segments name), agree⟩
  | get owner id =>
    cases h
    exact ⟨congrArg Except.ok (congrFun agree.segments id), agree⟩
  | list owner =>
    cases h
    exact ⟨congrArg Except.ok (Store.Segments.list_eq agree.segments), agree⟩
  | insert segment =>
    obtain ⟨huser, -, -⟩ := h
    cases huser
    exact agree.change (Store.Segments.insert_agree hv hw agree.segments)
  | updateStats id stats =>
    obtain ⟨owner, segment, huser, hget⟩ := h
    cases huser
    exact agree.change (Store.Segments.updateStats_agree stats agree.segments hget)
  | record m => exact ⟨rfl, { agree with }⟩
  | probe => exact ⟨agree.database, agree⟩

end World

namespace Script

variable {α β : Type} {user : Option String}

inductive Reads (user : Option String) : Script α → Prop
  | done (a : α) : Reads user (done a)
  | call {c : Call} {next : c.Answer → Script α} (read : c.Reads user)
      (after : ∀ answer, Reads user (next answer)) : Reads user (call c next)

/-- A script whose calls, as they come in a run from a world, stay in the scope of a user. -/
inductive Stays (user : Option String) : Script α → World → Prop
  | done (a : α) (w : World) : Stays user (done a) w
  | call {c : Call} {next : c.Answer → Script α} {w : World} (inScope : c.InScope user w)
      (after : Stays user (next (w.perform c).1) (w.perform c).2) : Stays user (call c next) w

theorem reads_ask {c : Call} (h : c.Reads user) : (ask c).Reads user :=
  .call h fun answer => .done answer

theorem stays_ask {c : Call} {w : World} (h : c.InScope user w) : (ask c).Stays user w :=
  .call h (.done _ _)

theorem Reads.stays {s : Script α} (h : s.Reads user) (w : World) : s.Stays user w := by
  induction h generalizing w with
  | done a => exact .done a w
  | call read _ ih => exact .call (read.inScope w) (ih _ _)

theorem Reads.bind {s : Script α} {f : α → Script β} (hs : s.Reads user)
    (hf : ∀ a, (f a).Reads user) : (s >>= f).Reads user := by
  change (s.bind f).Reads user
  induction hs with
  | done a => exact hf a
  | call read _ ih => exact .call read ih

theorem Stays.bind {s : Script α} {f : α → Script β} {w : World} (hs : s.Stays user w)
    (hf : (f (s.run w).1).Stays user (s.run w).2) : (s >>= f).Stays user w := by
  change (s.bind f).Stays user w
  induction hs with
  | done a w => exact hf
  | call inScope _ ih => exact .call inScope (ih hf)

section Run

variable {s : Script α} {w : World}

theorem segments_run (h : s.Reads user) : (s.run w).2.segments = w.segments := by
  induction h generalizing w with
  | done a => rfl
  | call read _ ih => exact (ih _).trans (World.segments_of_reads read)

theorem ids_run : (s.run w).2.ids = w.ids := by
  induction s generalizing w with
  | done a => rfl
  | call c next ih => exact (ih _).trans World.perform_ids

theorem database_run : (s.run w).2.database = w.database := by
  induction s generalizing w with
  | done a => rfl
  | call c next ih => exact (ih _).trans World.perform_database

theorem indexed_run (h : s.Stays user w) (hw : w.segments.Indexed) :
    (s.run w).2.segments.Indexed := by
  induction h with
  | done a w => exact hw
  | call inScope _ ih => exact ih (World.indexed_perform inScope hw)

theorem unused_run (h : s.Stays user w) {id : Uuid} (hid : w.segments.byId.get? id = none)
    (hne : ∀ n, w.ids n ≠ id) : (s.run w).2.segments.byId.get? id = none := by
  induction h with
  | done a w => exact hid
  | call inScope _ ih =>
    apply ih (World.unused_perform inScope hid hne)
    rw [World.perform_ids]
    exact hne

theorem held_run (h : s.Stays user w) {owner : String} {id : Uuid}
    (hid : (w.segments.get? owner id).isSome) :
    ((s.run w).2.segments.get? owner id).isSome := by
  induction h with
  | done a w => exact hid
  | call inScope _ ih => exact ih (World.held_perform inScope hid)

theorem holdings_run (h : s.Stays user w) {other : String} (hne : user ≠ some other) :
    (s.run w).2.holdings other = w.holdings other := by
  induction h with
  | done a w => rfl
  | call inScope _ ih => exact ih.trans (World.holdings_perform inScope hne)

theorem run_agree {user : String} {v : World} (agree : World.Agree user v w)
    (hv : v.segments.Indexed) (hw : w.segments.Indexed) (sv : s.Stays (some user) v)
    (sw : s.Stays (some user) w) :
    (s.run v).1 = (s.run w).1 ∧ World.Agree user (s.run v).2 (s.run w).2 := by
  induction s generalizing v w with
  | done a => exact ⟨rfl, agree⟩
  | call c next ih =>
    cases sv with
    | call inScope after =>
      cases sw with
      | call inScope' after' =>
        obtain ⟨hanswer, hagree⟩ := World.perform_agree agree hv hw inScope
        have hv' := World.indexed_perform inScope hv
        have hw' := World.indexed_perform inScope' hw
        rw [run, run]
        rw [hanswer] at after ⊢
        exact ih _ hagree hv' hw' after after'

end Run

theorem Reads.bind_stays {s : Script α} {f : α → Script β} {w : World} (hs : s.Reads user)
    (hf : ∀ a (w' : World), w'.segments = w.segments → w'.ids = w.ids → (f a).Stays user w') :
    (s >>= f).Stays user w :=
  (hs.stays w).bind (hf _ _ (segments_run hs) ids_run)

end Script

end Segmentation.Service
