import Segmentation.Proofs.Service.Saving

namespace Segmentation

theorem Store.Segments.Indexed.eq_of_name {s : Segments} (hs : s.Indexed) {a b : Segment}
    (ha : a ∈ s.byId.values) (hb : b ∈ s.byId.values) (howner : a.owner = b.owner)
    (hname : a.name = b.name) : a = b := by
  have listed {c : Segment} (hc : c ∈ s.byId.values) : s.findByName c.owner c.name = some c := by
    obtain ⟨id, hid⟩ := Table.mem_values_iff.1 hc
    rw [hs.findByName_eq_some_iff, get?_eq_some_iff, s.id_of_get? hid]
    exact ⟨⟨hid, rfl⟩, rfl⟩
  have h := listed ha
  rw [howner, hname, listed hb] at h
  exact (Option.some.inj h).symm

theorem Store.Segments.get?_eq_some_iff_mem_list {s : Segments} {owner : String} {id : Uuid}
    {segment : Segment} :
    s.get? owner id = some segment ↔ segment ∈ s.list owner ∧ segment.id = id := by
  rw [mem_list]
  constructor
  · intro h
    rw [s.id_of_get? (get?_eq_some_iff.1 h).1]
    exact ⟨h, rfl⟩
  · rintro ⟨h, rfl⟩
    exact h

namespace Service

namespace World

/-- No identifier was drawn twice. -/
def Distinct (w : World) : Prop :=
  ∀ m < w.drawn, ∀ n < w.drawn, w.ids m = w.ids n → m = n

theorem Distinct.earlier {w w' : World} (h : w'.Distinct) (ids : w'.ids = w.ids)
    (drawn : w.drawn ≤ w'.drawn) : w.Distinct := by
  intro m hm n hn heq
  rw [← ids] at heq
  exact h m (Nat.lt_of_lt_of_le hm drawn) n (Nat.lt_of_lt_of_le hn drawn) heq

end World

namespace Pool

variable {ι : Type} {jobs : ι → Job} {held : ι → Option Nat}
  {p : Pool ι (Except Failure Outcome)} {i : ι}

def start (jobs : ι → Job) (w : World) : Pool ι (Except Failure Outcome) :=
  ⟨{ w with segments := .empty, drawn := 0 }, fun i => (jobs i).script⟩

/-- A segment that a save has returned, perhaps with the results of later evaluations. -/
def Saved (jobs : ι → Job) (p : Pool ι (Except Failure Outcome)) (t : Segment) : Prop :=
  ∃ i owner draft s, jobs i = .save owner draft ∧ p.result? i = some (.ok (.segment s)) ∧
    s.Renewal t

/-- What every move keeps, where `held` tells which identifiers the saves have drawn. -/
structure Sound (jobs : ι → Job) (held : ι → Option Nat) (p : Pool ι (Except Failure Outcome)) :
    Prop where
  indexed : p.world.segments.Indexed
  running : ∀ i, (jobs i).Running (held i) (p.rest i) p.world
  drawn : ∀ {i n}, held i = some n → n < p.world.drawn
  apart : ∀ {i j n}, held i = some n → held j = some n → i = j
  saved : ∀ {id t}, p.world.segments.byId.get? id = some t → Saved jobs p t

theorem Saved.renew {s t : Segment} (h : Saved jobs p s) (renewal : s.Renewal t) :
    Saved jobs p t := by
  obtain ⟨i, owner, draft, r, hjob, hi, hr⟩ := h
  exact ⟨i, owner, draft, r, hjob, hi, hr.trans renewal⟩

theorem Saved.step [DecidableEq ι] {t : Segment} (h : Saved jobs p t) (m : Move ι) :
    Saved jobs (p.step m) t := by
  obtain ⟨i, owner, draft, s, hjob, hi, renewal⟩ := h
  refine ⟨i, owner, draft, s, hjob, ?_, renewal⟩
  exact result?_eq_some_iff.2 (rest_step (result?_eq_some_iff.1 hi) m)

theorem distinct_of_play [DecidableEq ι] (moves : List (Move ι))
    (h : (p.play moves).world.Distinct) : p.world.Distinct := by
  induction moves generalizing p with
  | nil => exact h
  | cons m rest ih =>
    exact (ih (p := p.step m) h).earlier (ids_step p m) (drawn_step p m)

namespace Sound

theorem start (jobs : ι → Job) (w : World) : (start jobs w).Sound jobs fun _ => none where
  indexed := Store.Segments.indexed_empty
  running i := Job.running_script (jobs i) _
  drawn h := by cases h
  apart h := by cases h
  saved h := by cases h

theorem saving (h : p.Sound jobs held) {owner : String} {draft : Draft}
    (hjob : jobs i = .save owner draft) :
    Saving owner draft (held i) (p.rest i) p.world := by
  have hrunning := h.running i
  rw [hjob] at hrunning
  exact hrunning

theorem of_stored (h : p.Sound jobs held) {id : Uuid} {t : Segment}
    (ht : p.world.segments.byId.get? id = some t) :
    ∃ i s n, (jobs i).Wants t.owner t.name ∧ p.result? i = some (.ok (.segment s)) ∧
      s.Renewal t ∧ held i = some n ∧ id = p.world.ids n := by
  obtain ⟨i, owner, draft, s, hjob, hi, renewal⟩ := h.saved ht
  have hkept := h.saving hjob
  rw [result?_eq_some_iff.1 hi] at hkept
  obtain ⟨valid, howner, hname, ⟨n, hn, hid⟩, -⟩ := hkept.of_kept
  have hteq := p.world.segments.id_of_get? ht
  rw [renewal.id_eq, hid] at hteq
  rw [← howner, ← renewal.owner_eq] at hjob
  rw [← renewal.name_eq] at hname
  exact ⟨i, s, n, ⟨draft, hjob, valid, hname.symm⟩, hi, renewal, hn, hteq.symm⟩

theorem unused (h : p.Sound jobs held) (distinct : p.world.Distinct) {s : Segment}
    {next : Except Failure Unit → Script (Except Failure Outcome)}
    (hi : p.rest i = .call (.insert s) next) : p.world.segments.byId.get? s.id = none := by
  have hrunning := h.running i
  rw [hi] at hrunning
  obtain ⟨-, -, -, ⟨n, hn, hid⟩, -⟩ := hrunning.of_insert
  by_contra hstored
  -- A segment stored under that identifier is of a save that has drawn it too, and is done.
  obtain ⟨t, ht⟩ := Option.ne_none_iff_exists'.1 hstored
  obtain ⟨j, _, n', -, hj, -, hn', hid'⟩ := h.of_stored ht
  have heq := distinct n (h.drawn hn) n' (h.drawn hn') (hid.symm.trans hid')
  subst heq
  have hij := h.apart hn hn'
  subst hij
  rw [result?_eq_some_iff.1 hj] at hi
  cases hi

section Results

variable {owner name : String}

theorem of_returned (h : p.Sound jobs held) {draft : Draft} {s : Segment}
    (hjob : jobs i = .save owner draft) (hi : p.result? i = some (.ok (.segment s))) :
    draft.Valid ∧ (∃ n, held i = some n ∧ s.id = p.world.ids n) ∧
      ∃ t, s.Renewal t ∧ t.name = Text.trim draft.name ∧
        p.world.segments.get? owner s.id = some t := by
  have hkept := h.saving hjob
  rw [result?_eq_some_iff.1 hi] at hkept
  obtain ⟨valid, howner, hname, hheld, t, ht, renewal⟩ := hkept.of_kept
  refine ⟨valid, hheld, t, renewal, renewal.name_eq.trans hname, ?_⟩
  exact Store.Segments.get?_eq_some_iff.2 ⟨ht, renewal.owner_eq.trans howner⟩

theorem name_of_returned (h : p.Sound jobs held) {s : Segment} (hjob : (jobs i).Wants owner name)
    (hi : p.result? i = some (.ok (.segment s))) :
    p.world.segments.names.get? (owner, name) = some s.id := by
  obtain ⟨draft, hjob, -, rfl⟩ := hjob
  obtain ⟨-, -, t, -, hname, ht⟩ := h.of_returned hjob hi
  exact (h.indexed owner _ _).2 ⟨t, ht, hname⟩

theorem of_result (h : p.Sound jobs held) {r : Except Failure Outcome}
    (hjob : (jobs i).Wants owner name) (hi : p.result? i = some r) :
    p.world.segments.names.contains (owner, name) ∧
      ((∃ s, r = .ok (.segment s)) ∨ r = .error (.nameTaken name)) := by
  obtain ⟨draft, hsave, valid, hname⟩ := hjob
  have hsaving := h.saving hsave
  rw [result?_eq_some_iff.1 hi] at hsaving
  rcases hsaving.of_done valid with ⟨s, rfl⟩ | ⟨rfl, hcontains⟩
  · refine ⟨?_, .inl ⟨s, rfl⟩⟩
    rw [Table.contains, h.name_of_returned ⟨draft, hsave, valid, hname⟩ hi]
    rfl
  · rw [hname] at hcontains ⊢
    exact ⟨hcontains, .inr rfl⟩

theorem exists_returned (h : p.Sound jobs held)
    (hcontains : p.world.segments.names.contains (owner, name)) :
    ∃ i s, (jobs i).Wants owner name ∧ p.result? i = some (.ok (.segment s)) := by
  obtain ⟨id, hid⟩ := Option.isSome_iff_exists.1 hcontains
  obtain ⟨t, ht, rfl⟩ := (h.indexed owner name id).1 hid
  obtain ⟨hstored, rfl⟩ := Store.Segments.get?_eq_some_iff.1 ht
  obtain ⟨i, s, -, hwants, hi, -⟩ := h.of_stored hstored
  exact ⟨i, s, hwants, hi⟩

theorem eq_of_returned (h : p.Sound jobs held) (distinct : p.world.Distinct) {j : ι}
    {s t : Segment} (hi : (jobs i).Wants owner name) (hj : (jobs j).Wants owner name)
    (his : p.result? i = some (.ok (.segment s))) (hjt : p.result? j = some (.ok (.segment t))) :
    i = j := by
  have hid := h.name_of_returned hi his
  rw [h.name_of_returned hj hjt] at hid
  obtain ⟨_, hi, -⟩ := hi
  obtain ⟨_, hj, -⟩ := hj
  obtain ⟨-, ⟨m, hm, hsid⟩, -⟩ := h.of_returned hi his
  obtain ⟨-, ⟨n, hn, htid⟩, -⟩ := h.of_returned hj hjt
  have hids : p.world.ids m = p.world.ids n := by
    rw [← hsid, ← htid, Option.some.inj hid]
  have heq := distinct m (h.drawn hm) n (h.drawn hn) hids
  subst heq
  exact h.apart hm hn

end Results

section Moves

variable [DecidableEq ι]

theorem drift (h : p.Sound jobs held) (d : World.Drift) :
    (p.step (.drift d)).Sound jobs held := by
  have hsegments : (p.step (.drift d)).world.segments = p.world.segments := by cases d <;> rfl
  have hlater := World.later_drift p.world d
  refine ⟨?_, fun i => (h.running i).later hlater,
    fun hn => Nat.lt_of_lt_of_le (h.drawn hn) hlater.drawn, h.apart, fun {id t} ht => ?_⟩
  · rw [hsegments]
    exact h.indexed
  · rw [hsegments] at ht
    exact h.saved ht

theorem apart_update (h : p.Sound jobs held) {number : Option Nat} {drawn : Nat}
    (hdrawn : p.world.drawn ≤ drawn)
    (hnumber : number = held i ∨ number = some p.world.drawn ∧ p.world.drawn < drawn) :
    (∀ {j n}, Function.update held i number j = some n → n < drawn) ∧
      ∀ {j k n}, Function.update held i number j = some n →
        Function.update held i number k = some n → j = k := by
  rcases hnumber with rfl | ⟨rfl, hlt⟩
  · rw [Function.update_eq_self]
    exact ⟨fun hn => Nat.lt_of_lt_of_le (h.drawn hn) hdrawn, h.apart⟩
  · -- The new number is greater than all that were drawn before.
    constructor
    · intro j n hn
      by_cases hj : j = i
      · rw [hj, Function.update_self] at hn
        cases hn
        exact hlt
      · rw [Function.update_of_ne hj] at hn
        exact Nat.lt_of_lt_of_le (h.drawn hn) hdrawn
    · intro j k n hj hk
      by_cases hji : j = i
      · by_cases hki : k = i
        · rw [hji, hki]
        · rw [hji, Function.update_self] at hj
          cases hj
          rw [Function.update_of_ne hki] at hk
          exact absurd (h.drawn hk) (Nat.lt_irrefl _)
      · rw [Function.update_of_ne hji] at hj
        by_cases hki : k = i
        · rw [hki, Function.update_self] at hk
          cases hk
          exact absurd (h.drawn hj) (Nat.lt_irrefl _)
        · rw [Function.update_of_ne hki] at hk
          exact h.apart hj hk

theorem advance (h : p.Sound jobs held) (distinct : p.world.Distinct) {c : Call}
    {next : c.Answer → Script (Except Failure Outcome)} (hi : p.rest i = .call c next) :
    ∃ held', (p.step (.advance i)).Sound jobs held' := by
  have hlater : p.world.Later (p.world.perform c).2 := by
    apply World.later_perform
    rintro s rfl
    exact h.unused distinct hi
  have hrunning := h.running i
  rw [hi] at hrunning
  obtain ⟨number, hnext, hnumber⟩ := hrunning.step
  obtain ⟨hdrawn, hapart⟩ := h.apart_update hlater.drawn hnumber
  refine ⟨Function.update held i number, ?_⟩
  -- What the call has stored anew is what the save returns, for storing is its last call.
  have hsaved {id : Uuid} {t : Segment}
      (ht : (p.world.perform c).2.segments.byId.get? id = some t) :
      Saved jobs (p.step (.advance i)) t := by
    rcases World.stored_perform ht with ⟨s, hs, renewal⟩ | ⟨rfl, segments, hinsert⟩
    · exact ((h.saved hs).step _).renew renewal
    · obtain ⟨owner, draft, hjob, -, hreturn⟩ := hrunning.of_insert
      refine ⟨i, owner, draft, t, hjob, ?_, .refl t⟩
      rw [step_of_call hi, World.perform_insert hinsert, result?_eq_some_iff]
      exact (Function.update_self _ _ _).trans hreturn
  rw [step_of_call hi] at hsaved ⊢
  refine ⟨?_, ?_, hdrawn, hapart, hsaved⟩
  · rcases World.segments_cases p.world c with hsame | ⟨s, rfl, hinsert⟩ | ⟨id, stats, -, hupdate⟩
    · rw [hsame]
      exact h.indexed
    · exact h.indexed.insert (h.unused distinct hi) hinsert
    · exact h.indexed.updateStats hupdate
  · intro j
    by_cases hj : j = i
    · subst hj
      simp only [Function.update_self]
      exact hnext
    · simp only [Function.update_of_ne hj]
      exact (h.running j).later hlater

theorem step (h : p.Sound jobs held) (distinct : p.world.Distinct) (m : Move ι) :
    ∃ held', (p.step m).Sound jobs held' := by
  cases m with
  | drift d => exact ⟨held, h.drift d⟩
  | advance i =>
    cases hi : p.rest i with
    | done a =>
      rw [step_of_done hi]
      exact ⟨held, h⟩
    | call c next => exact h.advance distinct hi

theorem play {moves : List (Move ι)} (h : p.Sound jobs held)
    (distinct : (p.play moves).world.Distinct) : ∃ held', (p.play moves).Sound jobs held' := by
  induction moves generalizing p held with
  | nil => exact ⟨held, h⟩
  | cons m rest ih =>
    obtain ⟨held', h'⟩ := h.step (distinct_of_play (m :: rest) distinct) m
    exact ih h' distinct

theorem segments_of_advance (h : p.Sound jobs held) {owner : String} {draft : Draft}
    (hjob : jobs i = .save owner draft) :
    (p.step (.advance i)).world.segments = p.world.segments ∨
      ∃ s, (p.step (.advance i)).result? i = some (.ok (.segment s)) := by
  cases hi : p.rest i with
  | done a =>
    rw [step_of_done hi]
    exact .inl rfl
  | call c next =>
    have hsaving := h.saving hjob
    rw [hi] at hsaving
    rw [step_of_call hi]
    rcases hsaving.segments_step with hsame | ⟨s, hs⟩
    · exact .inl hsame
    · refine .inr ⟨s, result?_eq_some_iff.2 ?_⟩
      exact (Function.update_self _ _ _).trans hs

end Moves

end Sound

section Runs

variable [DecidableEq ι] {w : World} {moves earlier : List (Move ι)}

theorem segments_of_failed (distinct : ((start jobs w).play moves).world.Distinct)
    {owner : String} {draft : Draft} {f : Failure} (hjob : jobs i = .save owner draft)
    (hfailed : ((start jobs w).play moves).result? i = some (.error f))
    (hearlier : earlier ++ [.advance i] <+: moves) :
    ((start jobs w).play (earlier ++ [.advance i])).world.segments =
      ((start jobs w).play earlier).world.segments := by
  obtain ⟨later, rfl⟩ := hearlier
  rw [play_append, play_concat] at distinct hfailed
  have hdistinct := distinct_of_play [.advance i] (distinct_of_play later distinct)
  obtain ⟨_, h⟩ := (Sound.start jobs w).play hdistinct
  rw [play_concat]
  rcases h.segments_of_advance hjob with hsame | ⟨s, hs⟩
  · exact hsame
  · have hdone := rest_play (result?_eq_some_iff.1 hs) later
    rw [result?_eq_some_iff.1 hfailed] at hdone
    cases hdone

theorem result?_of_earlier {a : Except Failure Outcome} {p : Pool ι (Except Failure Outcome)}
    (hearlier : earlier <+: moves) (h : (p.play earlier).result? i = some a) :
    (p.play moves).result? i = some a := by
  obtain ⟨later, rfl⟩ := hearlier
  rw [play_append]
  exact result?_eq_some_iff.2 (rest_play (result?_eq_some_iff.1 h) later)

end Runs

theorem Sound.exists_winner (h : p.Sound jobs held) (distinct : p.world.Distinct)
    {owner name : String} (hi : (jobs i).Wants owner name) (hdone : (p.result? i).isSome) :
    ∃ k s, (jobs k).Wants owner name ∧ p.result? k = some (.ok (.segment s)) ∧
      ∀ j, (jobs j).Wants owner name → (p.result? j).isSome → j ≠ k →
        p.result? j = some (.error (.nameTaken name)) := by
  obtain ⟨r, hr⟩ := Option.isSome_iff_exists.1 hdone
  obtain ⟨k, s, hk, hks⟩ := h.exists_returned (h.of_result hi hr).1
  refine ⟨k, s, hk, hks, fun j hj hjdone hne => ?_⟩
  obtain ⟨r', hr'⟩ := Option.isSome_iff_exists.1 hjdone
  rcases (h.of_result hj hr').2 with ⟨t, rfl⟩ | rfl
  · exact absurd (h.eq_of_returned distinct hj hk hr' hks) hne
  · exact hr'

/-- However saves and refreshes of all accounts are interleaved from an empty store, with
identifiers of which none is drawn twice: no two segments have one account and name; looking for a
name, for an identifier and listing tell the same; a save that has returned a segment has it stored
from then on, and one that has failed has stored nothing; and of the saves that want one name in an
account, and are done, one has got it and the others are told that it is taken. -/
theorem one_per_name [DecidableEq ι] (jobs : ι → Job) (w : World) (moves : List (Move ι))
    (distinct : ((start jobs w).play moves).world.Distinct) :
    let p := (start jobs w).play moves
    let segments := p.world.segments
    (∀ s ∈ segments.byId.values, ∀ t ∈ segments.byId.values,
      s.owner = t.owner → s.name = t.name → s = t) ∧
    (∀ owner name s, segments.findByName owner name = some s ↔
      s ∈ segments.list owner ∧ s.name = name) ∧
    (∀ owner id s, segments.get? owner id = some s ↔ s ∈ segments.list owner ∧ s.id = id) ∧
    (∀ i owner draft s earlier, jobs i = .save owner draft → earlier <+: moves →
      ((start jobs w).play earlier).result? i = some (.ok (.segment s)) →
      ∃ t, s.Renewal t ∧ t.name = Text.trim draft.name ∧ segments.get? owner s.id = some t) ∧
    (∀ i owner draft f earlier, jobs i = .save owner draft → p.result? i = some (.error f) →
      earlier ++ [.advance i] <+: moves →
      ((start jobs w).play (earlier ++ [.advance i])).world.segments =
        ((start jobs w).play earlier).world.segments) ∧
    (∀ t ∈ segments.byId.values, p.Saved jobs t) ∧
    ∀ i owner name, (jobs i).Wants owner name → (p.result? i).isSome →
      ∃ k s, (jobs k).Wants owner name ∧ p.result? k = some (.ok (.segment s)) ∧
        ∀ j, (jobs j).Wants owner name → (p.result? j).isSome → j ≠ k →
          p.result? j = some (.error (.nameTaken name)) := by
  intro p segments
  obtain ⟨held, h⟩ := (Sound.start jobs w).play distinct
  refine ⟨?_, ?_, ?_, ?_, ?_, ?_, ?_⟩
  · intro s hs t ht
    exact h.indexed.eq_of_name hs ht
  · intro owner name s
    rw [h.indexed.findByName_eq_some_iff, Store.Segments.mem_list]
  · intro owner id s
    exact Store.Segments.get?_eq_some_iff_mem_list
  · intro i owner draft s earlier hjob hearlier hi
    exact (h.of_returned hjob (result?_of_earlier hearlier hi)).2.2
  · intro i owner draft f earlier hjob hfailed hearlier
    exact segments_of_failed distinct hjob hfailed hearlier
  · intro t ht
    obtain ⟨id, hid⟩ := Table.mem_values_iff.1 ht
    exact h.saved hid
  · intro i owner name hi hdone
    exact h.exists_winner distinct hi hdone

/-- Two saves of one name, and a refresh of all. -/
def rivals : Fin 3 → Job
  | 0 => .save "owner" ⟨" VIP", none, .obj [("combinator", .str "and"), ("rules", .arr [])]⟩
  | 1 => .save "owner" ⟨"VIP ", none, .obj [("combinator", .str "AND"), ("rules", .arr [])]⟩
  | 2 => .refreshAll "owner"

def race : List (Move (Fin 3)) :=
  ([0, 1, 0, 0, 0, 0, 1, 1, 1, 1, 1, 2, 2, 2, 2, 2, 0] : List (Fin 3)).map .advance

theorem one_per_name_race :
    ((start rivals .blank).play race).world.Distinct ∧
      (((start rivals .blank).play race).result? 0).isSome ∧
      ∃ k s, (rivals k).Wants "owner" "VIP" ∧
        ((start rivals .blank).play race).result? k = some (.ok (.segment s)) ∧
        ∀ j, (rivals j).Wants "owner" "VIP" → (((start rivals .blank).play race).result? j).isSome →
          j ≠ k → ((start rivals .blank).play race).result? j =
            some (.error (.nameTaken "VIP")) := by
  have hdistinct : ((start rivals .blank).play race).world.Distinct := by
    have hdrawn : ((start rivals .blank).play race).world.drawn = 2 := by decide +kernel
    have hids : ((start rivals .blank).play race).world.ids = World.blank.ids :=
      ids_play _ race
    intro m hm n hn
    rw [hdrawn] at hm hn
    rw [hids]
    revert m n
    decide +kernel
  have hdone : (((start rivals .blank).play race).result? 0).isSome := by decide +kernel
  have hwants : (rivals 0).Wants "owner" "VIP" := by
    refine ⟨_, rfl, ⟨?_, ?_⟩, ?_⟩
    · decide +kernel
    · decide +kernel
    · decide +kernel
  obtain ⟨-, -, -, -, -, -, hrace⟩ := one_per_name rivals .blank race hdistinct
  exact ⟨hdistinct, hdone, hrace 0 "owner" "VIP" hwants hdone⟩

end Pool

end Service

end Segmentation
