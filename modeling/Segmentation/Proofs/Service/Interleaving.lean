import Mathlib.Logic.Function.Basic
import Segmentation.Proofs.Service.Scope

namespace Segmentation

namespace Segment

/-- The same segment, perhaps with the results of later evaluations. -/
def Renewal (s t : Segment) : Prop :=
  t = s ∨ ∃ stats, t = s.applyStats stats

namespace Renewal

variable {s t u : Segment}

theorem refl (s : Segment) : s.Renewal s :=
  .inl rfl

theorem applyStats (h : s.Renewal t) (stats : Stats) : s.Renewal (t.applyStats stats) := by
  rcases h with rfl | ⟨_, rfl⟩
  · exact .inr ⟨stats, rfl⟩
  · exact .inr ⟨stats, rfl⟩

theorem trans (hst : s.Renewal t) (htu : t.Renewal u) : s.Renewal u := by
  rcases htu with rfl | ⟨stats, rfl⟩
  · exact hst
  · exact hst.applyStats stats

theorem id_eq (h : s.Renewal t) : t.id = s.id := by
  rcases h with rfl | ⟨stats, rfl⟩ <;> rfl

theorem owner_eq (h : s.Renewal t) : t.owner = s.owner := by
  rcases h with rfl | ⟨stats, rfl⟩ <;> rfl

theorem name_eq (h : s.Renewal t) : t.name = s.name := by
  rcases h with rfl | ⟨stats, rfl⟩ <;> rfl

end Renewal

end Segment

namespace Service

namespace World

/-- A world in which nothing is stored, and in which identifiers are numbered. -/
def blank : World :=
  { customers := .empty
    segments := .empty
    clock := default
    ids := fun n => ⟨n % 0x100000000000000000000000000000000, Nat.mod_lt n (by decide)⟩
    drawn := 0
    database := none
    measured := [] }

def visitor : Customer :=
  { id := default
    owner := "shop"
    name := "Ada"
    email := "ada@example.org"
    spend := 0
    visits := 1
    lastOrder := none
    createdAt := default }

/-- What happens to a world besides the work of the service. -/
inductive Drift where
  | clock (t : Instant)
  | customer (c : Customer)

def drift (w : World) : Drift → World
  | .clock t => { w with clock := t }
  | .customer c => { w with customers := w.customers.insert c }

/-- What no work and no drift undoes: the segments of a world are still there in the later one. -/
structure Later (w w' : World) : Prop where
  ids : w'.ids = w.ids
  drawn : w.drawn ≤ w'.drawn
  names : ∀ key, w.segments.names.contains key → w'.segments.names.contains key
  stored : ∀ id s, w.segments.byId.get? id = some s →
    ∃ t, w'.segments.byId.get? id = some t ∧ s.Renewal t

theorem Later.refl (w : World) : w.Later w :=
  ⟨rfl, Nat.le_refl _, fun _ h => h, fun _ s h => ⟨s, h, .refl s⟩⟩

theorem Later.trans {u v w : World} (huv : u.Later v) (hvw : v.Later w) : u.Later w where
  ids := hvw.ids.trans huv.ids
  drawn := Nat.le_trans huv.drawn hvw.drawn
  names key h := hvw.names key (huv.names key h)
  stored id s h := by
    obtain ⟨t, ht, hst⟩ := huv.stored id s h
    obtain ⟨r, hr, htr⟩ := hvw.stored id t ht
    exact ⟨r, hr, hst.trans htr⟩

theorem later_of_segments_eq {w w' : World} (hids : w'.ids = w.ids) (hdrawn : w.drawn ≤ w'.drawn)
    (hsegments : w'.segments = w.segments) : w.Later w' where
  ids := hids
  drawn := hdrawn
  names key h := by
    rw [hsegments]
    exact h
  stored id s h := by
    rw [hsegments]
    exact ⟨s, h, .refl s⟩

theorem later_drift (w : World) (d : Drift) : w.Later (w.drift d) := by
  cases d with
  | clock t => exact later_of_segments_eq rfl (Nat.le_refl _) rfl
  | customer c => exact later_of_segments_eq rfl (Nat.le_refl _) rfl

end World

def Call.Keeps : Call → Prop
  | insert _ => False
  | _ => True

namespace World

theorem drawn_perform (w : World) (c : Call) : w.drawn ≤ (w.perform c).2.drawn := by
  have hchange (r : Except Failure Store.Segments) : (w.change r).2.drawn = w.drawn := by
    cases r <;> rfl
  cases c with
  | freshId | toss => exact Nat.le_succ _
  | insert segment => exact Nat.le_of_eq (hchange _).symm
  | updateStats id stats => exact Nat.le_of_eq (hchange _).symm
  | _ => exact Nat.le_refl _

theorem later_perform {w : World} {c : Call}
    (unused : ∀ segment, c = .insert segment → w.segments.byId.get? segment.id = none) :
    w.Later (w.perform c).2 := by
  rcases segments_cases w c with hsame | ⟨segment, rfl, hinsert⟩ | ⟨id, stats, rfl, hupdate⟩
  · exact later_of_segments_eq perform_ids (drawn_perform w c) hsame
  · obtain ⟨-, -, hnames⟩ := Store.Segments.insert_cases hinsert
    refine ⟨perform_ids, drawn_perform w _, fun key h => ?_, fun id s h => ⟨s, ?_, .refl s⟩⟩
    · rw [hnames, Table.contains, Table.get?_insert]
      by_cases hkey : key = (segment.owner, segment.name)
      · rw [if_pos hkey]
        rfl
      · rw [if_neg hkey]
        exact h
    · rw [Store.Segments.byId_insert hinsert, if_neg]
      · exact h
      · rintro rfl
        rw [unused segment rfl] at h
        cases h
  · obtain ⟨-, -, -, hnames⟩ := Store.Segments.updateStats_cases hupdate
    obtain ⟨held, hheld, hafter⟩ := Store.Segments.byId_updateStats hupdate
    refine ⟨perform_ids, drawn_perform w _, fun key h => ?_, fun k s h => ?_⟩
    · rw [hnames]
      exact h
    · rw [hafter]
      by_cases hk : k = id
      · rw [hk, hheld] at h
        cases h
        rw [if_pos hk]
        exact ⟨_, rfl, (Segment.Renewal.refl _).applyStats stats⟩
      · rw [if_neg hk]
        exact ⟨s, h, .refl s⟩

theorem perform_insert {w : World} {segment : Segment} {segments : Store.Segments}
    (h : w.segments.insert segment = .ok segments) :
    w.perform (.insert segment) = (.ok (), { w with segments }) := by
  rw [perform, h]
  rfl

theorem stored_perform {w : World} {c : Call} {id : Uuid} {t : Segment}
    (h : (w.perform c).2.segments.byId.get? id = some t) :
    (∃ s, w.segments.byId.get? id = some s ∧ s.Renewal t) ∨
      c = .insert t ∧ ∃ segments, w.segments.insert t = .ok segments := by
  rcases segments_cases w c with hsame | ⟨segment, rfl, hinsert⟩ | ⟨k, stats, -, hupdate⟩
  · rw [hsame] at h
    exact .inl ⟨t, h, .refl t⟩
  · rw [Store.Segments.byId_insert hinsert] at h
    by_cases hid : id = segment.id
    · rw [if_pos hid] at h
      cases h
      exact .inr ⟨rfl, _, hinsert⟩
    · rw [if_neg hid] at h
      exact .inl ⟨t, h, .refl t⟩
  · obtain ⟨held, hheld, hafter⟩ := Store.Segments.byId_updateStats hupdate
    rw [hafter] at h
    by_cases hid : id = k
    · rw [if_pos hid] at h
      cases h
      rw [hid]
      exact .inl ⟨held, hheld, (Segment.Renewal.refl held).applyStats stats⟩
    · rw [if_neg hid] at h
      exact .inl ⟨t, h, .refl t⟩

end World

namespace Script

variable {α β : Type} {P : Call → Prop}

/-- A script whose calls are all of one kind, whatever they are answered. -/
inductive Only (P : Call → Prop) : Script α → Prop
  | done (a : α) : Only P (done a)
  | call {c : Call} {next : c.Answer → Script α} (first : P c)
      (after : ∀ answer, Only P (next answer)) : Only P (call c next)

theorem Only.bind {s : Script α} {f : α → Script β} (hs : s.Only P) (hf : ∀ a, (f a).Only P) :
    (s >>= f).Only P := by
  change (s.bind f).Only P
  induction hs with
  | done a => exact hf a
  | call first _ ih => exact .call first ih

end Script

structure Pool (ι α : Type) where
  world : World
  /-- What is left to do of each. -/
  rest : ι → Script α

inductive Move (ι : Type) where
  | advance (i : ι)
  | drift (d : World.Drift)

namespace Pool

variable {ι α : Type}

def result? (p : Pool ι α) (i : ι) : Option α :=
  match p.rest i with
  | .done a => some a
  | .call _ _ => none

theorem result?_eq_some_iff {p : Pool ι α} {i : ι} {a : α} :
    p.result? i = some a ↔ p.rest i = .done a := by
  rw [result?]
  cases p.rest i with
  | done b => simp only [Option.some.injEq, Script.done.injEq]
  | call c next => simp only [reduceCtorEq]

variable [DecidableEq ι]

def step (p : Pool ι α) : Move ι → Pool ι α
  | .advance i =>
    match p.rest i with
    | .done _ => p
    | .call c next =>
      let (answer, world) := p.world.perform c
      ⟨world, Function.update p.rest i (next answer)⟩
  | .drift d => { p with world := p.world.drift d }

def play (p : Pool ι α) (moves : List (Move ι)) : Pool ι α :=
  moves.foldl step p

variable {p : Pool ι α} {i : ι}

theorem play_append (p : Pool ι α) (earlier later : List (Move ι)) :
    p.play (earlier ++ later) = (p.play earlier).play later :=
  List.foldl_append

theorem play_concat (p : Pool ι α) (moves : List (Move ι)) (m : Move ι) :
    p.play (moves ++ [m]) = (p.play moves).step m :=
  List.foldl_append

theorem step_of_done {a : α} (h : p.rest i = .done a) : p.step (.advance i) = p := by
  rw [step, h]

theorem step_of_call {c : Call} {next : c.Answer → Script α} (h : p.rest i = .call c next) :
    p.step (.advance i) =
      ⟨(p.world.perform c).2, Function.update p.rest i (next (p.world.perform c).1)⟩ := by
  rw [step, h]

theorem ids_step (p : Pool ι α) (m : Move ι) : (p.step m).world.ids = p.world.ids := by
  cases m with
  | drift d => cases d <;> rfl
  | advance i =>
    cases hi : p.rest i with
    | done a => rw [step_of_done hi]
    | call c next =>
      rw [step_of_call hi]
      exact World.perform_ids

theorem drawn_step (p : Pool ι α) (m : Move ι) : p.world.drawn ≤ (p.step m).world.drawn := by
  cases m with
  | drift d => cases d <;> exact Nat.le_refl _
  | advance i =>
    cases hi : p.rest i with
    | done a => simp only [step_of_done hi, Nat.le_refl]
    | call c next =>
      rw [step_of_call hi]
      exact World.drawn_perform p.world c

theorem ids_play (p : Pool ι α) (moves : List (Move ι)) :
    (p.play moves).world.ids = p.world.ids := by
  induction moves generalizing p with
  | nil => rfl
  | cons m rest ih => exact (ih (p.step m)).trans (ids_step p m)

theorem rest_step {a : α} (h : p.rest i = .done a) (m : Move ι) : (p.step m).rest i = .done a := by
  cases m with
  | drift d => exact h
  | advance j =>
    cases hj : p.rest j with
    | done b =>
      rw [step_of_done hj]
      exact h
    | call c next =>
      have hne : i ≠ j := by
        rintro rfl
        rw [hj] at h
        cases h
      rw [step_of_call hj]
      exact (Function.update_of_ne hne _ _).trans h

theorem rest_play {a : α} (h : p.rest i = .done a) (moves : List (Move ι)) :
    (p.play moves).rest i = .done a := by
  induction moves generalizing p with
  | nil => exact h
  | cons m rest ih => exact ih (rest_step h m)

end Pool

end Service

end Segmentation
