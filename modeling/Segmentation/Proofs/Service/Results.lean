import Segmentation.Proofs.Service.Evaluation
import Segmentation.Proofs.Service.Saving
import Segmentation.Proofs.Service.Traces

namespace Segmentation

/-- The results of `s` are from before those of `t`. -/
def Segment.IsOlder (s t : Segment) : Prop :=
  compare s.lastRun t.lastRun = .lt ∨ compare s.updatedAt t.updatedAt = .lt

instance (s t : Segment) : Decidable (s.IsOlder t) :=
  inferInstanceAs (Decidable (_ ∨ _))

theorem Segment.not_isOlder_self (s : Segment) : ¬s.IsOlder s := by
  rintro (h | h)
  · exact Std.OrientedCmp.not_lt_of_lt h h
  · exact Std.OrientedCmp.not_lt_of_lt h h

namespace Service

open Script (Past Traced)

/-- A segment has been read, and was stored then. -/
def Script.Past.Held (past : Past) (segment : Segment) : Prop :=
  ∃ v c, (v, c) ∈ past ∧ v.segments.byId.get? segment.id = some segment

/-- The results of a segment by what has been done for them: the clock was read, and the customers
were counted. -/
inductive Evaluated : Past → Uuid → Segment.Stats → Prop
  | intro {w₀ w₁ w₂ : World} {m : Metrics.Measurement} {segment : Segment} {filter : Filter}
      {rest : Past} (held : rest.Held segment)
      (hfilter : filter = compileRules w₀.clock segment.rules) :
      Evaluated ((w₂, .count filter segment.owner) :: (w₁, .record m) :: (w₀, .now) :: rest)
        segment.id
        (.ofCount segment.rules w₀.clock (w₂.customers.count filter segment.owner))

/-- A refresh stores nothing but the results of a segment that it has evaluated. -/
def Call.Refreshes (past : Past) : Call → Prop
  | insert _ => False
  | updateStats id stats => Evaluated past id stats
  | _ => True

section Traced

variable {past : Past}

theorem Script.Past.Held.of_suffix {past' : Past} {segment : Segment} (h : past.Held segment)
    (hpast : past <:+ past') : past'.Held segment := by
  obtain ⟨v, c, hmem, hstored⟩ := h
  exact ⟨v, c, hpast.subset hmem, hstored⟩

theorem traced_refreshSegment {segment : Segment} (held : past.Held segment) :
    Traced Call.Refreshes (fun past' _ => past <:+ past') past (refreshSegment segment).run := by
  by_cases h : Rule.problems segment.rules = []
  · rw [refreshSegment_of_valid h]
    refine .call trivial fun w₀ => .call trivial fun w₁ => .call trivial fun w₂ =>
      .call (.intro held rfl) fun w₃ => ?_
    cases (w₃.perform (.updateStats segment.id _)).1 with
    | error f => exact .done ⟨[_, _, _, _], rfl⟩
    | ok _ => exact .done ⟨[_, _, _, _], rfl⟩
  · obtain ⟨m, f, hrun⟩ := refreshSegment_of_not_valid h
    rw [hrun]
    exact .call trivial fun w => .done ⟨[_], rfl⟩

theorem traced_refreshEach {segments : List Segment}
    (held : ∀ segment ∈ segments, past.Held segment) :
    Traced Call.Refreshes (fun _ _ => True) past (refreshEach segments) := by
  induction segments generalizing past with
  | nil => exact .done trivial
  | cons segment rest ih =>
    refine (traced_refreshSegment (held segment List.mem_cons_self)).bind fun past' result h => ?_
    refine (ih fun s hs => (held s (List.mem_cons_of_mem _ hs)).of_suffix h).bind ?_
    intro _ tally _
    cases result <;> exact .done trivial

theorem traced_refresh (owner : String) (id : Uuid) :
    Traced Call.Refreshes (fun _ _ => True) [] (Job.refresh owner id).script := by
  rw [Job.script, Action.run_map]
  refine Traced.bind (Q := fun _ _ => True) ?_ fun _ _ _ => .done trivial
  rw [refresh, get_bind]
  refine .call trivial fun w => ?_
  rw [World.perform]
  cases hget : w.segments.get? owner id with
  | none => exact .done trivial
  | some segment =>
    obtain ⟨hstored, -⟩ := Store.Segments.get?_eq_some_iff.1 hget
    refine (traced_refreshSegment ⟨w, _, List.mem_cons_self, ?_⟩).imp fun _ _ _ => trivial
    rw [w.segments.id_of_get? hstored]
    exact hstored

theorem traced_refreshAll (owner : String) :
    Traced Call.Refreshes (fun _ _ => True) [] (Job.refreshAll owner).script := by
  rw [Job.script, Action.run_map]
  refine Traced.bind (Q := fun _ _ => True) ?_ fun _ _ _ => .done trivial
  refine .call trivial fun w => (traced_refreshEach fun segment hsegment => ?_).bind
    fun _ _ _ => .done trivial
  obtain ⟨hlisted, -⟩ := List.mem_filter.1 hsegment
  obtain ⟨hstored, -⟩ := Store.Segments.get?_eq_some_iff.1 (Store.Segments.mem_list.1 hlisted)
  exact ⟨w, _, List.mem_cons_self, hstored⟩

end Traced

namespace Job

def Refreshes : Job → Prop
  | save _ _ => False
  | refresh _ _ | refreshAll _ => True

theorem Refreshes.traced {job : Job} (h : job.Refreshes) :
    Traced Call.Refreshes (fun _ _ => True) [] job.script := by
  cases job with
  | save owner draft => exact h.elim
  | refresh owner id => exact traced_refresh owner id
  | refreshAll owner => exact traced_refreshAll owner

end Job

/-- Moves of an evaluation: the one that reads the clock, the one that counts the customers, and the
one that writes the results. -/
structure Evaluation where
  read : Nat
  counted : Nat
  written : Nat

/-- No segment has results from after the present. -/
structure World.Settled (w : World) : Prop where
  lastRun : ∀ s ∈ w.segments.byId.values, (compare s.lastRun (some w.clock)).isLE
  updatedAt : ∀ s ∈ w.segments.byId.values, (compare s.updatedAt w.clock).isLE

def Move.isForward {ι : Type} (w : World) : Move ι → Bool
  | .drift (.clock t) => (compare w.clock t).isLE
  | _ => true

namespace Pool

variable {ι α : Type} [DecidableEq ι]

/-- The clock never goes backwards. -/
def Forward (p : Pool ι α) (moves : List (Move ι)) : Prop :=
  ∀ n (h : n < moves.length), moves[n].isForward (p.before moves n).world

def found (p : Pool ι α) (moves : List (Move ι)) (s : Segment) (e : Evaluation) : Segment.Stats :=
  let now := (p.before moves e.read).world.clock
  .ofCount s.rules now
    ((p.before moves e.counted).world.customers.count (compileRules now s.rules) s.owner)

/-- A script evaluates a segment, and writes nothing else meanwhile. -/
structure Evaluates (p : Pool ι α) (moves : List (Move ι)) (i : ι) (s : Segment) (e : Evaluation) :
    Prop where
  read_lt : e.read < e.counted
  counted_lt : e.counted < e.written
  reads : p.call? moves i e.read = some .now
  counts : p.call? moves i e.counted =
    some (.count (compileRules (p.before moves e.read).world.clock s.rules) s.owner)
  writes : p.call? moves i e.written = some (.updateStats s.id (p.found moves s e))
  only : ∀ n, e.read < n → n < e.written → ∀ id stats,
    p.call? moves i n ≠ some (.updateStats id stats)

def Writes (p : Pool ι α) (moves : List (Move ι)) (id : Uuid) (n : Nat) : Prop :=
  ∃ i stats, p.call? moves i n = some (.updateStats id stats)

theorem byId_before_succ_of_write {p : Pool ι α} {moves : List (Move ι)} {i : ι} {n : Nat}
    {id : Uuid} {stats : Segment.Stats} {t : Segment}
    (hcall : p.call? moves i n = some (.updateStats id stats))
    (ht : (p.before moves (n + 1)).world.segments.byId.get? id = some t) :
    ∃ held, (p.before moves n).world.segments.byId.get? id = some held ∧
      t = held.applyStats stats := by
  rw [world_before_succ_of_call hcall, World.perform] at ht
  cases hupdate : (p.before moves n).world.segments.updateStats id stats with
  | ok segments =>
    obtain ⟨held, hheld, hafter⟩ := Store.Segments.byId_updateStats hupdate
    rw [hupdate, World.change, hafter, if_pos rfl] at ht
    exact ⟨held, hheld, (Option.some.inj ht).symm⟩
  | error f =>
    rw [hupdate] at ht
    change (p.before moves n).world.segments.byId.get? id = some t at ht
    rw [Store.Segments.updateStats, ht] at hupdate
    cases hupdate

section Refreshes

variable {p : Pool ι α} {moves : List (Move ι)}
  (refreshes : ∀ i, Traced Call.Refreshes (fun _ _ => True) [] (p.rest i))

include refreshes

theorem not_insert {i : ι} {n : Nat} (segment : Segment) :
    p.call? moves i n ≠ some (.insert segment) := by
  intro h
  exact of_call? (refreshes i) h

theorem renewal_before (n : Nat) {id : Uuid} {t : Segment}
    (h : (p.before moves n).world.segments.byId.get? id = some t) :
    ∃ s, p.world.segments.byId.get? id = some s ∧ s.Renewal t := by
  induction n generalizing t with
  | zero => exact ⟨t, h, .refl t⟩
  | succ n ih =>
    rcases world_before_succ p moves n with hsame | ⟨d, -, hdrift⟩ | ⟨i, c, hcall, hperform⟩
    · rw [hsame] at h
      exact ih h
    · rw [hdrift] at h
      apply ih
      cases d <;> exact h
    · rw [hperform] at h
      rcases World.stored_perform h with ⟨s, hs, renewal⟩ | ⟨rfl, -⟩
      · obtain ⟨s₀, hs₀, renewal₀⟩ := ih hs
        exact ⟨s₀, hs₀, renewal₀.trans renewal⟩
      · exact absurd hcall (not_insert refreshes t)

theorem evaluates_of_write {i : ι} {n : Nat} {id : Uuid} {stats : Segment.Stats}
    (h : p.call? moves i n = some (.updateStats id stats)) :
    ∃ s e, p.world.segments.byId.get? id = some s ∧ p.Evaluates moves i s e ∧ e.written = n ∧
      stats = p.found moves s e := by
  have hevaluated : Evaluated (p.past moves i n) id stats := of_call? (refreshes i) h
  generalize hpast : p.past moves i n = past at hevaluated
  cases hevaluated with
  | @intro w₀ w₁ w₂ m segment filter rest held hfilter =>
    obtain ⟨counted, hcounted, rfl, hcount, hpast, silent₂⟩ := past_eq_cons hpast
    obtain ⟨recorded, hrecorded, rfl, hrecord, hpast, silent₁⟩ := past_eq_cons hpast
    obtain ⟨read, hread, rfl, hnow, hpast, silent₀⟩ := past_eq_cons hpast
    have only : ∀ k, read < k → k < n → ∀ id stats,
        p.call? moves i k ≠ some (.updateStats id stats) := by
      intro k hk hk' id stats hwrite
      rcases Nat.lt_trichotomy k recorded with hlt | rfl | hgt
      · cases (silent₀ k hk hlt).symm.trans hwrite
      · cases hrecord.symm.trans hwrite
      · rcases Nat.lt_trichotomy k counted with hlt' | rfl | hgt'
        · cases (silent₁ k hgt hlt').symm.trans hwrite
        · cases hcount.symm.trans hwrite
        · cases (silent₂ k hgt' hk').symm.trans hwrite
    obtain ⟨v, c, hmem, hstored⟩ := held
    rw [← hpast] at hmem
    obtain ⟨t, -, rfl, -⟩ := mem_past hmem
    obtain ⟨s, hs, rfl | ⟨stats, rfl⟩⟩ := renewal_before refreshes t hstored
    all_goals
      rw [hfilter] at hcount h ⊢
      exact ⟨_, ⟨read, counted, n⟩, hs, ⟨Nat.lt_trans hread hrecorded, hcounted, hnow, hcount, h,
        only⟩, rfl, rfl⟩

theorem byId_before_succ {n : Nat} {id : Uuid} (h : ¬p.Writes moves id n) :
    (p.before moves (n + 1)).world.segments.byId.get? id =
      (p.before moves n).world.segments.byId.get? id := by
  rcases world_before_succ p moves n with hsame | ⟨d, -, hdrift⟩ | ⟨i, c, hcall, hperform⟩
  · rw [hsame]
  · rw [hdrift]
    cases d <;> rfl
  · rw [hperform]
    rcases World.segments_cases (p.before moves n).world c with
      hsame | ⟨segment, rfl, -⟩ | ⟨k, stats, rfl, hupdate⟩
    · rw [hsame]
    · exact absurd hcall (not_insert refreshes segment)
    · obtain ⟨held, -, hafter⟩ := Store.Segments.byId_updateStats hupdate
      rw [hafter, if_neg]
      rintro rfl
      exact h ⟨i, stats, hcall⟩

end Refreshes

/-- What a segment holds after the first `n` moves: what it held at the start, or what the
evaluation that was written last has found. -/
inductive Holds (p : Pool ι α) (moves : List (Move ι)) (n : Nat) (s : Segment) : Segment → Prop
  | unwritten (none : ∀ m < n, ¬p.Writes moves s.id m) : Holds p moves n s s
  | written {i : ι} {e : Evaluation} (evaluates : p.Evaluates moves i s e) (lt : e.written < n)
      (last : ∀ m, e.written < m → m < n → ¬p.Writes moves s.id m) :
      Holds p moves n s (s.applyStats (p.found moves s e))

theorem Holds.succ {p : Pool ι α} {moves : List (Move ι)} {n : Nat} {s t : Segment}
    (h : p.Holds moves n s t) (hn : ¬p.Writes moves s.id n) : p.Holds moves (n + 1) s t := by
  cases h with
  | unwritten none =>
    refine .unwritten fun m hm => ?_
    rcases Nat.lt_succ_iff_lt_or_eq.1 hm with hlt | rfl
    · exact none m hlt
    · exact hn
  | written evaluates lt last =>
    refine .written evaluates (Nat.lt_succ_of_lt lt) fun m hm hm' => ?_
    rcases Nat.lt_succ_iff_lt_or_eq.1 hm' with hlt | rfl
    · exact last m hm hlt
    · exact hn

section Refreshes

variable {p : Pool ι α} {moves : List (Move ι)}
  (refreshes : ∀ i, Traced Call.Refreshes (fun _ _ => True) [] (p.rest i))

include refreshes

theorem holds_before (n : Nat) {id : Uuid} {t : Segment}
    (h : (p.before moves n).world.segments.byId.get? id = some t) :
    ∃ s, p.world.segments.byId.get? id = some s ∧ p.Holds moves n s t := by
  -- By induction on the moves: what is written for a segment takes the place of what it held.
  induction n generalizing t with
  | zero => exact ⟨t, h, .unwritten fun m hm => absurd hm (Nat.not_lt_zero m)⟩
  | succ n ih =>
    by_cases hn : p.Writes moves id n
    · obtain ⟨i, stats, hcall⟩ := hn
      obtain ⟨held, hheld, rfl⟩ := byId_before_succ_of_write hcall h
      obtain ⟨s, hs, hholds⟩ := ih hheld
      obtain ⟨s', e, hs', evaluates, rfl, rfl⟩ := evaluates_of_write refreshes hcall
      cases hs.symm.trans hs'
      have hwritten : p.Holds moves (e.written + 1) s (s.applyStats (p.found moves s e)) := by
        refine .written evaluates (Nat.lt_succ_self _) fun m hm hm' => ?_
        omega
      refine ⟨s, hs, ?_⟩
      cases hholds with
      | unwritten none => exact hwritten
      | written evaluates' lt last => exact hwritten
    · rw [byId_before_succ refreshes hn] at h
      obtain ⟨s, hs, hholds⟩ := ih h
      rw [← p.world.segments.id_of_get? hs] at hn
      exact ⟨s, hs, hholds.succ hn⟩

end Refreshes

section Clock

variable {p : Pool ι α} {moves : List (Move ι)}

theorem clock_before (forward : p.Forward moves) {m n : Nat} (h : m ≤ n) :
    (compare (p.before moves m).world.clock (p.before moves n).world.clock).isLE := by
  induction h with
  | refl => exact Std.ReflCmp.isLE_rfl
  | @step n h ih =>
    refine Std.TransCmp.isLE_trans ih ?_
    rcases world_before_succ p moves n with hsame | ⟨d, hmove, hdrift⟩ | ⟨i, c, -, hperform⟩
    · rw [hsame]
      exact Std.ReflCmp.isLE_rfl
    · rw [hdrift]
      cases d with
      | clock t =>
        obtain ⟨hlt, hget⟩ := List.getElem?_eq_some_iff.1 hmove
        have hforward := forward n hlt
        rw [hget] at hforward
        exact hforward
      | customer c => exact Std.ReflCmp.isLE_rfl
    · rw [hperform, (World.sameScene_perform _ c).clock]
      exact Std.ReflCmp.isLE_rfl

theorem lt_of_clock_lt (forward : p.Forward moves) {m n : Nat}
    (h : compare (p.before moves m).world.clock (p.before moves n).world.clock = .lt) : m < n := by
  by_contra hle
  exact Std.OrientedCmp.not_isLE_of_lt h (clock_before forward (Nat.le_of_not_lt hle))

end Clock

section Overtaking

variable {p : Pool ι α} {moves : List (Move ι)}

theorem isOlder_of_found {s : Segment} {e f : Evaluation}
    (h : (s.applyStats (p.found moves s e)).IsOlder (s.applyStats (p.found moves s f))) :
    compare (p.before moves e.read).world.clock (p.before moves f.read).world.clock = .lt := by
  rcases h with h | h
  · exact h
  · exact h

theorem not_isOlder_of_settled (forward : p.Forward moves) (settled : p.world.Settled) {id : Uuid}
    {s : Segment} (hs : p.world.segments.byId.get? id = some s) (e : Evaluation) :
    ¬(s.applyStats (p.found moves s e)).IsOlder s := by
  have hclock := clock_before forward (Nat.zero_le e.read)
  have hmem := Table.mem_values_iff.2 ⟨id, hs⟩
  rintro (h | h)
  · refine Std.OrientedCmp.not_isLE_of_lt h
      (Std.TransCmp.isLE_trans (settled.lastRun s hmem) ?_)
    exact hclock
  · refine Std.OrientedCmp.not_isLE_of_lt h
      (Std.TransCmp.isLE_trans (settled.updatedAt s hmem) ?_)
    exact hclock

/-- The evaluation `f` of a segment by `j` overtakes the evaluation `e` by `i`: it reads the clock
later and is written first. -/
structure Overtakes (p : Pool ι α) (moves : List (Move ι)) (s : Segment) (j : ι) (f : Evaluation)
    (i : ι) (e : Evaluation) : Prop where
  ne : i ≠ j
  outer : p.Evaluates moves i s e
  inner : p.Evaluates moves j s f
  read_lt : e.read < f.read
  written_lt : f.written < e.written

theorem Evaluates.found_eq {i j : ι} {s : Segment} {e f : Evaluation}
    (he : p.Evaluates moves i s e) (hf : p.Evaluates moves j s f) (h : e.written = f.written) :
    p.found moves s e = p.found moves s f := by
  have hwrites := hf.writes
  rw [← h] at hwrites
  obtain ⟨-, hcall⟩ := call?_unique he.writes hwrites
  exact (Call.updateStats.inj hcall).2

theorem overtaken (refreshes : ∀ i, Traced Call.Refreshes (fun _ _ => True) [] (p.rest i))
    (forward : p.Forward moves) (settled : p.world.Settled) {m n : Nat} (h : m ≤ n) {id : Uuid}
    {a b : Segment} (ha : (p.before moves m).world.segments.byId.get? id = some a)
    (hb : (p.before moves n).world.segments.byId.get? id = some b) (older : b.IsOlder a) :
    ∃ s i j e f, p.world.segments.byId.get? id = some s ∧ p.Overtakes moves s j f i e ∧
      f.written < m ∧ m ≤ e.written ∧ e.written < n ∧ a = s.applyStats (p.found moves s f) ∧
      b = s.applyStats (p.found moves s e) := by
  obtain ⟨s, hs, hbefore⟩ := holds_before refreshes m ha
  obtain ⟨s', hs', hafter⟩ := holds_before refreshes n hb
  cases hs.symm.trans hs'
  cases hafter with
  | unwritten none =>
    cases hbefore with
    | unwritten => exact absurd older (Segment.not_isOlder_self _)
    | written evaluates lt =>
      exact absurd ⟨_, _, evaluates.writes⟩ (none _ (Nat.lt_of_lt_of_le lt h))
  | @written i e evaluates lt last =>
    cases hbefore with
    | unwritten none => exact absurd older (not_isOlder_of_settled forward settled hs e)
    | @written j f evaluates' lt' last' =>
      have hread := lt_of_clock_lt forward (isOlder_of_found older)
      have hm : m ≤ e.written := by
        by_contra hlt
        -- Otherwise both are written before `m`, and neither after the other.
        rcases Nat.lt_trichotomy e.written f.written with hef | heq | hfe
        · exact last f.written hef (Nat.lt_of_lt_of_le lt' h) ⟨_, _, evaluates'.writes⟩
        · rw [evaluates.found_eq evaluates' heq] at older
          exact Segment.not_isOlder_self _ older
        · exact last' e.written hfe (Nat.lt_of_not_le hlt) ⟨_, _, evaluates.writes⟩
      have hne : i ≠ j := by
        rintro rfl
        have := evaluates'.read_lt
        have := evaluates'.counted_lt
        refine evaluates.only f.written ?_ ?_ _ _ evaluates'.writes
        · omega
        · omega
      exact ⟨s, i, j, e, f, hs, ⟨hne, evaluates, evaluates', hread, Nat.lt_of_lt_of_le lt' hm⟩,
        lt', hm, lt, rfl, rfl⟩

end Overtaking

def ofJobs (jobs : ι → Job) (w : World) : Pool ι (Except Failure Outcome) :=
  ⟨w, fun i => (jobs i).script⟩

/-- However refreshes of segments are interleaved while the clock goes forward and customers come
in: a segment holds the results that it had at the start, or all that one evaluation has found, the
one that was written last. Its results give way to those of before only where the evaluation that is
written was overtaken by the one that had written the later results. -/
theorem results_of_last_write (jobs : ι → Job) (w : World) (moves : List (Move ι))
    (refreshes : ∀ i, (jobs i).Refreshes) (forward : (ofJobs jobs w).Forward moves)
    (settled : w.Settled) :
    let p := ofJobs jobs w
    (∀ n id t, (p.before moves n).world.segments.byId.get? id = some t →
      ∃ s, w.segments.byId.get? id = some s ∧ p.Holds moves n s t) ∧
    ∀ m n id a b, m ≤ n → (p.before moves m).world.segments.byId.get? id = some a →
      (p.before moves n).world.segments.byId.get? id = some b → b.IsOlder a →
      ∃ s i j e f, w.segments.byId.get? id = some s ∧ p.Overtakes moves s j f i e ∧
        f.written < m ∧ m ≤ e.written ∧ e.written < n ∧ a = s.applyStats (p.found moves s f) ∧
        b = s.applyStats (p.found moves s e) := by
  intro p
  have traced (i : ι) : Traced Call.Refreshes (fun _ _ => True) [] (p.rest i) :=
    (refreshes i).traced
  constructor
  · intro n id t ht
    exact holds_before traced n ht
  · intro m n id a b h ha hb older
    exact overtaken traced forward settled h ha hb older

def shop : World :=
  ((save "shop" ⟨"VIP", none, .obj [("combinator", .str "and"), ("rules", .arr [])]⟩).run.run
    .blank).2

def refreshedTwice : Pool (Fin 2) (Except Failure Outcome) :=
  ofJobs (fun _ => .refresh "shop" (World.blank.ids 0)) shop

/-- The first one counts before a customer comes in, the second one a second later and after it. The
second one is done when the first one writes its results. -/
def overtaking : List (Move (Fin 2)) :=
  [.advance 0, .advance 0, .advance 0, .advance 0,
    .drift (.customer World.visitor),
    .drift (.clock ((Instant.ofParts? 1 0).getD default)),
    .advance 1, .advance 1, .advance 1, .advance 1, .advance 1, .advance 0]

theorem results_of_last_write_overtaking :
    ∃ a b, (refreshedTwice.before overtaking 11).world.segments.byId.get? (World.blank.ids 0) =
        some a ∧
      (refreshedTwice.before overtaking 12).world.segments.byId.get? (World.blank.ids 0) =
        some b ∧
      b.IsOlder a ∧ ∃ s i j e f, refreshedTwice.Overtakes overtaking s j f i e ∧
        a = s.applyStats (refreshedTwice.found overtaking s f) ∧
        b = s.applyStats (refreshedTwice.found overtaking s e) := by
  have hforward : refreshedTwice.Forward overtaking := by
    intro n hn
    revert n
    decide +kernel
  have hsettled : shop.Settled := ⟨by decide +kernel, by decide +kernel⟩
  have holder : ∃ a b,
      (refreshedTwice.before overtaking 11).world.segments.byId.get? (World.blank.ids 0) = some a ∧
      (refreshedTwice.before overtaking 12).world.segments.byId.get? (World.blank.ids 0) = some b ∧
      b.IsOlder a := by
    refine ⟨_, _, rfl, rfl, ?_⟩
    decide +kernel
  obtain ⟨a, b, ha, hb, older⟩ := holder
  obtain ⟨-, hovertaken⟩ :=
    results_of_last_write (fun _ : Fin 2 => .refresh "shop" (World.blank.ids 0)) shop overtaking
      (fun _ => trivial) hforward hsettled
  obtain ⟨s, i, j, e, f, -, overtakes, -, -, -, hfound, hfound'⟩ :=
    hovertaken 11 12 _ a b (by decide) ha hb older
  exact ⟨a, b, ha, hb, older, s, i, j, e, f, overtakes, hfound, hfound'⟩

/-- The clock goes forward only, and yet the last run of a segment goes back, to results that count
one customer less than those that it had. -/
theorem last_run_goes_back :
    refreshedTwice.Forward overtaking ∧
    ∃ a b, (refreshedTwice.before overtaking 11).world.segments.byId.get? (World.blank.ids 0) =
        some a ∧
      (refreshedTwice.play overtaking).world.segments.byId.get? (World.blank.ids 0) = some b ∧
      compare b.lastRun a.lastRun = .lt ∧ a.customerCount = some 1 ∧ b.customerCount = some 0 := by
  refine ⟨?_, _, _, rfl, rfl, ?_⟩
  · intro n hn
    revert n
    decide +kernel
  · decide +kernel

end Pool

end Service

end Segmentation
