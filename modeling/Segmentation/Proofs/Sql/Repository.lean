import Segmentation.Proofs.Sql.Segments
import Segmentation.Proofs.Store.Changes

namespace Segmentation

namespace Store.Segments

/-- What the caller of a change is told. -/
def answer (s : Segments) (c : Change) : Except Failure Unit :=
  (s.perform c).map fun _ => ()

def answersFrom (s : Segments) : List Change → List (Except Failure Unit)
  | [] => []
  | c :: rest => s.answer c :: answersFrom (s.apply c) rest

def answers (changes : List Change) : List (Except Failure Unit) :=
  answersFrom empty changes

def Change.inserted? : Change → Option Uuid
  | .insert segment => some segment.id
  | .updateStats _ _ => none

end Store.Segments

def Store.Segments.Change.IsStorable (codec : Json.Codec) : Store.Segments.Change → Prop
  | .insert segment => segment.IsStorable codec
  | .updateStats _ stats => stats.IsStorable codec

/-- What a database makes of an instant: whole microseconds, a leap second being the second after
it. -/
def Instant.stored (t : Instant) : Instant :=
  (ofMicros? t.micros).getD t

theorem Instant.micros_stored (t : Instant) : t.stored.micros = t.micros := by
  rw [stored]
  cases h : ofMicros? t.micros with
  | none => rfl
  | some u =>
    have hnanos : u.nanos = t.micros * 1000 := nanos_of_ofNanos? h
    change databaseEpoch + (u.nanos - databaseEpoch * 1000).tdiv 1000 = t.micros
    rw [hnanos, ← Int.sub_mul, Int.mul_tdiv_cancel _ (by decide)]
    omega

def Segment.stored (s : Segment) : Segment :=
  { s with
    createdAt := s.createdAt.stored
    updatedAt := s.updatedAt.stored
    lastRun := s.lastRun.map Instant.stored }

def Segment.Stats.stored (stats : Segment.Stats) : Segment.Stats :=
  { stats with lastRun := stats.lastRun.stored }

def Store.Segments.Change.stored : Store.Segments.Change → Store.Segments.Change
  | .insert segment => .insert segment.stored
  | .updateStats id stats => .updateStats id stats.stored

namespace Sql

namespace Segments

open Store.Segments (Change)

variable {codec : Json.Codec}

def query : Change → Query Unit
  | .insert segment => insert segment
  | .updateStats id stats => updateStats id stats

/-- What a change comes to in the database: what it comes to in memory, and rows of the segments
that are then held there. -/
def Step (codec : Json.Codec) (held : List Segment) (s : Store.Segments) (c : Change) : Prop :=
  ∃ made : List Segment, Mirrors codec made (s.apply c) ∧
    (query c).Gives Schema.segmentsRelation (held.map toRow) (s.answer c) (made.map toRow) ∧
    ∀ result rows, (query c).Gives Schema.segmentsRelation (held.map toRow) result rows →
      result = s.answer c ∧ rows.Perm (made.map toRow)

section Writing

variable {held : List Segment} {s : Store.Segments} {b : Bound}

theorem change?_insertCommand (segment : Segment) (start : List Row) :
    (insertCommand segment).change? Schema.segmentsRelation start =
      some (toRow segment :: start, 1) := by
  rw [Schema.segmentsRelation_eq]
  rfl

theorem change?_updateCommand (id : Uuid) (stats : Segment.Stats) (held : List Segment) :
    (updateCommand id stats).change? Schema.segmentsRelation (held.map toRow) =
      some ((held.map fun t => if t.id = id then t.applyStats stats else t).map toRow,
        held.countP fun t => t.id = id) := by
  let changes : Row := [("compiled_filter", .json stats.filter.toJson),
    ("customer_count", .int stats.customerCount), ("last_run", .ofInstant stats.lastRun),
    ("updated_at", .ofInstant stats.lastRun)]
  have hset (t : Segment) : (toRow t).set changes = toRow (t.applyStats stats) := rfl
  have hkeys : ComparesAs (updateCommand id stats) [("id", 1)] fun t => [decide (t.id = id)] := by
    intro t
    rw [List.map_cons, equation?_id rfl]
    rfl
  have hmeets (t : Segment) :
      (updateCommand id stats).meets [("id", 1)] (toRow t) = decide (t.id = id) :=
    (meets_toRow hkeys t).trans (Bool.and_true _)
  have hrows : (held.map toRow).map (fun row =>
      if (updateCommand id stats).meets [("id", 1)] row then row.set changes else row) =
      (held.map fun t => if t.id = id then t.applyStats stats else t).map toRow := by
    rw [List.map_map, List.map_map]
    refine List.map_congr_left fun t _ => ?_
    simp only [Function.comp_apply, hmeets, hset, decide_eq_true_eq]
    split <;> rfl
  have hcount : (held.map toRow).countP ((updateCommand id stats).meets [("id", 1)]) =
      held.countP fun t => t.id = id := by
    rw [List.countP_map]
    exact List.countP_congr fun t _ => by rw [Function.comp_apply, hmeets]
  rw [← hrows, ← hcount, Schema.segmentsRelation_eq]
  exact if_pos ⟨rfl, by decide, tells_map_toRow hkeys held⟩

theorem step_of_mirrors {c : Change} {made : List Segment} {n : Nat}
    (hbound : (query c).statement.bound? = some b)
    (hchange : b.change? Schema.segmentsRelation (held.map toRow) = some (made.map toRow, n))
    (hmade : Mirrors codec made (s.apply c)) (hread : (query c).read ⟨[], n⟩ = s.answer c) :
    Step codec held s c := by
  refine ⟨made, hmade, ?_, fun result rows hgives => ?_⟩
  · exact (Query.gives_iff_of_bound? hbound).2
      ⟨_, .changed hchange hmade.isKeyed (.refl _), hread.symm⟩
  · obtain ⟨answer, hruns, rfl⟩ := (Query.gives_iff_of_bound? hbound).1 hgives
    rcases (Bound.runs_change_iff hchange).1 hruns with ⟨-, hperm, rfl⟩ | ⟨hclash, -⟩
    · exact ⟨hread, hperm⟩
    · exact absurd hmade.isKeyed hclash

theorem step_of_not_isKeyed {c : Change} {made : List Row} {n : Nat}
    (hbound : (query c).statement.bound? = some b)
    (hchange : b.change? Schema.segmentsRelation (held.map toRow) = some (made, n))
    (hclash : ¬Schema.segmentsRelation.IsKeyed made) (hheld : Mirrors codec held (s.apply c))
    (hrefused : ∀ text, .error ((query c).refused (.rejected Database.Fault.uniqueViolation text)) =
      s.answer c) :
    Step codec held s c := by
  refine ⟨held, hheld, ?_, fun result rows hgives => ?_⟩
  · exact (Query.gives_iff_of_bound? hbound).2 ⟨_, .refused "" hchange hclash, (hrefused "").symm⟩
  · obtain ⟨answer, hruns, rfl⟩ := (Query.gives_iff_of_bound? hbound).1 hgives
    rcases (Bound.runs_change_iff hchange).1 hruns with ⟨hkeyed, -⟩ | ⟨-, rfl, text, rfl⟩
    · exact absurd hkeyed hclash
    · exact ⟨hrefused text, .refl _⟩

theorem step_insert (h : Mirrors codec held s) {segment : Segment}
    (storable : segment.IsStorable codec) (unused : s.byId.get? segment.id = none) :
    Step codec held s (.insert segment) := by
  have hchange : (insertCommand segment).change? Schema.segmentsRelation (held.map toRow) =
      some ((segment :: held).map toRow, 1) := change?_insertCommand segment _
  have hbound : (query (.insert segment)).statement.bound? = some (insertCommand segment) := rfl
  cases hinsert : s.insert segment with
  | ok s' =>
    have hanswer : s.answer (.insert segment) = .ok () := congrArg (Except.map _) hinsert
    have hmade := h.insert storable unused hinsert
    rw [← Store.Segments.apply_of_ok (c := .insert segment) hinsert] at hmade
    exact step_of_mirrors hbound hchange hmade hanswer.symm
  | error f =>
    obtain ⟨rfl, hclash⟩ := h.not_isKeyed_of_error hinsert
    have hanswer : s.answer (.insert segment) = .error (.nameTaken segment.name) :=
      congrArg (Except.map _) hinsert
    rw [← Store.Segments.apply_of_error (c := .insert segment) hinsert] at h
    exact step_of_not_isKeyed hbound hchange hclash h fun text => hanswer.symm

theorem step_updateStats (h : Mirrors codec held s) (id : Uuid) {stats : Segment.Stats}
    (storable : stats.IsStorable codec) : Step codec held s (.updateStats id stats) := by
  have hchange := change?_updateCommand id stats held
  have hbound : (query (.updateStats id stats)).statement.bound? = some (updateCommand id stats) :=
    rfl
  cases hget : s.byId.get? id with
  | some segment =>
    obtain ⟨s', hupdate⟩ : ∃ s', s.updateStats id stats = .ok s' := by
      rw [Store.Segments.updateStats, hget]
      exact ⟨_, rfl⟩
    have hanswer : s.answer (.updateStats id stats) = .ok () := congrArg (Except.map _) hupdate
    have hmade := h.updateStats storable hupdate
    rw [← Store.Segments.apply_of_ok (c := .updateStats id stats) hupdate] at hmade
    refine step_of_mirrors hbound hchange hmade ?_
    have hid := s.id_of_get? hget
    have hpos : 0 < held.countP fun t => t.id = id := by
      refine List.countP_pos_iff.2 ⟨segment, h.mem_iff.2 ?_, decide_eq_true hid⟩
      rw [hid, hget]
    rw [hanswer]
    exact if_neg (Nat.ne_of_gt hpos)
  | none =>
    have hupdate : s.updateStats id stats = .error (.segmentNotFound id.write) := by
      rw [Store.Segments.updateStats, hget]
    have hanswer : s.answer (.updateStats id stats) = .error (.segmentNotFound id.write) :=
      congrArg (Except.map _) hupdate
    have hne : ∀ t ∈ held, t.id ≠ id := by
      rintro t ht rfl
      rw [h.mem_iff.1 ht] at hget
      cases hget
    have hsame : (held.map fun t => if t.id = id then t.applyStats stats else t) = held :=
      (List.map_congr_left fun t ht => if_neg (hne t ht)).trans (List.map_id held)
    rw [hsame] at hchange
    rw [← Store.Segments.apply_of_error (c := .updateStats id stats) hupdate] at h
    refine step_of_mirrors hbound hchange h ?_
    have hzero : (held.countP fun t => t.id = id) = 0 := by
      refine List.countP_eq_zero.2 fun t ht => ?_
      rw [decide_eq_true_eq]
      exact hne t ht
    rw [hanswer]
    exact if_pos hzero

end Writing

theorem Mirrors.step {held : List Segment} {s : Store.Segments} (h : Mirrors codec held s)
    {c : Change} (storable : c.IsStorable codec)
    (unused : ∀ id, c.inserted? = some id → s.byId.get? id = none) :
    Step codec held s c := by
  cases c with
  | insert segment => exact step_insert h storable (unused segment.id rfl)
  | updateStats id stats => exact step_updateStats h id storable

/-- Changes asked for one after the other from an empty table on: what the callers are told, and
the rows at the end. -/
inductive Served : List Change → List (Except Failure Unit) → List Row → Prop
  | nil : Served [] [] []
  | concat {changes : List Change} {results : List (Except Failure Unit)} {rows rows' : List Row}
    {c : Change} {result : Except Failure Unit} : Served changes results rows →
      (query c).Gives Schema.segmentsRelation rows result rows' →
      Served (changes ++ [c]) (results ++ [result]) rows'

theorem ofInstant_stored (t : Instant) : Value.ofInstant t.stored = Value.ofInstant t :=
  congrArg Value.time t.micros_stored

theorem toRow_stored (s : Segment) : toRow s.stored = toRow s := by
  have hlastRun : Value.optional .ofInstant (s.lastRun.map Instant.stored) =
      Value.optional .ofInstant s.lastRun := by
    cases s.lastRun with
    | none => rfl
    | some t => exact ofInstant_stored t
  simp only [toRow, Segment.stored, ofInstant_stored, hlastRun]

theorem query_stored (c : Change) : query c.stored = query c := by
  cases c with
  | insert segment =>
    change insert segment.stored = insert segment
    simp only [insert, insertCommand, toRow_stored]
    rfl
  | updateStats id stats =>
    change updateStats id stats.stored = updateStats id stats
    simp only [updateStats, updateCommand, Segment.Stats.stored, ofInstant_stored]

theorem served_concat_iff {changes : List Change} {c : Change}
    {results : List (Except Failure Unit)} {rows : List Row} :
    Served (changes ++ [c]) results rows ↔ ∃ earlier before result,
      Served changes earlier before ∧ results = earlier ++ [result] ∧
        (query c).Gives Schema.segmentsRelation before result rows := by
  constructor
  · intro h
    generalize hall : changes ++ [c] = all at h
    cases h with
    | nil => simp at hall
    | concat hserved hgives =>
      obtain ⟨rfl, hlast⟩ := List.append_inj' hall rfl
      cases hlast
      exact ⟨_, _, _, hserved, rfl, hgives⟩
  · rintro ⟨earlier, before, result, hserved, rfl, hgives⟩
    exact .concat hserved hgives

/-- A database does not tell changes from those with the instants as it stores them. -/
theorem served_map_stored_iff {changes : List Change} {results : List (Except Failure Unit)}
    {rows : List Row} : Served (changes.map Change.stored) results rows ↔
      Served changes results rows := by
  induction changes using List.reverseRecOn generalizing results rows with
  | nil => exact Iff.rfl
  | append_singleton changes c ih =>
    rw [List.map_append, List.map_singleton, served_concat_iff, served_concat_iff, query_stored]
    simp only [ih]

section Run

variable {changes : List Change}

end Run

end Segments

end Sql

end Segmentation
