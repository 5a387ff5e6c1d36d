import Segmentation.Proofs.Service.Evaluation
import Segmentation.Proofs.Service.Interleaving
import Segmentation.Proofs.Store.Answers

namespace Segmentation

namespace Table

variable {κ α : Type} [DecidableEq κ]

theorem place_place (key : κ) (old new : α) (entries : List (κ × α)) :
    place key new (place key old entries) = place key new entries := by
  induction entries with
  | nil => exact if_pos rfl
  | cons entry rest ih =>
    obtain ⟨k, v⟩ := entry
    rw [place]
    by_cases hk : k = key
    · rw [if_pos hk, place, if_pos rfl, place, if_pos hk]
    · rw [if_neg hk, place, if_neg hk, ih, place, if_neg hk]

theorem insert_insert (t : Table κ α) (key : κ) (old new : α) :
    (t.insert key old).insert key new = t.insert key new := by
  simp only [insert, place_place]

end Table

namespace Store

namespace Segments

def put (s : Segments) (segment : Segment) : Segments :=
  { s with byId := s.place segment, id_of_get? := id_of_place }

theorem eq_of_tables {s t : Segments} (hbyId : s.byId = t.byId) (hnames : s.names = t.names) :
    s = t := by
  cases s
  cases t
  cases hbyId
  cases hnames
  rfl

theorem put_put (s : Segments) {old new : Segment} (h : old.id = new.id) :
    (s.put old).put new = s.put new := by
  refine eq_of_tables ?_ rfl
  change (s.byId.insert old.id old).insert new.id new = s.byId.insert new.id new
  rw [h, Table.insert_insert]

theorem get?_put (s : Segments) (segment : Segment) :
    (s.put segment).get? segment.owner segment.id = some segment := by
  refine get?_eq_some_iff.2 ⟨?_, rfl⟩
  exact (s.byId.get?_insert segment.id segment.id segment).trans (if_pos rfl)

theorem updateStats_of_get? {s : Segments} {owner : String} {id : Uuid} {segment : Segment}
    (h : s.get? owner id = some segment) (stats : Segment.Stats) :
    s.updateStats id stats = .ok (s.put (segment.applyStats stats)) := by
  rw [updateStats, (get?_eq_some_iff.1 h).1]
  rfl

theorem insert_of_free {s : Segments} {segment : Segment}
    (free : s.names.get? (segment.owner, segment.name) = none) :
    ∃ s', s.insert segment = .ok s' := by
  have hfree : ¬s.names.contains (segment.owner, segment.name) := by
    rw [Table.contains, free]
    exact Bool.false_ne_true
  rw [insert, if_neg hfree]
  exact ⟨_, rfl⟩

end Segments

end Store

def Segment.withSnapshot (s : Segment) (filter : Filter) (customerCount : Option Int)
    (lastRun : Option Instant) : Segment :=
  { s with filter, customerCount, lastRun }

namespace Service

namespace World

/-- The customers of an account that rules select now, in the order of answers. -/
def selected (w : World) (owner : String) (rules : Json) : List Customer :=
  w.customers.ranked (compileRules w.clock rules) owner

def put (w : World) (segment : Segment) : World :=
  { w with segments := w.segments.put segment }

theorem put_put (w : World) {old new : Segment} (h : old.id = new.id) :
    (w.put old).put new = w.put new := by
  rw [put, put, put, w.segments.put_put h]

theorem customerCount_evaluate (w : World) (owner : String) (rules : Json) :
    (w.evaluate owner rules).customerCount = clampCount (w.selected owner rules).length := by
  rw [evaluate, Segment.Stats.ofCount, Store.Customers.count_eq_length_ranked, selected]

def compiling (w : World) (op : Operation) (rules : Json) : World :=
  let predicates := (compileRules w.clock rules).predicateCount
  { w with measured := .compilation op.name predicates :: w.measured }

end World

section Running

variable {owner : String} {id : Uuid} {segment : Segment} {w : World}

theorem run_select_of_valid {rules : Json} (accepted : Rule.problems rules = []) (op : Operation)
    (limit : Nat) (owner : String) (w : World) :
    ((select op limit owner rules).run.run w).1 =
      .ok ⟨(w.selected owner rules).length, (w.selected owner rules).take limit, w.clock⟩ := by
  rw [select_of_valid op limit owner accepted, World.selected,
    ← Store.Customers.count_eq_length_ranked]
  rfl

theorem run_audience_of_get? (held : w.segments.get? owner id = some segment) (limits : Limits) :
    (audience limits owner id).run.run w =
      (select .audience limits.audience owner segment.rules).run.run w := by
  rw [audience, get_bind, Script.run, World.perform, held]

theorem run_refresh_of_get? (held : w.segments.get? owner id = some segment)
    (accepted : Rule.problems segment.rules = []) :
    (refresh owner id).run.run w =
      (.ok (segment.applyStats (w.evaluate owner segment.rules)),
        (w.compiling .refresh segment.rules).put
          (segment.applyStats (w.evaluate owner segment.rules))) := by
  obtain ⟨hstored, rfl⟩ := Store.Segments.get?_eq_some_iff.1 held
  have hupdate := Store.Segments.updateStats_of_get? held (w.evaluate segment.owner segment.rules)
  rw [← w.segments.id_of_get? hstored, World.evaluate] at hupdate
  rw [run_refresh, held]
  simp only [refreshSegment_of_valid accepted, Script.run, World.perform, hupdate, World.change]
  rfl

theorem run_save_of_free {draft : Draft} (valid : draft.Valid)
    (free : w.segments.names.get? (owner, Text.trim draft.name) = none) :
    ∃ w', (save owner draft).run.run w = (.ok (w.segmentOf owner draft), w') ∧
      w'.segments.get? owner (w.segmentOf owner draft).id = some (w.segmentOf owner draft) := by
  have hnone : w.segments.findByName owner (Text.trim draft.name) = none := by
    rw [Store.Segments.findByName, free]
    rfl
  have hinserts : ∃ s', w.segments.insert (w.segmentOf owner draft) = .ok s' :=
    Store.Segments.insert_of_free free
  obtain ⟨segments, hinsert⟩ := hinserts
  have hstored := Store.Segments.get?_insert hinsert owner (w.segmentOf owner draft).id
  have howner : (w.segmentOf owner draft).owner = owner := rfl
  rw [if_pos rfl, if_pos howner] at hstored
  rw [World.segmentOf] at hinsert
  rw [save_of_valid owner valid]
  simp only [Script.run, World.perform, hnone, hinsert, World.change]
  exact ⟨_, rfl, hstored⟩

section Snapshot

variable (filter : Filter) (customerCount : Option Int) (lastRun : Option Instant)

theorem get?_put_withSnapshot (held : w.segments.get? owner id = some segment) :
    (w.put (segment.withSnapshot filter customerCount lastRun)).segments.get? owner id =
      some (segment.withSnapshot filter customerCount lastRun) := by
  obtain ⟨hstored, rfl⟩ := Store.Segments.get?_eq_some_iff.1 held
  obtain rfl := w.segments.id_of_get? hstored
  exact w.segments.get?_put _

theorem run_refresh_put_withSnapshot (held : w.segments.get? owner id = some segment)
    (accepted : Rule.problems segment.rules = []) :
    (refresh owner id).run.run (w.put (segment.withSnapshot filter customerCount lastRun)) =
      (refresh owner id).run.run w := by
  have hheld := get?_put_withSnapshot filter customerCount lastRun held
  rw [run_refresh_of_get? hheld accepted, run_refresh_of_get? held accepted]
  -- The answers are the same by definition, and what is put last into the worlds is, too.
  exact congrArg (Prod.mk _) ((w.compiling .refresh segment.rules).put_put rfl)

end Snapshot

end Running

/-- Rules that are accepted select the same customers in the same order for a preview, for the
audience of a segment that has them, for its refresh and for a save under a free name, whatever
snapshot is stored with the segment. A preview and an audience have as many of the first of them as
their limits allow; a refresh and a save store how many there are, and what they store does not
depend on the snapshot either. -/
theorem evaluations_agree (w : World) (limits : Limits) {owner : String} {id : Uuid}
    {segment : Segment} (held : w.segments.get? owner id = some segment)
    (accepted : Rule.problems segment.rules = []) {name : String} (named : Text.trim name ≠ "")
    (free : w.segments.names.get? (owner, Text.trim name) = none) (description : Option String)
    (filter : Filter) (customerCount : Option Int) (lastRun : Option Instant) :
    let all := w.selected owner segment.rules
    ∃ refreshed saved : Segment, ∃ after : World,
      refreshed.customerCount = some (clampCount all.length) ∧
      saved.customerCount = some (clampCount all.length) ∧
      after.segments.get? owner id = some refreshed ∧
      ∀ v, v = w ∨ v = w.put (segment.withSnapshot filter customerCount lastRun) →
        ((preview limits owner segment.rules).run.run v).1 =
          .ok ⟨all.length, all.take limits.previewSample, w.clock⟩ ∧
        ((audience limits owner id).run.run v).1 =
          .ok ⟨all.length, all.take limits.audience, w.clock⟩ ∧
        (refresh owner id).run.run v = (.ok refreshed, after) ∧
        ∃ v', (save owner ⟨name, description, segment.rules⟩).run.run v = (.ok saved, v') ∧
          v'.segments.get? owner saved.id = some saved := by
  intro all
  let draft : Draft := ⟨name, description, segment.rules⟩
  have valid : draft.Valid := ⟨named, accepted⟩
  have hcount := congrArg some (w.customerCount_evaluate owner segment.rules)
  have hrefresh := run_refresh_of_get? held accepted
  let refreshed := segment.applyStats (w.evaluate owner segment.rules)
  let after := (w.compiling .refresh segment.rules).put refreshed
  have hstored : after.segments.get? owner id = some refreshed := by
    obtain ⟨hbyId, rfl⟩ := Store.Segments.get?_eq_some_iff.1 held
    obtain rfl := w.segments.id_of_get? hbyId
    exact w.segments.get?_put refreshed
  refine ⟨refreshed, w.segmentOf owner draft, after, hcount, hcount, hstored, ?_⟩
  rintro v (rfl | rfl)
  · refine ⟨run_select_of_valid accepted .preview _ owner v, ?_, hrefresh,
      run_save_of_free valid free⟩
    rw [run_audience_of_get? held]
    exact run_select_of_valid accepted .audience _ owner v
  · have hheld := get?_put_withSnapshot filter customerCount lastRun held
    refine ⟨run_select_of_valid accepted .preview _ owner _, ?_, ?_, run_save_of_free valid free⟩
    · rw [run_audience_of_get? hheld]
      exact run_select_of_valid accepted .audience _ owner _
    · rw [run_refresh_put_withSnapshot filter customerCount lastRun held accepted]
      exact hrefresh

def lapsed : Draft where
  name := "Lapsed"
  description := none
  rules := .obj [("combinator", .str "and"), ("rules", .arr
    [.obj [("field", .str "inactiveDays"), ("operator", .str ">"), ("value", .int 30)]])]

def World.ordered : World :=
  { World.blank with
    customers := Store.Customers.empty.insert { World.visitor with lastOrder := some default } }

/-- A segment was saved on the day of the order, and 31 days have gone by since. -/
def World.monthLater : World :=
  { ((save "shop" lapsed).run.run .ordered).2 with
    clock := (Instant.ofParts? 2678400 0).getD default }

/-- The segment has grown old: it was saved with no customer and is refreshed with one, be its
snapshot the one of the save or another. -/
theorem evaluations_agree_monthLater :
    let segment := World.ordered.segmentOf "shop" lapsed
    let w := World.monthLater
    (w.segments.get? "shop" segment.id = some segment ∧ segment.customerCount = some 0 ∧
      Rule.problems segment.rules = [] ∧ Text.trim " Away " ≠ "" ∧
      w.segments.names.get? ("shop", Text.trim " Away ") = none) ∧
    ∃ refreshed saved : Segment, ∃ after : World,
      refreshed.customerCount = some 1 ∧ saved.customerCount = some 1 ∧
      ∀ v, v = w ∨ v = w.put (segment.withSnapshot (.group .or []) (some (-7)) none) →
        ((preview ⟨1, 0⟩ "shop" segment.rules).run.run v).1 =
          .ok ⟨1, w.selected "shop" segment.rules, w.clock⟩ ∧
        ((audience ⟨1, 0⟩ "shop" segment.id).run.run v).1 = .ok ⟨1, [], w.clock⟩ ∧
        (refresh "shop" segment.id).run.run v = (.ok refreshed, after) ∧
        ∃ v', (save "shop" ⟨" Away ", none, segment.rules⟩).run.run v = (.ok saved, v') := by
  intro segment w
  have hheld : w.segments.get? "shop" segment.id = some segment := by rfl
  have haccepted : Rule.problems segment.rules = [] := by decide +kernel
  have hnamed : Text.trim " Away " ≠ "" := by decide +kernel
  have hfree : w.segments.names.get? ("shop", Text.trim " Away ") = none := by decide +kernel
  have hcount : (w.selected "shop" segment.rules).length = 1 := by decide +kernel
  obtain ⟨refreshed, saved, after, hrefreshed, hsaved, -, hagree⟩ :=
    evaluations_agree w ⟨1, 0⟩ hheld haccepted hnamed hfree none (.group .or []) (some (-7)) none
  rw [hcount] at hrefreshed hsaved
  refine ⟨⟨hheld, by decide +kernel, haccepted, hnamed, hfree⟩, refreshed, saved, after, hrefreshed,
    hsaved, fun v hv => ?_⟩
  obtain ⟨hpreview, haudience, hrefresh, v', hsave, -⟩ := hagree v hv
  rw [hcount] at hpreview haudience
  refine ⟨?_, haudience, hrefresh, v', hsave⟩
  rw [hpreview, List.take_of_length_le (Nat.le_of_eq hcount)]

end Service

end Segmentation
