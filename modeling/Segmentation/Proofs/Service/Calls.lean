import Segmentation.Service

namespace Segmentation

/-- What rules come to at an instant at which they select that many customers. -/
def Segment.Stats.ofCount (rules : Json) (now : Instant) (count : Nat) : Segment.Stats :=
  ⟨compileRules now rules, Service.clampCount count, now⟩

namespace Service

namespace Draft

/-- A draft that can be saved under a name that is free. -/
structure Valid (draft : Draft) : Prop where
  name_ne : Text.trim draft.name ≠ ""
  no_problems : Rule.problems draft.rules = []

def segment (draft : Draft) (owner : String) (id : Uuid) (now : Instant) (count : Nat) :
    Segment :=
  { id, owner
    name := Text.trim draft.name
    description := tidyDescription draft.description
    rules := draft.rules
    filter := compileRules now draft.rules
    customerCount := some (clampCount count)
    isActive := true
    createdAt := now
    updatedAt := now
    lastRun := some now }

end Draft

section Saving

variable {draft : Draft} (owner : String)

theorem save_of_valid (valid : draft.Valid) :
    (save owner draft).run = .call (.findByName owner (Text.trim draft.name)) fun
      | .error f => .done (.error f)
      | .ok (some _) => .done (.error (.nameTaken (Text.trim draft.name)))
      | .ok none => .call .now fun now =>
        let filter := compileRules now draft.rules
        .call (.record (.compilation "save" filter.predicateCount)) fun _ =>
        .call (.count filter owner) fun
        | .error f => .done (.error f)
        | .ok count => .call .freshId fun id =>
          let segment := draft.segment owner id now count
          .call (.insert segment) fun
          | .error f => .done (.error f)
          | .ok _ => .done (.ok segment) := by
  have hname : ¬(Text.trim draft.name).isEmpty := by
    intro h
    exact valid.name_ne (String.isEmpty_iff.1 h)
  have hrules := List.isEmpty_iff.2 valid.no_problems
  rw [save]
  simp only [if_neg hname, validate, if_pos hrules]
  -- Both sides ask for the same calls; they differ in how the answers are told apart.
  refine congrArg (Script.call _) (funext fun found => ?_)
  rcases found with f | _ | held
  · rfl
  · refine congrArg (Script.call _) (funext fun now => ?_)
    refine congrArg (Script.call _) (funext fun _ => ?_)
    refine congrArg (Script.call _) (funext fun counted => ?_)
    rcases counted with f | count
    · rfl
    · refine congrArg (Script.call _) (funext fun id => ?_)
      refine congrArg (Script.call _) (funext fun inserted => ?_)
      cases inserted <;> rfl
  · rfl

theorem save_of_not_valid (h : ¬draft.Valid) :
    (∃ f, (save owner draft).run = .done (.error f)) ∨
      ∃ m f, (save owner draft).run = .call (.record m) fun _ => .done (.error f) := by
  rw [save]
  by_cases hname : (Text.trim draft.name).isEmpty
  · simp only [if_pos hname]
    exact .inl ⟨_, rfl⟩
  · have hrules : ¬(Rule.problems draft.rules).isEmpty := by
      intro hrules
      apply h
      exact ⟨fun heq => hname (String.isEmpty_iff.2 heq), List.isEmpty_iff.1 hrules⟩
    simp only [if_neg hname, validate, if_neg hrules]
    exact .inr ⟨_, _, rfl⟩

end Saving

section Refreshing

variable {segment : Segment}

theorem refreshSegment_of_valid (h : Rule.problems segment.rules = []) :
    (refreshSegment segment).run = .call .now fun now =>
      let filter := compileRules now segment.rules
      .call (.record (.compilation "refresh" filter.predicateCount)) fun _ =>
      .call (.count filter segment.owner) fun
      | .error f => .done (.error f)
      | .ok count =>
        let stats := Segment.Stats.ofCount segment.rules now count
        .call (.updateStats segment.id stats) fun
        | .error f => .done (.error f)
        | .ok _ => .done (.ok (segment.applyStats stats)) := by
  have hrules := List.isEmpty_iff.2 h
  rw [refreshSegment]
  simp only [validate, if_pos hrules]
  refine congrArg (Script.call _) (funext fun now => ?_)
  refine congrArg (Script.call _) (funext fun _ => ?_)
  refine congrArg (Script.call _) (funext fun counted => ?_)
  rcases counted with f | count
  · rfl
  · refine congrArg (Script.call _) (funext fun updated => ?_)
    cases updated <;> rfl

theorem refreshSegment_of_not_valid (h : Rule.problems segment.rules ≠ []) :
    ∃ m f, (refreshSegment segment).run = .call (.record m) fun _ => .done (.error f) := by
  have hrules : ¬(Rule.problems segment.rules).isEmpty := by
    intro hrules
    exact h (List.isEmpty_iff.1 hrules)
  rw [refreshSegment]
  simp only [validate, if_neg hrules]
  exact ⟨_, _, rfl⟩

end Refreshing

theorem get_bind {α : Type} (owner : String) (id : Uuid) (f : Segment → Action α) :
    (get owner id >>= f).run = .call (.get owner id) fun
      | .error e => .done (.error e)
      | .ok none => .done (.error (.segmentNotFound id.write))
      | .ok (some segment) => (f segment).run := by
  refine congrArg (Script.call _) (funext fun found => ?_)
  rcases found with e | _ | segment <;> rfl

section Selecting

variable {rules : Json} (op : Operation) (limit : Nat) (owner : String)

theorem select_of_valid (h : Rule.problems rules = []) :
    (select op limit owner rules).run = .call .now fun now =>
      let filter := compileRules now rules
      .call (.record (.compilation op.name filter.predicateCount)) fun _ =>
      .call (.count filter owner) fun
      | .error f => .done (.error f)
      | .ok count => .call (.find filter owner limit) fun
        | .error f => .done (.error f)
        | .ok customers => .call (.record (.audience op.name count)) fun _ =>
          .done (.ok ⟨count, customers, now⟩) := by
  have hrules := List.isEmpty_iff.2 h
  rw [select]
  simp only [validate, if_pos hrules]
  refine congrArg (Script.call _) (funext fun now => ?_)
  refine congrArg (Script.call _) (funext fun _ => ?_)
  refine congrArg (Script.call _) (funext fun counted => ?_)
  rcases counted with f | count
  · rfl
  · refine congrArg (Script.call _) (funext fun found => ?_)
    cases found <;> rfl

theorem select_of_not_valid (h : Rule.problems rules ≠ []) :
    ∃ m f, (select op limit owner rules).run = .call (.record m) fun _ => .done (.error f) := by
  have hrules : ¬(Rule.problems rules).isEmpty := by
    intro hrules
    exact h (List.isEmpty_iff.1 hrules)
  rw [select]
  simp only [validate, if_neg hrules]
  exact ⟨_, _, rfl⟩

end Selecting

end Service

end Segmentation
