import Segmentation.Log.Event
import Segmentation.Proofs.Rule.Acceptance
import Segmentation.Proofs.Rule.Enforcement
import Segmentation.Proofs.Rule.Pruning

namespace Segmentation.Rule

namespace Condition

/-- The reason for which a condition is dropped. The reasons are tried in this order, and each of
them supposes that the ones before it do not apply. -/
inductive DroppedFor (now : Instant) : Condition → Drop → Prop
  | incomplete {c : Condition} (missing : c.field = none ∨ c.operator = none ∨ c.operand = none) :
      DroppedFor now c (.incomplete c)
  | patternOnDate {field : Field} {operator : Operator} {operand : Operand} {a : Attribute}
      (search : operator.comparator? = none) (relative : field.source = .daysSince a) :
      DroppedFor now ⟨some field, some operator, some operand⟩ (.patternOnDate field)
  | notNumeric {field : Field} {operator : Operator} {operand : Operand} {comparator : Comparator}
      (comparison : operator.comparator? = some comparator) (number : operand.number? = none) :
      DroppedFor now ⟨some field, some operator, some operand⟩ (.notNumeric field operand)
  | outOfRange {field : Field} {operator : Operator} {operand : Operand} {comparator : Comparator}
      {a : Attribute} {days : Float} (comparison : operator.comparator? = some comparator)
      (number : operand.number? = some days) (relative : field.source = .daysSince a)
      (beyond : span? now days = none) :
      DroppedFor now ⟨some field, some operator, some operand⟩ (.outOfRange field days)

theorem cutoff?_eq_none_iff {now : Instant} {days : Float} :
    cutoff? now days = none ↔ span? now days = none := by
  rw [← Option.not_isSome_iff_eq_none, ← Option.not_isSome_iff_eq_none, isSome_cutoff?]

theorem droppedFor_of_compileComparison {now : Instant} {field : Field} {operator : Operator}
    {operand : Operand} {comparator : Comparator} {d : Drop}
    (comparison : operator.comparator? = some comparator)
    (h : compileComparison now field comparator operand = .error d) :
    DroppedFor now ⟨some field, some operator, some operand⟩ d := by
  rw [compileComparison] at h
  split at h
  · next hnumber =>
    cases h
    exact .notNumeric comparison hnumber
  · next days hdays =>
    split at h
    · cases h
    · next a ha =>
      split at h
      · next hcutoff =>
        cases h
        exact .outOfRange comparison hdays ha (cutoff?_eq_none_iff.1 hcutoff)
      · cases h

theorem droppedFor_of_compileSearch {now : Instant} {field : Field} {operator : Operator}
    {operand : Operand} {d : Drop} (search : operator.comparator? = none)
    (h : compileSearch field operand = .error d) :
    DroppedFor now ⟨some field, some operator, some operand⟩ d := by
  rw [compileSearch] at h
  split at h
  · cases h
  · next a ha =>
    cases h
    exact .patternOnDate search ha

theorem compile_eq_error_iff {now : Instant} {c : Condition} {d : Drop} :
    c.compile now = .error d ↔ c.DroppedFor now d := by
  constructor
  · intro h
    cases c.missing_or_complete with
    | inl missing =>
      rw [compile_of_missing missing] at h
      cases h
      exact .incomplete missing
    | inr complete =>
      obtain ⟨field, operator, operand, rfl⟩ := complete
      simp only [compile] at h
      split at h
      · next comparison => exact droppedFor_of_compileComparison comparison h
      · next search => exact droppedFor_of_compileSearch search h
  · intro h
    cases h with
    | incomplete missing => exact compile_of_missing missing now
    | patternOnDate search relative => simp [compile, compileSearch, search, relative]
    | notNumeric comparison number => simp [compile, compileComparison, comparison, number]
    | outOfRange comparison number relative beyond =>
      have hcutoff := cutoff?_eq_none_iff.2 beyond
      simp [compile, compileComparison, comparison, number, relative, hcutoff]

theorem rightUnique_droppedFor (now : Instant) : Relator.RightUnique (DroppedFor now) := by
  intro c d e hd he
  have hdrop : c.compile now = .error d := compile_eq_error_iff.2 hd
  have hsame : c.compile now = .error e := compile_eq_error_iff.2 he
  exact Except.error.inj (hdrop.symm.trans hsame)

def drop? (now : Instant) (c : Condition) : Option Drop :=
  match c.compile now with
  | .ok _ => none
  | .error d => some d

theorem drop?_eq_some_iff {now : Instant} {c : Condition} {d : Drop} :
    c.drop? now = some d ↔ c.DroppedFor now d := by
  rw [← compile_eq_error_iff, drop?]
  cases c.compile now <;> simp

theorem isSome_drop? (now : Instant) (c : Condition) :
    (c.drop? now).isSome = !c.constrains now := by
  rw [← isSome_predicate?, predicate?, drop?]
  cases c.compile now <;> rfl

theorem length_filterMap_drop? (now : Instant) (conditions : List Condition) :
    (conditions.filterMap (drop? now)).length + (conditions.filterMap (predicate? now)).length =
      conditions.length := by
  induction conditions with
  | nil => rfl
  | cons c rest ih =>
    cases hc : c.compile now with
    | ok f =>
      have hdrop : c.drop? now = none := by rw [drop?, hc]
      have hpredicate : c.predicate? now = some f := predicate?_eq_some_iff.2 hc
      rw [List.filterMap_cons_none hdrop, List.filterMap_cons_some hpredicate, List.length_cons,
        List.length_cons]
      omega
    | error d =>
      have hdrop : c.drop? now = some d := by rw [drop?, hc]
      have hpredicate : c.predicate? now = none := by
        rw [predicate?, hc]
        rfl
      rw [List.filterMap_cons_some hdrop, List.filterMap_cons_none hpredicate, List.length_cons,
        List.length_cons]
      omega

theorem forall₂_filterMap_drop? (now : Instant) (conditions : List Condition) :
    List.Forall₂ (DroppedFor now) (conditions.filter fun c => !c.constrains now)
      (conditions.filterMap (drop? now)) := by
  induction conditions with
  | nil => exact .nil
  | cons c rest ih =>
    have hdropped := isSome_drop? now c
    cases hd : c.drop? now with
    | none =>
      rw [hd] at hdropped
      rw [List.filterMap_cons_none hd, List.filter_cons_of_neg (by rw [← hdropped]; simp)]
      exact ih
    | some d =>
      rw [hd] at hdropped
      rw [List.filterMap_cons_some hd, List.filter_cons_of_pos (by rw [← hdropped]; rfl)]
      exact .cons (drop?_eq_some_iff.1 hd) ih

/-- What an event names of a condition that is dropped: its field, and where a part is missing,
all that there is of it. -/
def subject (c : Condition) : String × Log.Value :=
  match c.field, c.operator, c.operand with
  | some field, some _, some _ => ("field", .plain field.name)
  | _, _, _ => ("cond", .condition c)

theorem DroppedFor.subject_mem {now : Instant} {c : Condition} {d : Drop}
    (h : c.DroppedFor now d) : c.subject ∈ (Log.Event.dropped d).fields := by
  cases h with
  | incomplete missing =>
    have hsubject : c.subject = ("cond", .condition c) := match_of_missing missing _ _
    rw [hsubject]
    exact List.mem_cons_self
  | patternOnDate | notNumeric | outOfRange => exact List.mem_cons_self

theorem IsWhole.outOfRange {now : Instant} {c : Condition} {d : Drop} (hwhole : c.IsWhole)
    (h : c.DroppedFor now d) : ∃ days, d = .outOfRange .inactiveDays days := by
  obtain ⟨⟨field, hfield⟩, ⟨operator, hoperator, hexposed⟩, ⟨operand, x, hoperand, hx⟩⟩ := hwhole
  cases h with
  | incomplete missing => simp [hfield, hoperator, hoperand] at missing
  | patternOnDate search =>
    cases hoperator
    cases operator <;> simp [Operator.isExposed, Operator.comparator?] at hexposed search
  | notNumeric comparison number =>
    cases hoperand
    rw [hx] at number
    cases number
  | @outOfRange field _ _ _ a days comparison number relative beyond =>
    cases field with
    | inactiveDays => exact ⟨days, rfl⟩
    | spend | visits => cases relative

end Condition

namespace Node

mutual

theorem drops_eq_filterMap (now : Instant) (node : Node) :
    node.drops now = node.conditions.filterMap (Condition.drop? now) := by
  cases node with
  | condition c =>
    rw [drops, conditions, List.filterMap_cons, Condition.drop?]
    cases c.compile now <;> rfl
  | group combinator rules => exact dropsAll_eq_filterMap now rules

theorem dropsAll_eq_filterMap (now : Instant) (nodes : List Node) :
    dropsAll now nodes = (conditionsOfAll nodes).filterMap (Condition.drop? now) := by
  cases nodes with
  | nil => rfl
  | cons node rest =>
    rw [dropsAll, conditionsOfAll, List.filterMap_append, drops_eq_filterMap now node,
      dropsAll_eq_filterMap now rest]

end

/-- The conditions of a tree that constrain nothing, from left to right. -/
def dropped (now : Instant) (node : Node) : List Condition :=
  node.conditions.filter fun c => !c.constrains now

theorem length_drops_add_predicateCount (now : Instant) (node : Node) :
    (node.drops now).length + (node.compile now).predicateCount = node.conditions.length := by
  rw [← Filter.length_predicates, predicates_compile, drops_eq_filterMap]
  exact Condition.length_filterMap_drop? now node.conditions

theorem forall₂_droppedFor_iff {now : Instant} {node : Node} {told : List Drop} :
    List.Forall₂ (Condition.DroppedFor now) (node.dropped now) told ↔ told = node.drops now := by
  have hdrops := Condition.forall₂_filterMap_drop? now node.conditions
  rw [← drops_eq_filterMap] at hdrops
  constructor
  · intro h
    exact List.right_unique_forall₂' (Condition.rightUnique_droppedFor now) h hdrops
  · intro h
    rw [h]
    exact hdrops

theorem exists_droppedFor_of_mem_drops {now : Instant} {node : Node} {d : Drop}
    (h : d ∈ node.drops now) : ∃ c ∈ node.conditions, c.DroppedFor now d := by
  rw [drops_eq_filterMap, List.mem_filterMap] at h
  obtain ⟨c, hc, hd⟩ := h
  exact ⟨c, hc, Condition.drop?_eq_some_iff.1 hd⟩

theorem outOfRange_of_mem_drops {now : Instant} {rules : Json} (h : problems rules = [])
    {d : Drop} (hd : d ∈ (ofJson rules).drops now) :
    ∃ days, d = .outOfRange .inactiveDays days := by
  have hunrepaired : Unrepaired rules := (nodeProblems_eq_nil_iff rules).1
    (nodeProblems_of_problems h)
  obtain ⟨c, hc, hdropped⟩ := exists_droppedFor_of_mem_drops hd
  exact (hunrepaired.whole c hc).outOfRange hdropped

/-- Where a tree is compiled, each condition becomes one predicate or is told of in one event. The
events come in the order of the tree, each with the reason that applies and with what it names of
its condition; and of an accepted tree only numbers of days are told that lead out of the time
line. -/
theorem drops_account_for_conditions (now : Instant) (node : Node) :
    (node.drops now).length + (node.compile now).predicateCount = node.conditions.length ∧
      (∀ told, List.Forall₂ (Condition.DroppedFor now) (node.dropped now) told ↔
        told = node.drops now) ∧
      List.Forall₂ (fun c d => c.subject ∈ (Log.Event.dropped d).fields) (node.dropped now)
        (node.drops now) ∧
      ∀ rules, node = ofJson rules → problems rules = [] →
        ∀ d ∈ node.drops now, ∃ days, d = .outOfRange .inactiveDays days := by
  have htold : List.Forall₂ (Condition.DroppedFor now) (node.dropped now) (node.drops now) :=
    forall₂_droppedFor_iff.2 rfl
  refine ⟨length_drops_add_predicateCount now node, fun told => forall₂_droppedFor_iff,
    htold.imp fun c d h => h.subject_mem, ?_⟩
  intro rules hnode hproblems d hd
  rw [hnode] at hd
  exact outOfRange_of_mem_drops hproblems hd

/-- Of an accepted tree with a leaf beyond the time line, that leaf is told of. -/
theorem drops_account_for_conditions_halfBeyond :
    problems halfBeyond = [] ∧ ((ofJson halfBeyond).drops leapNoon).length = 1 ∧
      ∀ d ∈ (ofJson halfBeyond).drops leapNoon, ∃ days, d = .outOfRange .inactiveDays days := by
  have haccepted : problems halfBeyond = [] := by decide +kernel
  have hlength : ((ofJson halfBeyond).drops leapNoon).length = 1 := by decide +kernel
  have hall := drops_account_for_conditions leapNoon (ofJson halfBeyond)
  exact ⟨haccepted, hlength, hall.2.2.2 halfBeyond rfl haccepted⟩

end Node

end Segmentation.Rule
