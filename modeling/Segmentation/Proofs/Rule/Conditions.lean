import Segmentation.Compilation

namespace Segmentation

namespace Filter

mutual

def predicates : Filter → List Filter
  | .matchAll => []
  | .group _ clauses => predicatesOfAll clauses
  | .compare a comparator value => [.compare a comparator value]
  | .pattern a text => [.pattern a text]

def predicatesOfAll : List Filter → List Filter
  | [] => []
  | clause :: rest => predicates clause ++ predicatesOfAll rest

end

mutual

theorem length_predicates (f : Filter) : f.predicates.length = f.predicateCount := by
  cases f with
  | matchAll => rfl
  | group combinator clauses => exact length_predicatesOfAll clauses
  | compare a comparator value => rfl
  | pattern a text => rfl

theorem length_predicatesOfAll (clauses : List Filter) :
    (predicatesOfAll clauses).length = predicateCounts clauses := by
  cases clauses with
  | nil => rfl
  | cons clause rest =>
    rw [predicatesOfAll, predicateCounts, List.length_append, length_predicates clause,
      length_predicatesOfAll rest]

end

theorem predicatesOfAll_append (fs gs : List Filter) :
    predicatesOfAll (fs ++ gs) = predicatesOfAll fs ++ predicatesOfAll gs := by
  induction fs with
  | nil => rfl
  | cons f rest ih => simp only [List.cons_append, predicatesOfAll, ih, List.append_assoc]

theorem mem_predicates_group {combinator : Rule.Combinator} {clauses : List Filter} {f p : Filter}
    (hf : f ∈ clauses) (hp : p ∈ f.predicates) : p ∈ (group combinator clauses).predicates := by
  rw [predicates]
  induction clauses with
  | nil => cases hf
  | cons clause rest ih =>
    rw [predicatesOfAll, List.mem_append]
    rcases List.mem_cons.1 hf with rfl | hf
    · exact .inl hp
    · exact .inr (ih hf)

def group? (combinator : Rule.Combinator) : List Filter → Option Filter
  | [] => none
  | clauses => some (.group combinator clauses)

theorem predicatesOfAll_group? (combinator : Rule.Combinator) (clauses : List Filter) :
    predicatesOfAll (group? combinator clauses).toList = predicatesOfAll clauses := by
  cases clauses with
  | nil => rfl
  | cons clause rest => exact List.append_nil _

end Filter

namespace Rule

namespace Condition

theorem missing_or_complete (c : Condition) :
    (c.field = none ∨ c.operator = none ∨ c.operand = none) ∨
      ∃ field operator operand, c = ⟨some field, some operator, some operand⟩ := by
  obtain ⟨field, operator, operand⟩ := c
  cases field with
  | none => exact .inl (.inl rfl)
  | some field =>
    cases operator with
    | none => exact .inl (.inr (.inl rfl))
    | some operator =>
      cases operand with
      | none => exact .inl (.inr (.inr rfl))
      | some operand => exact .inr ⟨field, operator, operand, rfl⟩

theorem match_of_missing {α : Type} {c : Condition}
    (h : c.field = none ∨ c.operator = none ∨ c.operand = none)
    (said : Field → Operator → Operand → α) (otherwise : α) :
    (match c.field, c.operator, c.operand with
      | some field, some operator, some operand => said field operator operand
      | _, _, _ => otherwise) = otherwise := by
  split
  · next hfield hoperator hoperand => simp [hfield, hoperator, hoperand] at h
  · rfl

theorem compile_of_missing {c : Condition}
    (h : c.field = none ∨ c.operator = none ∨ c.operand = none) (now : Instant) :
    c.compile now = .error (.incomplete c) :=
  match_of_missing h _ _

/-- The predicate that a condition is compiled to, if it is not dropped. -/
def predicate? (now : Instant) (c : Condition) : Option Filter :=
  (c.compile now).toOption

theorem predicate?_eq_some_iff {now : Instant} {c : Condition} {f : Filter} :
    c.predicate? now = some f ↔ c.compile now = .ok f := by
  rw [predicate?]
  cases c.compile now <;> simp [Except.toOption]

/-- What a condition that is not dropped becomes. -/
inductive Becomes (now : Instant) : Condition → Filter → Prop
  | comparison {field : Field} {operator : Operator} {operand : Operand} {a : Attribute}
    {comparator : Comparator} {x : Float} : operator.comparator? = some comparator →
      field.source = .direct a → operand.number? = some x →
      Becomes now ⟨some field, some operator, some operand⟩ (.compare a comparator (.number x))
  | cutoff {field : Field} {operator : Operator} {operand : Operand} {a : Attribute}
    {comparator : Comparator} {days : Float} {t : Instant} :
      operator.comparator? = some comparator → field.source = .daysSince a →
      operand.number? = some days → cutoff? now days = some t →
      Becomes now ⟨some field, some operator, some operand⟩
        (.compare a comparator.swap (.timestamp t))
  | search {field : Field} {operator : Operator} {operand : Operand} {a : Attribute} :
      operator.comparator? = none → field.source = .direct a →
      Becomes now ⟨some field, some operator, some operand⟩
        (.pattern a (Filter.Pattern.escape operand.toText))

theorem becomes_of_compileComparison {now : Instant} {field : Field} {operator : Operator}
    {operand : Operand} {comparator : Comparator} {f : Filter}
    (hcomparator : operator.comparator? = some comparator)
    (h : compileComparison now field comparator operand = .ok f) :
    Becomes now ⟨some field, some operator, some operand⟩ f := by
  rw [compileComparison] at h
  split at h
  · cases h
  · next x hx =>
    split at h
    · next a ha =>
      cases h
      exact .comparison hcomparator ha hx
    · next a ha =>
      split at h
      · cases h
      · next t ht =>
        cases h
        exact .cutoff hcomparator ha hx ht

theorem becomes_of_compileSearch {now : Instant} {field : Field} {operator : Operator}
    {operand : Operand} {f : Filter} (hcomparator : operator.comparator? = none)
    (h : compileSearch field operand = .ok f) :
    Becomes now ⟨some field, some operator, some operand⟩ f := by
  rw [compileSearch] at h
  split at h
  · next a ha =>
    cases h
    exact .search hcomparator ha
  · cases h

theorem predicate?_of_becomes {now : Instant} {c : Condition} {f : Filter}
    (h : c.Becomes now f) : c.predicate? now = some f := by
  rw [predicate?_eq_some_iff]
  cases h with
  | comparison hcomparator ha hx => simp [compile, compileComparison, hcomparator, ha, hx]
  | cutoff hcomparator ha hx ht => simp [compile, compileComparison, hcomparator, ha, hx, ht]
  | search hcomparator ha => simp [compile, compileSearch, hcomparator, ha]

theorem predicate?_eq_some_iff_becomes {now : Instant} {c : Condition} {f : Filter} :
    c.predicate? now = some f ↔ c.Becomes now f := by
  refine ⟨fun h => ?_, predicate?_of_becomes⟩
  obtain ⟨field, operator, operand⟩ := c
  rw [predicate?_eq_some_iff, compile] at h
  split at h
  · next hfield hoperator hoperand =>
    cases hfield
    cases hoperator
    cases hoperand
    split at h
    · next hcomparator => exact becomes_of_compileComparison hcomparator h
    · next hcomparator => exact becomes_of_compileSearch hcomparator h
  · cases h

theorem predicates_of_predicate? {now : Instant} {c : Condition} {f : Filter}
    (h : c.predicate? now = some f) : f.predicates = [f] := by
  cases predicate?_eq_some_iff_becomes.1 h <;> rfl

end Condition

namespace Node

mutual

def conditions : Node → List Condition
  | .condition c => [c]
  | .group _ rules => conditionsOfAll rules

def conditionsOfAll : List Node → List Condition
  | [] => []
  | node :: rest => conditions node ++ conditionsOfAll rest

end

theorem compile?_group (now : Instant) (combinator : Combinator) (rules : List Node) :
    compile? now (.group combinator rules) = Filter.group? combinator (compileAll now rules) := by
  rw [compile?]
  cases compileAll now rules <;> rfl

mutual

theorem predicates_compile? (now : Instant) (node : Node) :
    Filter.predicatesOfAll (node.compile? now).toList =
      node.conditions.filterMap (Condition.predicate? now) := by
  cases node with
  | condition c =>
    change Filter.predicatesOfAll (c.predicate? now).toList =
      [c].filterMap (Condition.predicate? now)
    cases h : c.predicate? now with
    | none => simp [h, Filter.predicatesOfAll]
    | some f => simp [h, Filter.predicatesOfAll, Condition.predicates_of_predicate? h]
  | group combinator rules =>
    rw [compile?_group, conditions, Filter.predicatesOfAll_group?]
    exact predicates_compileAll now rules

theorem predicates_compileAll (now : Instant) (nodes : List Node) :
    Filter.predicatesOfAll (compileAll now nodes) =
      (conditionsOfAll nodes).filterMap (Condition.predicate? now) := by
  cases nodes with
  | nil => rfl
  | cons node rest =>
    rw [compileAll, conditionsOfAll, Filter.predicatesOfAll_append, List.filterMap_append,
      predicates_compile? now node, predicates_compileAll now rest]

end

theorem predicates_compile (now : Instant) (node : Node) :
    (node.compile now).predicates = node.conditions.filterMap (Condition.predicate? now) := by
  rw [← predicates_compile? now node, compile]
  cases node.compile? now with
  | none => rfl
  | some f => exact (List.append_nil _).symm

mutual

theorem predicates_ne_nil_of_compile? {now : Instant} {node : Node} {f : Filter}
    (h : node.compile? now = some f) : f.predicates ≠ [] := by
  cases node with
  | condition c =>
    rw [Condition.predicates_of_predicate? h]
    exact List.cons_ne_nil _ _
  | group combinator rules =>
    rw [compile?_group] at h
    cases hc : compileAll now rules with
    | nil => simp [hc, Filter.group?] at h
    | cons clause rest =>
      obtain rfl : Filter.group combinator (clause :: rest) = f := by
        simpa [hc, Filter.group?] using h
      have hclause : clause ∈ compileAll now rules := by simp [hc]
      have hne := predicates_ne_nil_of_mem_compileAll hclause
      rw [Filter.predicates, Filter.predicatesOfAll]
      exact fun hnil => hne (List.append_eq_nil_iff.mp hnil).1

theorem predicates_ne_nil_of_mem_compileAll {now : Instant} {nodes : List Node} {f : Filter}
    (h : f ∈ compileAll now nodes) : f.predicates ≠ [] := by
  cases nodes with
  | nil => simp [compileAll] at h
  | cons node rest =>
    rw [compileAll, List.mem_append, Option.mem_toList] at h
    cases h with
    | inl hnode => exact predicates_ne_nil_of_compile? hnode
    | inr hrest => exact predicates_ne_nil_of_mem_compileAll hrest

end

theorem isMatchAll_compile_iff (now : Instant) (node : Node) :
    (node.compile now).isMatchAll = true ↔ (node.compile now).predicates = [] := by
  rw [compile]
  cases h : node.compile? now with
  | none => simp [Filter.isMatchAll, Filter.predicates]
  | some f =>
    have hne := predicates_ne_nil_of_compile? h
    cases f with
    | matchAll => exact absurd rfl hne
    | group combinator clauses => simp [Filter.isMatchAll, hne]
    | compare a comparator value => simp [Filter.isMatchAll, Filter.predicates]
    | pattern a text => simp [Filter.isMatchAll, Filter.predicates]

end Node

end Rule

end Segmentation
