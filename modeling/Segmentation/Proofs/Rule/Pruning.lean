import Mathlib.Data.List.Forall2
import Segmentation.Metrics.Series
import Segmentation.Proofs.Filter.Snapshot
import Segmentation.Proofs.Rule.Meaning
import Segmentation.Sql.Condition

namespace Segmentation

namespace Filter

/-- A filter that asks something in each of its parts: no part of it selects every record or none
whatever the records are. -/
inductive IsNormal : Filter → Prop
  | group {combinator : Rule.Combinator} {clauses : List Filter} :
    clauses ≠ [] → (∀ clause ∈ clauses, IsNormal clause) → IsNormal (.group combinator clauses)
  | number {a : Attribute} {comparator : Rule.Comparator} {x : Float} :
    a = .spend ∨ a = .visits → Binary64.isFinite x = true →
      IsNormal (.compare a comparator (.number x))
  | timestamp {comparator : Rule.Comparator} {t : Instant} :
    IsNormal (.compare .lastOrderDate comparator (.timestamp t))
  | pattern {a : Attribute} {text : String} :
    a = .spend ∨ a = .visits → IsNormal (.pattern a text)

mutual

def parts : Filter → List Filter
  | .matchAll => [.matchAll]
  | .group combinator clauses => .group combinator clauses :: partsOfAll clauses
  | .compare a comparator value => [.compare a comparator value]
  | .pattern a text => [.pattern a text]

def partsOfAll : List Filter → List Filter
  | [] => []
  | clause :: rest => parts clause ++ partsOfAll rest

end

theorem IsNormal.isMatchAll_eq_false {f : Filter} (h : f.IsNormal) : f.isMatchAll = false := by
  cases h <;> rfl

mutual

theorem IsNormal.of_mem_parts {f part : Filter} (h : f.IsNormal) (hpart : part ∈ f.parts) :
    part.IsNormal := by
  cases f with
  | group combinator clauses =>
    cases h with
    | group hne hclauses =>
      rw [parts, List.mem_cons] at hpart
      rcases hpart with rfl | hpart
      · exact .group hne hclauses
      · exact IsNormal.of_mem_partsOfAll hclauses hpart
  | _ =>
    cases List.mem_singleton.1 hpart
    exact h

theorem IsNormal.of_mem_partsOfAll {clauses : List Filter} {part : Filter}
    (h : ∀ clause ∈ clauses, clause.IsNormal) (hpart : part ∈ partsOfAll clauses) :
    part.IsNormal := by
  cases clauses with
  | nil => cases hpart
  | cons clause rest =>
    rw [List.forall_mem_cons] at h
    rw [partsOfAll, List.mem_append] at hpart
    cases hpart with
    | inl hclause => exact IsNormal.of_mem_parts h.1 hclause
    | inr hrest => exact IsNormal.of_mem_partsOfAll h.2 hrest

end

end Filter

namespace Sql.Condition

/-- Whether a filter is written as what it asks, and not as a constant for a group without clauses
or a value of another kind than the column. -/
def isPlain : Filter → Bool
  | .group _ [] => false
  | .compare a _ value => fits a value
  | _ => true

theorem isPlain_of_isNormal {f : Filter} (h : f.IsNormal) : isPlain f = true := by
  cases h with
  | @group combinator clauses hne hclauses =>
    cases clauses with
    | nil => exact absurd rfl hne
    | cons clause rest => rfl
  | number ha hx => rcases ha with rfl | rfl <;> rfl
  | timestamp => rfl
  | pattern ha => rfl

def isConstant (piece : Piece) : Bool :=
  piece == .keyword "TRUE" || piece == .keyword "FALSE"

theorem any_isConstant_ofCompare {a : Attribute} {value : Attribute.Value}
    (h : fits a value = true) (comparator : Rule.Comparator) :
    (ofCompare a comparator value).any isConstant = false := by
  have hfit : (!fits a value) = false := by rw [h]; rfl
  rw [ofCompare, hfit]
  cases a <;> cases comparator <;> cases value <;> rfl

theorem any_isConstant_ofPattern (a : Attribute) (text : String) :
    (ofPattern a text).any isConstant = false := by
  cases a <;> rfl

theorem isConstant_word (combinator : Rule.Combinator) :
    isConstant (.keyword combinator.word) = false := by
  cases combinator <;> rfl

mutual

theorem any_isConstant_of_isNormal {f : Filter} (h : f.IsNormal) :
    (ofFilter f).any isConstant = false := by
  cases f with
  | matchAll => cases h
  | group combinator clauses =>
    cases h with
    | group hne hclauses =>
      cases clauses with
      | nil => exact absurd rfl hne
      | cons clause rest =>
        rw [List.forall_mem_cons] at hclauses
        rw [ofFilter, List.any_cons, List.any_append, List.any_append,
          any_isConstant_of_isNormal hclauses.1, any_isConstant_further combinator hclauses.2]
        rfl
  | compare a comparator value => exact any_isConstant_ofCompare (isPlain_of_isNormal h) comparator
  | pattern a text => exact any_isConstant_ofPattern a text

theorem any_isConstant_further (combinator : Rule.Combinator) {clauses : List Filter}
    (h : ∀ clause ∈ clauses, clause.IsNormal) :
    (further combinator clauses).any isConstant = false := by
  cases clauses with
  | nil => rfl
  | cons clause rest =>
    rw [List.forall_mem_cons] at h
    rw [further, List.any_cons, List.any_append, any_isConstant_of_isNormal h.1,
      any_isConstant_further combinator h.2, isConstant_word]
    rfl

end

end Sql.Condition

namespace Rule

theorem Field.attribute_of_direct {field : Field} {a : Attribute}
    (h : field.source = .direct a) : a = .spend ∨ a = .visits := by
  cases field <;> cases h
  · exact .inl rfl
  · exact .inr rfl

theorem Field.attribute_of_daysSince {field : Field} {a : Attribute}
    (h : field.source = .daysSince a) : a = .lastOrderDate := by
  cases field <;> cases h
  rfl

namespace Condition

/-- Whether a condition constrains the records at an instant. -/
def constrains (now : Instant) (c : Condition) : Bool :=
  match c.field, c.operator, c.operand with
  | some field, some operator, some operand =>
    match operator.comparator?, field.source with
    | some _, .direct _ => operand.number?.isSome
    | some _, .daysSince _ => (operand.number?.bind (span? now)).isSome
    | none, .direct _ => true
    | none, .daysSince _ => false
  | _, _, _ => false

theorem Becomes.isNormal {now : Instant} {c : Condition} {f : Filter} (h : c.Becomes now f) :
    f.IsNormal := by
  cases h with
  | comparison hcomparator ha hx =>
    exact .number (Field.attribute_of_direct ha) (Operand.isFinite_of_number? hx)
  | cutoff hcomparator ha hx ht =>
    rw [Field.attribute_of_daysSince ha]
    exact .timestamp
  | search hcomparator ha => exact .pattern (Field.attribute_of_direct ha)

theorem isSome_cutoff? (now : Instant) (days : Float) :
    (cutoff? now days).isSome = (span? now days).isSome := by
  rw [cutoff?_eq_span?]
  cases h : span? now days with
  | none => rfl
  | some millis =>
    obtain ⟨t, ht⟩ := exists_before?_of_span? h
    rw [Option.bind_some, ht]
    rfl

theorem isSome_predicate? (now : Instant) (c : Condition) :
    (c.predicate? now).isSome = c.constrains now := by
  rw [Bool.eq_iff_iff, Option.isSome_iff_exists]
  simp only [predicate?_eq_some_iff_becomes]
  constructor
  · rintro ⟨f, hf⟩
    cases hf with
    | comparison hcomparator ha hx => simp [constrains, hcomparator, ha, hx]
    | cutoff hcomparator ha hx ht => simp [constrains, hcomparator, ha, hx, ← isSome_cutoff?, ht]
    | search hcomparator ha => simp [constrains, hcomparator, ha]
  · intro h
    obtain ⟨field, operator, operand⟩ := c
    rw [constrains] at h
    split at h
    · next field operator operand hfield hoperator hoperand =>
      cases hfield
      cases hoperator
      cases hoperand
      split at h
      · next hcomparator ha =>
        obtain ⟨x, hx⟩ := Option.isSome_iff_exists.1 h
        exact ⟨_, .comparison hcomparator ha hx⟩
      · next hcomparator ha =>
        obtain ⟨millis, hmillis⟩ := Option.isSome_iff_exists.1 h
        obtain ⟨days, hdays, hspan⟩ := Option.bind_eq_some_iff.1 hmillis
        have hcutoff : (cutoff? now days).isSome = true := by
          rw [isSome_cutoff?, hspan]
          rfl
        obtain ⟨t, ht⟩ := Option.isSome_iff_exists.1 hcutoff
        exact ⟨_, .cutoff hcomparator ha hdays ht⟩
      · next hcomparator ha => exact ⟨_, .search hcomparator ha⟩
      · cases h
    · cases h

end Condition

namespace Node

def group? (combinator : Combinator) : List Node → Option Node
  | [] => none
  | rules => some (.group combinator rules)

mutual

/-- What is left of a tree when all that constrains nothing is taken out of it. -/
def prune? (now : Instant) : Node → Option Node
  | .condition c => if c.constrains now then some (.condition c) else none
  | .group combinator rules => group? combinator (pruneAll now rules)

def pruneAll (now : Instant) : List Node → List Node
  | [] => []
  | node :: rest => (prune? now node).toList ++ pruneAll now rest

end

/-- The tree that is left; an empty one where nothing is. -/
def prune (now : Instant) (node : Node) : Node :=
  (node.prune? now).getD (.group .and [])

inductive IsPruned (now : Instant) : Node → Prop
  | condition {c : Condition} : c.constrains now = true → IsPruned now (.condition c)
  | group {combinator : Combinator} {rules : List Node} : rules ≠ [] →
      (∀ node ∈ rules, IsPruned now node) → IsPruned now (.group combinator rules)

/-- A filter is built like a tree: a group for a group, in the order of the tree, and for each
condition what it becomes. -/
inductive Builds (now : Instant) : Node → Filter → Prop
  | condition {c : Condition} {f : Filter} : c.Becomes now f → Builds now (.condition c) f
  | group {combinator : Combinator} {rules : List Node} {clauses : List Filter} :
      List.Forall₂ (Builds now) rules clauses →
      Builds now (.group combinator rules) (.group combinator clauses)

theorem group?_eq_some_iff {combinator : Combinator} {rules : List Node} {node : Node} :
    group? combinator rules = some node ↔ rules ≠ [] ∧ node = .group combinator rules := by
  cases rules with
  | nil => simp [group?]
  | cons rule rest => simp [group?, eq_comm]

theorem compileAll_toList_append (now : Instant) (left : Option Node) (nodes : List Node) :
    compileAll now (left.toList ++ nodes) =
      (left.bind (compile? now)).toList ++ compileAll now nodes := by
  cases left <;> rfl

mutual

theorem isPruned_of_prune? {now : Instant} {node left : Node} (h : node.prune? now = some left) :
    IsPruned now left := by
  cases node with
  | condition c =>
    rw [prune?] at h
    split at h
    · next hc =>
      cases h
      exact .condition hc
    · cases h
  | group combinator rules =>
    obtain ⟨hne, rfl⟩ := group?_eq_some_iff.1 h
    exact .group hne (isPruned_of_mem_pruneAll now rules)

theorem isPruned_of_mem_pruneAll (now : Instant) (nodes : List Node) :
    ∀ node ∈ pruneAll now nodes, IsPruned now node := by
  cases nodes with
  | nil => exact List.forall_mem_nil _
  | cons node rest =>
    rw [pruneAll, List.forall_mem_append]
    refine ⟨fun left hleft => ?_, isPruned_of_mem_pruneAll now rest⟩
    exact isPruned_of_prune? (Option.mem_toList.1 hleft)

end

mutual

theorem prune?_of_isPruned {now : Instant} {node : Node} (h : IsPruned now node) :
    node.prune? now = some node := by
  cases node with
  | condition c =>
    cases h with
    | condition hc => exact if_pos hc
  | group combinator rules =>
    cases h with
    | group hne hrules =>
      rw [prune?, pruneAll_of_isPruned hrules]
      exact group?_eq_some_iff.2 ⟨hne, rfl⟩

theorem pruneAll_of_isPruned {now : Instant} {nodes : List Node}
    (h : ∀ node ∈ nodes, IsPruned now node) : pruneAll now nodes = nodes := by
  cases nodes with
  | nil => rfl
  | cons node rest =>
    rw [List.forall_mem_cons] at h
    rw [pruneAll, prune?_of_isPruned h.1, pruneAll_of_isPruned h.2]
    rfl

end

theorem conditionsOfAll_toList_append (left : Option Node) (nodes : List Node) :
    conditionsOfAll (left.toList ++ nodes) = conditionsOfAll left.toList ++ conditionsOfAll nodes := by
  cases left with
  | none => rfl
  | some node => exact congrArg (· ++ conditionsOfAll nodes) (List.append_nil _).symm

theorem conditionsOfAll_group? (combinator : Combinator) (rules : List Node) :
    conditionsOfAll (group? combinator rules).toList = conditionsOfAll rules := by
  cases rules with
  | nil => rfl
  | cons rule rest => exact List.append_nil _

mutual

theorem conditions_prune? (now : Instant) (node : Node) :
    conditionsOfAll (node.prune? now).toList = node.conditions.filter (Condition.constrains now) := by
  cases node with
  | condition c => cases h : c.constrains now <;> simp [prune?, conditions, conditionsOfAll, h]
  | group combinator rules =>
    rw [prune?, conditionsOfAll_group?, conditions, conditions_pruneAll now rules]

theorem conditions_pruneAll (now : Instant) (nodes : List Node) :
    conditionsOfAll (pruneAll now nodes) =
      (conditionsOfAll nodes).filter (Condition.constrains now) := by
  cases nodes with
  | nil => rfl
  | cons node rest =>
    rw [pruneAll, conditionsOfAll_toList_append, conditions_prune? now node,
      conditions_pruneAll now rest, conditionsOfAll, List.filter_append]

end

mutual

theorem compile?_prune? (now : Instant) (node : Node) :
    (node.prune? now).bind (compile? now) = node.compile? now := by
  cases node with
  | condition c =>
    rw [prune?]
    split
    · rfl
    · next hc =>
      rw [← c.isSome_predicate? now, Option.not_isSome_iff_eq_none] at hc
      exact hc.symm
  | group combinator rules =>
    rw [prune?, compile?_group, ← compileAll_pruneAll now rules]
    -- A group is taken out just where nothing of it is left, and then nothing is compiled.
    cases pruneAll now rules with
    | nil => rfl
    | cons rule rest => exact compile?_group now combinator _

theorem compileAll_pruneAll (now : Instant) (nodes : List Node) :
    compileAll now (pruneAll now nodes) = compileAll now nodes := by
  cases nodes with
  | nil => rfl
  | cons node rest =>
    rw [pruneAll, compileAll_toList_append, compile?_prune? now node, compileAll_pruneAll now rest,
      compileAll]

end

mutual

theorem exists_builds_of_isPruned {now : Instant} {node : Node} (h : IsPruned now node) :
    ∃ f, node.compile? now = some f ∧ f.IsNormal ∧ Builds now node f := by
  cases node with
  | condition c =>
    cases h with
    | condition hc =>
      rw [← c.isSome_predicate? now] at hc
      obtain ⟨f, hf⟩ := Option.isSome_iff_exists.1 hc
      have hbecomes := Condition.predicate?_eq_some_iff_becomes.1 hf
      exact ⟨f, hf, hbecomes.isNormal, .condition hbecomes⟩
  | group combinator rules =>
    cases h with
    | group hne hrules =>
      obtain ⟨hnormal, hbuilds⟩ := forall₂_builds_of_isPruned hrules
      have hclauses : compileAll now rules ≠ [] := by
        intro hnil
        rw [hnil, List.forall₂_nil_right_iff] at hbuilds
        exact hne hbuilds
      refine ⟨.group combinator (compileAll now rules), ?_, .group hclauses hnormal,
        .group hbuilds⟩
      rw [compile?_group, Filter.group?]
      exact hclauses

theorem forall₂_builds_of_isPruned {now : Instant} {nodes : List Node}
    (h : ∀ node ∈ nodes, IsPruned now node) :
    (∀ clause ∈ compileAll now nodes, clause.IsNormal) ∧
      List.Forall₂ (Builds now) nodes (compileAll now nodes) := by
  cases nodes with
  | nil => exact ⟨List.forall_mem_nil _, .nil⟩
  | cons node rest =>
    rw [List.forall_mem_cons] at h
    obtain ⟨f, hf, hnormal, hbuilds⟩ := exists_builds_of_isPruned h.1
    obtain ⟨hnormals, hrest⟩ := forall₂_builds_of_isPruned h.2
    rw [compileAll, hf]
    exact ⟨List.forall_mem_cons.2 ⟨hnormal, hnormals⟩, .cons hbuilds hrest⟩

end

theorem compile_eq_matchAll_or_builds (now : Instant) (node : Node) :
    node.prune? now = none ∧ node.compile now = .matchAll ∨
      ∃ left, node.prune? now = some left ∧ (node.compile now).IsNormal ∧
        Builds now left (node.compile now) := by
  rw [compile, ← compile?_prune? now node]
  cases h : node.prune? now with
  | none => exact .inl ⟨rfl, rfl⟩
  | some left =>
    obtain ⟨f, hf, hnormal, hbuilds⟩ := exists_builds_of_isPruned (isPruned_of_prune? h)
    rw [Option.bind_some, hf]
    exact .inr ⟨left, rfl, hnormal, hbuilds⟩

theorem compile_prune (now : Instant) (node : Node) :
    (node.prune now).compile now = node.compile now := by
  rw [compile, compile, ← compile?_prune? now node, prune]
  cases node.prune? now <;> rfl

theorem prune_prune (now : Instant) (node : Node) :
    (node.prune now).prune now = node.prune now := by
  rw [prune, prune]
  cases h : node.prune? now with
  | none => rfl
  | some left => rw [Option.getD_some, prune?_of_isPruned (isPruned_of_prune? h), Option.getD_some]

theorem conditions_prune (now : Instant) (node : Node) :
    (node.prune now).conditions = node.conditions.filter (Condition.constrains now) := by
  rw [← conditions_prune? now node, prune]
  cases node.prune? now with
  | none => rfl
  | some left => exact (List.append_nil _).symm

theorem predicateCount_compile_eq_zero_iff (now : Instant) (node : Node) :
    (node.compile now).predicateCount = 0 ↔ (node.compile now).isMatchAll = true := by
  rw [isMatchAll_compile_iff, ← Filter.length_predicates, List.length_eq_zero_iff]

/-- A tree of which nothing is left when all that constrains nothing is pruned, to the last group
around it, is compiled to the filter that selects every record. Any other is compiled to a filter
that asks something in each of its parts and has the groups and the order of what is left. Nothing
else than pruned trees is ever compiled, and a pruned tree is not pruned further.

So a filter without predicates is the one that selects every record, as the label of a compilation
says; and the constants of its written form, which stand for that filter, for a group without
clauses and for a value of another kind than its column, stand for that filter alone. -/
theorem compile_builds_pruned (now : Instant) (node : Node) :
    (node.prune? now = none ∧ node.compile now = .matchAll ∨
      ∃ left, node.prune? now = some left ∧ (node.compile now).IsNormal ∧
        Builds now left (node.compile now)) ∧
    (node.prune now).conditions = node.conditions.filter (Condition.constrains now) ∧
    (node.prune now).compile now = node.compile now ∧
    (node.prune now).prune now = node.prune now ∧
    ((node.compile now).predicateCount = 0 ↔ (node.compile now).isMatchAll = true) ∧
    Metrics.Measurement.matchAllLabel (node.compile now).predicateCount =
      toString (node.compile now).isMatchAll ∧
    (node.compile now).parts.all Sql.Condition.isPlain = true ∧
    (Sql.Condition.ofFilter (node.compile now)).any Sql.Condition.isConstant =
      (node.compile now).isMatchAll := by
  have hform := compile_eq_matchAll_or_builds now node
  have hcount := predicateCount_compile_eq_zero_iff now node
  refine ⟨hform, conditions_prune now node, compile_prune now node, prune_prune now node, hcount,
    ?_, ?_, ?_⟩
  · rw [Metrics.Measurement.matchAllLabel]
    cases h : (node.compile now).isMatchAll with
    | false => exact if_neg fun hzero => absurd (hcount.1 hzero) (by rw [h]; decide)
    | true => exact if_pos (hcount.2 h)
  · rcases hform with ⟨-, hall⟩ | ⟨left, -, hnormal, -⟩
    · rw [hall]
      rfl
    · exact List.all_eq_true.2 fun part hpart =>
        Sql.Condition.isPlain_of_isNormal (hnormal.of_mem_parts hpart)
  · rcases hform with ⟨-, hall⟩ | ⟨left, -, hnormal, -⟩
    · rw [hall]
      rfl
    · rw [Sql.Condition.any_isConstant_of_isNormal hnormal, hnormal.isMatchAll_eq_false]

end Node

end Rule

end Segmentation
