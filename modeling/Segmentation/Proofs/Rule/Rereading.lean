import Segmentation.Proofs.Json.Numbers
import Segmentation.Proofs.Rule.Enforcement
import Segmentation.Proofs.Rule.Grammar

namespace Segmentation.Rule

/-- Whether an operand is read again once it is written. -/
def Operand.isLegible : Operand → Bool
  | .number x => Binary64.isFinite x
  | .text s => !Text.isBlankText s

def Condition.legible (c : Condition) : Condition :=
  { c with operand := c.operand.filter Operand.isLegible }

namespace Node

mutual

/-- The tree without the operands that are not read again. -/
def legible : Node → Node
  | .group combinator rules => .group combinator (legibleAll rules)
  | .condition c => .condition c.legible

def legibleAll : List Node → List Node
  | [] => []
  | node :: rest => legible node :: legibleAll rest

end

end Node

theorem Operand.ofJson?_toJson (o : Operand) :
    ofJson? o.toJson = (some o).filter isLegible := by
  cases o with
  | number x =>
    rw [toJson, Json.ofFloat]
    by_cases hx : Binary64.isFinite x = true
    · rw [if_pos hx]
      exact (if_pos hx).symm
    · rw [if_neg hx]
      exact (if_neg hx).symm
  | text s =>
    by_cases hs : Text.isBlankText s = true <;>
      simp [toJson, ofJson?, Option.filter, isLegible, hs]

theorem Operand.isLegible_of_number? {o : Operand} {x : Float} (h : o.number? = some x) :
    o.isLegible = true := by
  obtain ⟨ho, hx⟩ := number?_eq_some_iff.1 h
  rcases ho with rfl | ⟨s, rfl, hreads⟩
  · exact hx
  · cases hblank : Text.isBlankText s with
    | false => simp [isLegible, hblank]
    | true =>
      rw [readFloat?_of_isBlankText hblank] at hreads
      cases hreads

theorem Operand.isLegible_of_ofJson? {j : Json} {o : Operand} (proper : j.isProper = true)
    (h : ofJson? j = some o) : o.isLegible = true := by
  cases j with
  | int n =>
    cases h
    exact Json.isFinite_of_isProper proper rfl
  | num x =>
    cases h
    exact Json.isFinite_of_isProper proper rfl
  | str s =>
    rw [ofJson?] at h
    split at h
    · cases h
    · next hblank =>
      cases h
      simpa [isLegible] using hblank
  | null | bool | arr | obj => cases h

namespace Condition

theorem ofMembers_toMembers (c : Condition) : ofMembers c.toMembers = c.legible := by
  obtain ⟨field, operator, operand⟩ := c
  have hfield : ∀ f : Field, Field.ofName? f.name = some f := Field.ofName?_name
  have hoperator : ∀ o : Operator, Operator.ofSymbol? o.symbol = some o := Operator.ofSymbol?_symbol
  cases field <;> cases operator <;> cases operand <;>
    simp [ofMembers, toMembers, legible, Json.member?, Table.lookup, Json.str?, hfield, hoperator,
      Operand.ofJson?_toJson]

theorem isGroup_toMembers (c : Condition) : isGroup c.toMembers = false := by
  obtain ⟨field, operator, operand⟩ := c
  cases field <;> cases operator <;> cases operand <;>
    simp [isGroup, childKey, Json.hasMember, toMembers, Json.member?, Table.lookup]

theorem legible_eq_self {c : Condition} (h : ∀ o, c.operand = some o → o.isLegible = true) :
    c.legible = c := by
  obtain ⟨field, operator, operand⟩ := c
  cases operand with
  | none => rfl
  | some o => simp [legible, Option.filter_some, h o rfl]

theorem IsWhole.legible_eq {c : Condition} (h : c.IsWhole) : c.legible = c := by
  obtain ⟨-, -, ⟨operand, x, hoperand, hx⟩⟩ := h
  apply legible_eq_self
  intro o ho
  rw [hoperand] at ho
  cases ho
  exact Operand.isLegible_of_number? hx

end Condition

namespace Node

theorem isGroup_toJson (combinator : Combinator) (items : List Json) :
    isGroup [("combinator", .str combinator.name), ("rules", .arr items)] = true :=
  rfl

theorem groupParts?_toJson (combinator : Combinator) (items : List Json) :
    groupParts? [("combinator", .str combinator.name), ("rules", .arr items)] =
      some (combinator.name, items) :=
  rfl

theorem problems_toJson (node : Node) : problems node.toJson = nodeProblems node.toJson := by
  cases node <;> rfl

theorem ofUserName?_name (combinator : Combinator) :
    Combinator.ofUserName? combinator.name = some combinator := by
  cases combinator <;> decide

mutual

theorem ofJson_toJson (node : Node) : ofJson node.toJson = node.legible := by
  cases node with
  | condition c =>
    rw [toJson, ofJson_condition c.isGroup_toMembers, c.ofMembers_toMembers, legible]
  | group combinator rules =>
    rw [toJson, ofJson_group (isGroup_toJson _ _), groupParts?_toJson, legible]
    simp only [ofUserName?_name, Option.getD_some]
    rw [map_ofJson_toItems rules]

theorem map_ofJson_toItems (nodes : List Node) : (toItems nodes).map ofJson = legibleAll nodes := by
  cases nodes with
  | nil => rfl
  | cons node rest =>
    rw [toItems, List.map_cons, ofJson_toJson node, map_ofJson_toItems rest, legibleAll]

end

mutual

theorem legible_eq_self {node : Node} (h : ∀ c ∈ node.conditions, c.legible = c) :
    node.legible = node := by
  cases node with
  | condition c => rw [legible, h c (List.mem_singleton.2 rfl)]
  | group combinator rules => rw [legible, legibleAll_eq_self h]

theorem legibleAll_eq_self {nodes : List Node} (h : ∀ c ∈ conditionsOfAll nodes, c.legible = c) :
    legibleAll nodes = nodes := by
  cases nodes with
  | nil => rfl
  | cons node rest =>
    rw [conditionsOfAll, List.forall_mem_append] at h
    rw [legibleAll, legible_eq_self h.1, legibleAll_eq_self h.2]

end

mutual

theorem nodeProblems_toJson {node : Node} (h : ∀ c ∈ node.conditions, c.IsWhole) :
    nodeProblems node.toJson = [] := by
  cases node with
  | condition c =>
    have hwhole := h c (List.mem_singleton.2 rfl)
    rw [toJson, nodeProblems_condition c.isGroup_toMembers, conditionProblems_eq_nil_iff,
      c.ofMembers_toMembers, hwhole.legible_eq]
    exact hwhole
  | group combinator rules =>
    rw [toJson, nodeProblems_group (isGroup_toJson _ _), groupParts?_toJson,
      List.append_eq_nil_iff, combinatorProblems_eq_nil_iff]
    exact ⟨⟨combinator, ofUserName?_name combinator⟩, flatMap_nodeProblems_toItems h⟩

theorem flatMap_nodeProblems_toItems {nodes : List Node}
    (h : ∀ c ∈ conditionsOfAll nodes, c.IsWhole) : (toItems nodes).flatMap nodeProblems = [] := by
  cases nodes with
  | nil => rfl
  | cons node rest =>
    rw [conditionsOfAll, List.forall_mem_append] at h
    rw [toItems, List.flatMap_cons, nodeProblems_toJson h.1, flatMap_nodeProblems_toItems h.2]
    rfl

end

theorem legible_of_mem_conditions {j : Json} (proper : j.isProper = true) :
    ∀ c ∈ (ofJson j).conditions, c.legible = c := by
  induction j using Json.inductionOn with
  | other j hother =>
    rw [ofJson_other hother]
    intro c hc
    cases List.mem_singleton.1 hc
    rfl
  | obj members ih =>
    have hmembers := Json.areProperMembers_eq_true_iff.1 proper
    intro c hc
    cases hgroup : isGroup members with
    | false =>
      rw [ofJson_condition hgroup] at hc
      cases List.mem_singleton.1 hc
      apply Condition.legible_eq_self
      intro o ho
      obtain ⟨value, hvalue, hread⟩ := Option.bind_eq_some_iff.1 ho
      exact Operand.isLegible_of_ofJson? (hmembers _ (Json.mem_of_member? hvalue)) hread
    | true =>
      rw [ofJson_group hgroup] at hc
      cases hparts : groupParts? members with
      | none =>
        rw [hparts] at hc
        cases List.mem_singleton.1 hc
        rfl
      | some parts =>
        obtain ⟨name, items⟩ := parts
        have hmember := exists_member_of_groupParts? hparts
        have hitems := Json.areProper_eq_true_iff.1 (hmembers _ (Json.mem_of_member? hmember))
        rw [hparts] at hc
        simp only [conditions, conditionsOfAll_eq_flatMap, List.mem_flatMap, List.mem_map] at hc
        obtain ⟨-, ⟨item, hitem, rfl⟩, hc⟩ := hc
        exact ih _ _ hmember item hitem (hitems item hitem) c hc

end Node

/-- A tree that is written is read again without the values that JSON cannot tell from none, and
with all else; so a tree that was read from JSON is read again as it is. An accepted tree is
accepted again when it was read and written, and its filter is the same at all times. -/
theorem written_trees_are_reread :
    (∀ node : Node, Node.ofJson node.toJson = node.legible) ∧
    (∀ tree : Json, tree.isProper = true →
      Node.ofJson (Node.ofJson tree).toJson = Node.ofJson tree) ∧
    ∀ tree : Json, problems tree = [] → problems (Node.ofJson tree).toJson = [] ∧
      ∀ now, compileRules now (Node.ofJson tree).toJson = compileRules now tree := by
  refine ⟨Node.ofJson_toJson, fun tree proper => ?_, fun tree accepted => ?_⟩
  · rw [Node.ofJson_toJson]
    exact Node.legible_eq_self (Node.legible_of_mem_conditions proper)
  · have hwhole := ((nodeProblems_eq_nil_iff tree).1 (nodeProblems_of_problems accepted)).whole
    constructor
    · rw [Node.problems_toJson]
      exact Node.nodeProblems_toJson hwhole
    · intro now
      have hlegible := Node.legible_eq_self fun c hc => (hwhole c hc).legible_eq
      rw [compileRules, compileRules, Node.ofJson_toJson, hlegible]

def scribbled : Json :=
  .obj [("combinator", .str "xor"), ("rules", .arr
    [.obj [("field", .str "visits"), ("operator", .str ">"), ("value", .int 18446744073709551615)],
      .obj [("operator", .str "contains"), ("value", .str " \t"), ("field", .str "spend")],
      .null])]

def informal : Json :=
  .obj [("children", .arr
      [.obj [("value", .str " 7 "), ("field", .str "inactiveDays"), ("operator", .str ">=")],
        .obj [("combinator", .str "AND"), ("rules", .arr [])]]),
    ("combinator", .str "Or")]

theorem written_trees_are_reread_informal :
    (scribbled.isProper = true ∧
      Node.ofJson (Node.ofJson scribbled).toJson = Node.ofJson scribbled) ∧
    problems informal = [] ∧ problems (Node.ofJson informal).toJson = [] ∧
      ∀ now, compileRules now (Node.ofJson informal).toJson = compileRules now informal := by
  obtain ⟨-, hread, haccepted⟩ := written_trees_are_reread
  have hproper : scribbled.isProper = true := by decide +kernel
  have hproblems : problems informal = [] := by decide +kernel
  exact ⟨⟨hproper, hread scribbled hproper⟩, hproblems, haccepted informal hproblems⟩

end Segmentation.Rule
