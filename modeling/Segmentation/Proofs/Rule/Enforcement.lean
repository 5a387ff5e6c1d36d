import Segmentation.Proofs.Rule.Meaning
import Segmentation.Rule.Validation

namespace Segmentation.Rule

/-- An object with neither a combinator nor a child list is meant as a condition. -/
def isLeaf (members : List (String × Json)) : Bool :=
  !(Json.hasMember "combinator" members || Json.hasMember "rules" members ||
    Json.hasMember "children" members)

mutual

def leaves : Json → List (List (String × Json))
  | .obj members =>
    if isLeaf members then [members] else leavesAt (childKey members) members
  | _ => []
termination_by structural j => j

def leavesAt (key : String) : List (String × Json) → List (List (String × Json))
  | [] => []
  | (k, .arr items) :: rest => if k = key then leavesOfItems items else leavesAt key rest
  | (k, _) :: rest => if k = key then [] else leavesAt key rest
termination_by structural members => members

def leavesOfItems : List Json → List (List (String × Json))
  | [] => []
  | j :: rest => leaves j ++ leavesOfItems rest
termination_by structural items => items

end

/-- What a leaf asks for: that a field compares with a number in some way. -/
structure Demand where
  field : Field
  comparator : Comparator
  number : Float
  deriving DecidableEq, Repr

namespace Demand

/-- The demand of a leaf, provided that it names all of its parts. -/
def ofLeaf? (members : List (String × Json)) : Option Demand := do
  let name ← (Json.member? "field" members).bind Json.str?
  let field ← Field.ofName? name
  let symbol ← (Json.member? "operator" members).bind Json.str?
  let operator ← Operator.ofSymbol? symbol
  let comparator ← operator.comparator?
  let value ← Json.member? "value" members
  let operand ← Operand.ofJson? value
  let number ← operand.number?
  return ⟨field, comparator, number⟩

def predicate? (now : Instant) (d : Demand) : Option Filter :=
  match d.field.source with
  | .direct a => some (.compare a d.comparator (.number d.number))
  | .daysSince a => ((span? now d.number).bind now.before?).map fun t =>
    .compare a d.comparator.swap (.timestamp t)

/-- Whether a demand asks for more days than the time line holds on that side of `now`. -/
def isBeyond (now : Instant) (d : Demand) : Bool :=
  match d.field.source with
  | .direct _ => false
  | .daysSince _ => (span? now d.number).isNone

theorem predicate?_eq_none_iff (now : Instant) (d : Demand) :
    d.predicate? now = none ↔ d.isBeyond now = true := by
  rw [predicate?, isBeyond]
  cases d.field.source with
  | direct a => simp
  | daysSince a =>
    cases hs : span? now d.number with
    | none => simp
    | some millis =>
      obtain ⟨t, ht⟩ := exists_before?_of_span? hs
      simp [ht]

end Demand

theorem isGroup_eq_not_isLeaf (members : List (String × Json)) :
    isGroup members = !isLeaf members := by
  rw [isGroup, isLeaf, childKey]
  cases hr : Json.hasMember "rules" members <;> simp [hr]

theorem eq_of_filledText? {key s : String} {members : List (String × Json)}
    (h : filledText? key members = some s) :
    (Json.member? key members).bind Json.str? = some s := by
  rw [filledText?, Option.filter_eq_some_iff] at h
  exact h.1

theorem exists_field_of_fieldProblems {members : List (String × Json)}
    (h : fieldProblems members = []) :
    ∃ name field, filledText? "field" members = some name ∧ Field.ofName? name = some field := by
  rw [fieldProblems] at h
  cases hf : filledText? "field" members with
  | none => simp [hf] at h
  | some name =>
    cases hn : Field.ofName? name with
    | none => simp [hf, hn] at h
    | some field => exact ⟨name, field, rfl, hn⟩

theorem exists_comparator_of_operatorProblems {members : List (String × Json)}
    (h : operatorProblems members = []) :
    ∃ symbol operator comparator, filledText? "operator" members = some symbol ∧
      Operator.ofSymbol? symbol = some operator ∧ operator.comparator? = some comparator := by
  rw [operatorProblems] at h
  cases hf : filledText? "operator" members with
  | none => simp [hf] at h
  | some symbol =>
    cases hs : Operator.ofSymbol? symbol with
    | none => simp [hf, hs] at h
    | some operator =>
      have hexposed : operator.isExposed = true := by
        cases he : operator.isExposed with
        | true => rfl
        | false => simp [hf, hs, he] at h
      cases operator with
      | contains => simp [Operator.isExposed] at hexposed
      | _ => exact ⟨symbol, _, _, rfl, hs, rfl⟩

theorem exists_number_of_valueProblems {members : List (String × Json)} {name : String}
    {field : Field} (hname : filledText? "field" members = some name)
    (hfield : Field.ofName? name = some field) (h : valueProblems members = []) :
    ∃ value operand x, Json.member? "value" members = some value ∧
      Operand.ofJson? value = some operand ∧ operand.number? = some x := by
  rw [valueProblems] at h
  split at h
  · cases h
  · cases h
  · next value _ hvalue =>
    split at h
    · cases h
    · have hnumeric : field.isNumeric = true := by cases field <;> rfl
      simp only [hname, Option.bind_some, hfield, hnumeric, Bool.true_and] at h
      cases ho : Operand.ofJson? value with
      | none => simp [ho] at h
      | some operand =>
        cases hx : operand.number? with
        | none => simp [ho, hx] at h
        | some x => exact ⟨value, operand, x, hvalue, ho, hx⟩

theorem exists_demand_of_conditionProblems {members : List (String × Json)}
    (h : conditionProblems members = []) :
    ∃ d, Demand.ofLeaf? members = some d ∧
      ∀ now, (Condition.ofMembers members).predicate? now = d.predicate? now := by
  rw [conditionProblems, List.append_eq_nil_iff, List.append_eq_nil_iff] at h
  obtain ⟨⟨hf, ho⟩, hv⟩ := h
  obtain ⟨name, field, hname, hfield⟩ := exists_field_of_fieldProblems hf
  obtain ⟨symbol, operator, comparator, hsymbol, hoperator, hcomparator⟩ :=
    exists_comparator_of_operatorProblems ho
  obtain ⟨value, operand, x, hvalue, hoperand, hx⟩ := exists_number_of_valueProblems hname hfield hv
  have hn := eq_of_filledText? hname
  have hs := eq_of_filledText? hsymbol
  refine ⟨⟨field, comparator, x⟩, ?_, fun now => ?_⟩
  · simp [Demand.ofLeaf?, hn, hfield, hs, hoperator, hcomparator, hvalue, hoperand, hx]
  · simp only [Condition.predicate?, Condition.ofMembers, Condition.compile, hn, hs, hvalue,
      Option.bind_some, hfield, hoperator, hoperand, hcomparator, Condition.compileComparison, hx,
      Demand.predicate?]
    cases field.source with
    | direct a => rfl
    | daysSince a =>
      simp only [cutoff?_eq_span?]
      cases (span? now x).bind now.before? <;> rfl

mutual

theorem conditions_ofJson {j : Json} (h : nodeProblems j = []) :
    (Node.ofJson j).conditions = (leaves j).map Condition.ofMembers ∧
      ∀ members ∈ leaves j, conditionProblems members = [] := by
  cases j with
  | obj members =>
    rw [nodeProblems] at h
    rw [Node.ofJson, leaves]
    rw [isGroup_eq_not_isLeaf] at h ⊢
    cases hleaf : isLeaf members with
    | true =>
      simp only [hleaf, Bool.not_true, Bool.false_eq_true, if_false] at h
      simpa [Node.conditions] using h
    | false =>
      simp only [hleaf, Bool.not_false, if_true, Bool.false_eq_true, if_false] at h ⊢
      cases hname : combinatorText? members with
      | none => simp [hname] at h
      | some name =>
        cases hbelow : problemsAt (childKey members) members with
        | none => simp [hname, hbelow] at h
        | some below =>
          simp only [hname, hbelow, List.append_eq_nil_iff] at h
          obtain ⟨nodes, hnodes, hconditions⟩ :=
            conditionsOfAll_nodesAt (hbelow.trans (by rw [h.2]))
          simpa [hnodes, Node.conditions] using hconditions
  | _ => simp [nodeProblems] at h

theorem conditionsOfAll_nodesAt {key : String} {members : List (String × Json)}
    (h : problemsAt key members = some []) :
    ∃ nodes, Node.nodesAt key members = some nodes ∧
      Node.conditionsOfAll nodes = (leavesAt key members).map Condition.ofMembers ∧
      ∀ leaf ∈ leavesAt key members, conditionProblems leaf = [] := by
  cases members with
  | nil => simp [problemsAt] at h
  | cons member rest =>
    obtain ⟨k, value⟩ := member
    by_cases hk : k = key
    · cases value with
      | arr items =>
        simp only [problemsAt, hk, if_true, Option.some.injEq] at h
        exact ⟨Node.ofItems items, by simp [Node.nodesAt, hk], by
          simpa [leavesAt, hk] using conditionsOfAll_ofItems h⟩
      | _ => simp [problemsAt, hk] at h
    · have hrest : problemsAt key rest = some [] := by
        cases value <;> simpa [problemsAt, hk] using h
      obtain ⟨nodes, hnodes, hconditions⟩ := conditionsOfAll_nodesAt hrest
      refine ⟨nodes, ?_, ?_⟩
      · cases value <;> simpa [Node.nodesAt, hk] using hnodes
      · cases value <;> simpa [leavesAt, hk] using hconditions

theorem conditionsOfAll_ofItems {items : List Json} (h : itemProblems items = []) :
    Node.conditionsOfAll (Node.ofItems items) = (leavesOfItems items).map Condition.ofMembers ∧
      ∀ leaf ∈ leavesOfItems items, conditionProblems leaf = [] := by
  cases items with
  | nil => simp [Node.ofItems, Node.conditionsOfAll, leavesOfItems]
  | cons j rest =>
    rw [itemProblems, List.append_eq_nil_iff] at h
    obtain ⟨hj, hjleaves⟩ := conditions_ofJson h.1
    obtain ⟨hrest, hrestleaves⟩ := conditionsOfAll_ofItems h.2
    rw [Node.ofItems, Node.conditionsOfAll, leavesOfItems, List.map_append, hj, hrest]
    refine ⟨rfl, fun leaf hleaf => ?_⟩
    cases List.mem_append.mp hleaf with
    | inl hl => exact hjleaves leaf hl
    | inr hr => exact hrestleaves leaf hr

end

theorem nodeProblems_of_problems {rules : Json} (h : problems rules = []) :
    nodeProblems rules = [] := by
  cases rules with
  | obj members => exact h
  | _ => simp [problems] at h

theorem exists_demands {ls : List (List (String × Json))}
    (h : ∀ leaf ∈ ls, conditionProblems leaf = []) :
    ∃ demands : List Demand, ls.map Demand.ofLeaf? = demands.map some ∧
      ∀ now, (ls.map Condition.ofMembers).filterMap (Condition.predicate? now) =
        demands.filterMap (Demand.predicate? now) := by
  induction ls with
  | nil => exact ⟨[], rfl, fun _ => rfl⟩
  | cons leaf rest ih =>
    obtain ⟨d, hd, hcompile⟩ := exists_demand_of_conditionProblems (h leaf List.mem_cons_self)
    obtain ⟨demands, hdemands, hrest⟩ := ih fun l hl => h l (List.mem_cons_of_mem leaf hl)
    refine ⟨d :: demands, by rw [List.map_cons, hd, hdemands, List.map_cons], fun now => ?_⟩
    rw [List.map_cons, List.filterMap_cons, List.filterMap_cons, hcompile now, hrest now]

theorem length_filterMap_predicate? (now : Instant) (demands : List Demand) :
    (demands.filterMap (Demand.predicate? now)).length + demands.countP (Demand.isBeyond now) =
      demands.length := by
  induction demands with
  | nil => rfl
  | cons d rest ih =>
    have hd := d.predicate?_eq_none_iff now
    cases hp : d.predicate? now with
    | none =>
      rw [List.filterMap_cons_none hp, List.countP_cons_of_pos (hd.mp hp), List.length_cons]
      omega
    | some f =>
      have hb : ¬ d.isBeyond now = true := fun hb => by simp [hp] at hd; simp [hd] at hb
      rw [List.filterMap_cons_some hp, List.countP_cons_of_neg hb, List.length_cons,
        List.length_cons]
      omega

/-- Of an accepted tree every leaf demands something, and the filter enforces the demands one by
one, save those beyond the time line. So it selects every record only where it enforces none. -/
theorem predicates_compileRules {rules : Json} (h : problems rules = []) (now : Instant) :
    ∃ demands : List Demand, (leaves rules).map Demand.ofLeaf? = demands.map some ∧
      (compileRules now rules).predicates = demands.filterMap (Demand.predicate? now) ∧
      (∀ d ∈ demands, d.predicate? now = none ↔ d.isBeyond now = true) ∧
      (compileRules now rules).predicateCount + demands.countP (Demand.isBeyond now) =
        (leaves rules).length ∧
      ((compileRules now rules).isMatchAll = true ↔ ∀ d ∈ demands, d.isBeyond now = true) := by
  obtain ⟨hconditions, hleaves⟩ := conditions_ofJson (nodeProblems_of_problems h)
  obtain ⟨demands, hdemands, hcompile⟩ := exists_demands hleaves
  have hpredicates : (compileRules now rules).predicates =
      demands.filterMap (Demand.predicate? now) := by
    rw [compileRules, Node.predicates_compile, hconditions, hcompile now]
  have hlength : (leaves rules).length = demands.length := by
    simpa using congrArg List.length hdemands
  refine ⟨demands, hdemands, hpredicates, fun d _ => d.predicate?_eq_none_iff now, ?_, ?_⟩
  · rw [← Filter.length_predicates, hpredicates, hlength]
    exact length_filterMap_predicate? now demands
  · rw [compileRules, Node.isMatchAll_compile_iff, ← compileRules, hpredicates,
      List.filterMap_eq_nil_iff]
    exact forall₂_congr fun d _ => d.predicate?_eq_none_iff now

def halfBeyond : Json :=
  .obj [("combinator", .str "and"), ("rules", .arr
    [.obj [("field", .str "spend"), ("operator", .str ">"), ("value", .int 1000)],
      .obj [("field", .str "inactiveDays"), ("operator", .str ">"), ("value", .num 1e300)]])]

theorem predicates_compileRules_halfBeyond :
    problems halfBeyond = [] ∧ ∃ demands : List Demand,
      (leaves halfBeyond).map Demand.ofLeaf? = demands.map some ∧
      (compileRules Node.leapNoon halfBeyond).predicates =
        demands.filterMap (Demand.predicate? Node.leapNoon) ∧
      (∀ d ∈ demands, d.predicate? Node.leapNoon = none ↔ d.isBeyond Node.leapNoon = true) ∧
      (compileRules Node.leapNoon halfBeyond).predicateCount +
        demands.countP (Demand.isBeyond Node.leapNoon) = (leaves halfBeyond).length ∧
      ((compileRules Node.leapNoon halfBeyond).isMatchAll = true ↔
        ∀ d ∈ demands, d.isBeyond Node.leapNoon = true) := by
  have h : problems halfBeyond = [] := by decide +kernel
  exact ⟨h, predicates_compileRules h Node.leapNoon⟩

def beyond : Json :=
  .obj [("field", .str "inactiveDays"), ("operator", .str ">"), ("value", .num 1e300)]

/-- An accepted leaf may be lost, and then the filter selects every record. -/
theorem isMatchAll_compileRules_beyond :
    problems beyond = [] ∧ (leaves beyond).length = 1 ∧
      (compileRules Node.leapNoon beyond).predicateCount = 0 ∧
      (compileRules Node.leapNoon beyond).isMatchAll = true := by
  decide +kernel

end Segmentation.Rule
