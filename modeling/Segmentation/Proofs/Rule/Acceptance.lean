import Mathlib.Data.List.Forall2
import Segmentation.Proofs.Rule.Conditions
import Segmentation.Proofs.Rule.Structure

namespace Segmentation.Rule

namespace Combinator

theorem lowerAscii_eq_iff (s : String) (c : Combinator) :
    Text.lowerAscii s = c.name ↔ Text.sameIgnoringCase s c.name := by
  have hname : c.name.toList.map Char.toLower = c.name.toList := by cases c <;> rfl
  rw [Text.lowerAscii, Text.sameIgnoringCase, hname, beq_iff_eq, ← String.toList_inj,
    String.toList_ofList]

theorem ofName?_eq_some_iff {s : String} {c : Combinator} : ofName? s = some c ↔ s = c.name := by
  constructor
  · intro h
    unfold ofName? at h
    split at h
    · cases h
      rfl
    · cases h
      rfl
    · cases h
  · rintro rfl
    cases c <;> rfl

theorem ofUserName?_eq_some_iff {s : String} {c : Combinator} :
    ofUserName? s = some c ↔ Text.sameIgnoringCase s c.name := by
  rw [ofUserName?, ofName?_eq_some_iff, lowerAscii_eq_iff]

end Combinator

theorem combinatorProblems_eq_nil_iff {name : String} :
    combinatorProblems name = [] ↔ ∃ c, Combinator.ofUserName? name = some c := by
  rw [combinatorProblems]
  cases Combinator.ofUserName? name <;> simp

theorem Field.name_of_ofName? {s : String} {f : Field} (h : ofName? s = some f) : f.name = s := by
  simpa using List.find?_some h

theorem Operator.symbol_of_ofSymbol? {s : String} {o : Operator} (h : ofSymbol? s = some o) :
    o.symbol = s := by
  simpa using List.find?_some h

/-- Whether a condition has all of its parts, an operator that users may write, and a number to
compare with. -/
structure Condition.IsWhole (c : Condition) : Prop where
  field : ∃ field, c.field = some field
  operator : ∃ operator, c.operator = some operator ∧ operator.isExposed = true
  operand : ∃ operand x, c.operand = some operand ∧ operand.number? = some x

theorem Condition.not_isWhole_incomplete : ¬incomplete.IsWhole := by
  rintro ⟨⟨field, h⟩, -, -⟩
  cases h

section Condition

variable {members : List (String × Json)}

theorem bind_filledText? {α : Type} {read : String → Option α} (hempty : read "" = none)
    (key : String) (members : List (String × Json)) :
    (filledText? key members).bind read = ((Json.member? key members).bind Json.str?).bind read := by
  rw [filledText?]
  cases (Json.member? key members).bind Json.str? with
  | none => rfl
  | some s =>
    by_cases hs : s = ""
    · subst hs
      exact hempty.symm
    · have hfilled : (!s.isEmpty) = true := by simpa using hs
      simp only [Option.filter_some, hfilled, if_true]

theorem bind_field : (filledText? "field" members).bind Field.ofName? =
    (Condition.ofMembers members).field :=
  bind_filledText? rfl "field" members

theorem bind_operator : (filledText? "operator" members).bind Operator.ofSymbol? =
    (Condition.ofMembers members).operator :=
  bind_filledText? rfl "operator" members

theorem fieldProblems_eq_nil_iff : fieldProblems members = [] ↔
    ∃ field, (Condition.ofMembers members).field = some field := by
  rw [← bind_field, fieldProblems]
  cases filledText? "field" members with
  | none => simp
  | some name => cases h : Field.ofName? name <;> simp [h]

theorem operatorProblems_eq_nil_iff : operatorProblems members = [] ↔
    ∃ operator, (Condition.ofMembers members).operator = some operator ∧
      operator.isExposed = true := by
  rw [← bind_operator, operatorProblems]
  cases filledText? "operator" members with
  | none => simp
  | some symbol => cases h : Operator.ofSymbol? symbol <;> simp [h]

theorem valueProblems_eq_nil_iff {field : Field}
    (hfield : (Condition.ofMembers members).field = some field) : valueProblems members = [] ↔
    ∃ operand x, (Condition.ofMembers members).operand = some operand ∧
      operand.number? = some x := by
  have hnumeric : field.isNumeric = true := by cases field <;> rfl
  have hoperand : (Condition.ofMembers members).operand =
      (Json.member? "value" members).bind Operand.ofJson? := rfl
  rw [valueProblems, bind_field, hfield, hoperand]
  cases hvalue : Json.member? "value" members with
  | none => simp
  | some value =>
    cases value with
    | null => simp [Operand.ofJson?]
    | str s =>
      by_cases hblank : Text.isBlankText s = true
      · simp [Json.str?, Operand.ofJson?, hblank]
      · cases hx : (Operand.text s).number? <;>
          simp [Json.str?, Operand.ofJson?, hblank, hnumeric, hx]
    | int n =>
      cases hx : (Operand.number (Decimal.floatOfInt n)).number? <;>
        simp [Json.str?, Operand.ofJson?, hnumeric, hx]
    | num y =>
      cases hx : (Operand.number y).number? <;>
        simp [Json.str?, Operand.ofJson?, hnumeric, hx]
    | bool | arr | obj => simp [Json.str?, Operand.ofJson?, hnumeric]

theorem conditionProblems_eq_nil_iff :
    conditionProblems members = [] ↔ (Condition.ofMembers members).IsWhole := by
  rw [conditionProblems, List.append_eq_nil_iff, List.append_eq_nil_iff,
    fieldProblems_eq_nil_iff, operatorProblems_eq_nil_iff]
  constructor
  · rintro ⟨⟨⟨field, hfield⟩, hoperator⟩, hvalue⟩
    exact ⟨⟨field, hfield⟩, hoperator, (valueProblems_eq_nil_iff hfield).1 hvalue⟩
  · rintro ⟨⟨field, hfield⟩, hoperator, hoperand⟩
    exact ⟨⟨⟨field, hfield⟩, hoperator⟩, (valueProblems_eq_nil_iff hfield).2 hoperand⟩

end Condition

mutual

/-- What the objects that are read as groups have for combinators, in the order of the tree. -/
def groupNames : Json → List String
  | .obj members =>
    if isGroup members then
      match combinatorText? members, groupNamesAt (childKey members) members with
      | some name, some below => name :: below
      | _, _ => []
    else []
  | _ => []
termination_by structural j => j

def groupNamesAt (key : String) : List (String × Json) → Option (List String)
  | [] => none
  | (k, .arr items) :: rest =>
    if k = key then some (groupNamesOfItems items) else groupNamesAt key rest
  | (k, _) :: rest => if k = key then none else groupNamesAt key rest
termination_by structural members => members

def groupNamesOfItems : List Json → List String
  | [] => []
  | j :: rest => groupNames j ++ groupNamesOfItems rest
termination_by structural items => items

end

theorem groupNamesOfItems_eq_flatMap (items : List Json) :
    groupNamesOfItems items = items.flatMap groupNames := by
  induction items with
  | nil => rfl
  | cons item rest ih => rw [groupNamesOfItems, ih, List.flatMap_cons]

theorem groupNamesAt_eq (key : String) (members : List (String × Json)) :
    groupNamesAt key members =
      ((Json.member? key members).bind Json.items?).map groupNamesOfItems := by
  induction members with
  | nil => rfl
  | cons member rest ih =>
    obtain ⟨k, value⟩ := member
    rw [Json.member?_cons]
    by_cases hk : k = key
    · cases value <;> simp [groupNamesAt, hk, Json.items?]
    · cases value <;> simpa [groupNamesAt, hk] using ih

theorem groupNames_condition {members : List (String × Json)} (h : isGroup members = false) :
    groupNames (.obj members) = [] := by
  rw [groupNames, h]
  rfl

theorem groupNames_group {members : List (String × Json)} (h : isGroup members = true) :
    groupNames (.obj members) =
      match groupParts? members with
      | some (name, items) => name :: items.flatMap groupNames
      | none => [] := by
  rw [groupNames, if_pos h, groupNamesAt_eq, groupParts?, childItems?]
  cases combinatorText? members with
  | none => rfl
  | some name =>
    cases (Json.member? (childKey members) members).bind Json.items? with
    | none => rfl
    | some items => exact congrArg (name :: ·) (groupNamesOfItems_eq_flatMap items)

theorem Node.conditionsOfAll_eq_flatMap (nodes : List Node) :
    conditionsOfAll nodes = nodes.flatMap conditions := by
  induction nodes with
  | nil => rfl
  | cons node rest ih => rw [conditionsOfAll, ih, List.flatMap_cons]

/-- Whether nothing was repaired where a value was read: all conditions are whole, and all groups
have the name of a combinator. -/
structure Unrepaired (j : Json) : Prop where
  whole : ∀ c ∈ (Node.ofJson j).conditions, c.IsWhole
  named : ∀ name ∈ groupNames j, ∃ c : Combinator, Text.sameIgnoringCase name c.name

theorem not_unrepaired_of_incomplete {j : Json}
    (h : Node.ofJson j = .condition .incomplete) : ¬Unrepaired j := by
  intro hj
  apply Condition.not_isWhole_incomplete
  apply hj.whole
  rw [h]
  exact List.mem_singleton.2 rfl

theorem unrepaired_condition {members : List (String × Json)} (h : isGroup members = false) :
    Unrepaired (.obj members) ↔ (Condition.ofMembers members).IsWhole := by
  have hconditions : (Node.ofJson (.obj members)).conditions = [.ofMembers members] := by
    rw [Node.ofJson_condition h, Node.conditions]
  constructor
  · intro hj
    apply hj.whole
    rw [hconditions]
    exact List.mem_singleton.2 rfl
  · intro hwhole
    constructor
    · intro c hc
      rw [hconditions, List.mem_singleton] at hc
      rw [hc]
      exact hwhole
    · intro name hname
      rw [groupNames_condition h] at hname
      cases hname

theorem unrepaired_group {members : List (String × Json)} (h : isGroup members = true)
    {name : String} {items : List Json} (hparts : groupParts? members = some (name, items)) :
    Unrepaired (.obj members) ↔
      (∃ c : Combinator, Text.sameIgnoringCase name c.name) ∧ ∀ item ∈ items, Unrepaired item := by
  have hconditions : (Node.ofJson (.obj members)).conditions =
      items.flatMap fun item => (Node.ofJson item).conditions := by
    rw [Node.ofJson_group h, hparts]
    change Node.conditionsOfAll (items.map Node.ofJson) = _
    rw [Node.conditionsOfAll_eq_flatMap, List.flatMap_map]
  have hnames : groupNames (.obj members) = name :: items.flatMap groupNames := by
    rw [groupNames_group h, hparts]
  constructor
  · rintro ⟨hwhole, hnamed⟩
    rw [hconditions] at hwhole
    rw [hnames] at hnamed
    refine ⟨hnamed name List.mem_cons_self, fun item hitem => ⟨fun c hc => ?_, fun s hs => ?_⟩⟩
    · exact hwhole c (List.mem_flatMap.2 ⟨item, hitem, hc⟩)
    · exact hnamed s (List.mem_cons_of_mem name (List.mem_flatMap.2 ⟨item, hitem, hs⟩))
  · rintro ⟨hname, hitems⟩
    constructor
    · intro c hc
      rw [hconditions] at hc
      obtain ⟨item, hitem, hc⟩ := List.mem_flatMap.1 hc
      exact (hitems item hitem).whole c hc
    · intro s hs
      rw [hnames] at hs
      rcases List.mem_cons.1 hs with rfl | hs
      · exact hname
      · obtain ⟨item, hitem, hs⟩ := List.mem_flatMap.1 hs
        exact (hitems item hitem).named s hs

theorem nodeProblems_eq_nil_iff (j : Json) : nodeProblems j = [] ↔ Unrepaired j := by
  induction j using Json.inductionOn with
  | other j hother =>
    rw [nodeProblems_other hother]
    exact iff_of_false (List.cons_ne_nil _ _)
      (not_unrepaired_of_incomplete (Node.ofJson_other hother))
  | obj members ih =>
    cases hgroup : isGroup members with
    | false =>
      rw [nodeProblems_condition hgroup, unrepaired_condition hgroup,
        conditionProblems_eq_nil_iff]
    | true =>
      cases hparts : groupParts? members with
      | none =>
        have hread : Node.ofJson (.obj members) = .condition .incomplete := by
          rw [Node.ofJson_group hgroup, hparts]
        rw [nodeProblems_group hgroup, hparts]
        exact iff_of_false (List.cons_ne_nil _ _) (not_unrepaired_of_incomplete hread)
      | some parts =>
        obtain ⟨name, items⟩ := parts
        have hmember := exists_member_of_groupParts? hparts
        rw [nodeProblems_group hgroup, hparts, unrepaired_group hgroup hparts,
          List.append_eq_nil_iff, combinatorProblems_eq_nil_iff, List.flatMap_eq_nil_iff]
        simp only [Combinator.ofUserName?_eq_some_iff]
        exact and_congr_right fun _ =>
          forall₂_congr fun item hitem => ih _ _ hmember item hitem

/-- How a value in JSON is written as an operand. -/
inductive Operand.Writes : Json → Operand → Prop
  | int (n : Int) : Writes (.int n) (.number (Decimal.floatOfInt n))
  | num (x : Float) : Writes (.num x) (.number x)
  | str (s : String) : Writes (.str s) (.text s)

theorem Operand.writes_of_ofJson? {j : Json} {o : Operand} (h : ofJson? j = some o) :
    Writes j o := by
  cases j with
  | int n =>
    cases h
    exact .int n
  | num x =>
    cases h
    exact .num x
  | str s =>
    rw [ofJson?] at h
    split at h
    · cases h
    · cases h
      exact .str s
  | null | bool | arr | obj => cases h

/-- A rule tree that mirrors a JSON tree object by object: groups with the combinator that is named
and their children in order, and conditions with the parts that are named. -/
inductive Mirrors : Json → Node → Prop
  | group {members : List (String × Json)} {combinator : Combinator} {name : String}
      {items : List Json} {nodes : List Node}
      (named : Json.member? "combinator" members = some (.str name))
      (same : Text.sameIgnoringCase name combinator.name)
      (children : Json.member? "rules" members = some (.arr items) ∨
        Json.member? "rules" members = none ∧
          Json.member? "children" members = some (.arr items))
      (below : List.Forall₂ Mirrors items nodes) :
      Mirrors (.obj members) (.group combinator nodes)
  | leaf {members : List (String × Json)} {field : Field} {operator : Operator} {value : Json}
      {operand : Operand}
      (noGroup : ∀ key ∈ ["combinator", "rules", "children"], Json.member? key members = none)
      (fieldNamed : Json.member? "field" members = some (.str field.name))
      (operatorNamed : Json.member? "operator" members = some (.str operator.symbol))
      (valueGiven : Json.member? "value" members = some value)
      (written : Operand.Writes value operand) :
      Mirrors (.obj members) (.condition ⟨some field, some operator, some operand⟩)

theorem member?_of_bind_str? {key s : String} {members : List (String × Json)}
    (h : (Json.member? key members).bind Json.str? = some s) :
    Json.member? key members = some (.str s) := by
  obtain ⟨value, hvalue, hs⟩ := Option.bind_eq_some_iff.1 h
  cases value with
  | str t =>
    cases hs
    exact hvalue
  | null | bool | int | num | arr | obj => cases hs

theorem member?_of_combinatorText? {members : List (String × Json)} {name : String}
    (h : combinatorText? members = some name) :
    Json.member? "combinator" members = some (.str name) :=
  member?_of_bind_str? h

theorem member?_of_childKey {members : List (String × Json)} {value : Json}
    (h : Json.member? (childKey members) members = some value) :
    Json.member? "rules" members = some value ∨
      Json.member? "rules" members = none ∧ Json.member? "children" members = some value := by
  rw [childKey, Json.hasMember] at h
  cases hrules : Json.member? "rules" members with
  | none =>
    rw [hrules] at h
    exact .inr ⟨rfl, h⟩
  | some rules =>
    rw [hrules] at h
    exact .inl (hrules.symm.trans h)

theorem member?_of_not_isGroup {members : List (String × Json)} (h : isGroup members = false) :
    ∀ key ∈ ["combinator", "rules", "children"], Json.member? key members = none := by
  rw [isGroup, Bool.or_eq_false_iff, childKey, Json.hasMember] at h
  obtain ⟨hcombinator, hchildren⟩ := h
  cases hrules : Json.member? "rules" members with
  | some rules => simp [Json.hasMember, hrules] at hchildren
  | none =>
    simp only [Json.hasMember, hrules, Option.isSome_none, Bool.false_eq_true, if_false,
      Option.isSome_eq_false_iff, Option.isNone_iff_eq_none] at hcombinator hchildren
    simp [hcombinator, hrules, hchildren]

theorem mirrors_ofMembers {members : List (String × Json)} (hgroup : isGroup members = false)
    (h : (Condition.ofMembers members).IsWhole) :
    Mirrors (.obj members) (.condition (.ofMembers members)) := by
  obtain ⟨⟨field, hfield⟩, ⟨operator, hoperator, -⟩, ⟨operand, -, hoperand, -⟩⟩ := h
  obtain ⟨name, hname, hof⟩ := Option.bind_eq_some_iff.1 hfield
  obtain ⟨symbol, hsymbol, hos⟩ := Option.bind_eq_some_iff.1 hoperator
  obtain ⟨value, hvalue, hov⟩ := Option.bind_eq_some_iff.1 hoperand
  have hread : Condition.ofMembers members = ⟨some field, some operator, some operand⟩ := by
    rw [← hfield, ← hoperator, ← hoperand]
  rw [hread]
  refine .leaf (member?_of_not_isGroup hgroup) ?_ ?_ hvalue (Operand.writes_of_ofJson? hov)
  · rw [Field.name_of_ofName? hof]
    exact member?_of_bind_str? hname
  · rw [Operator.symbol_of_ofSymbol? hos]
    exact member?_of_bind_str? hsymbol

theorem mirrors_ofJson {j : Json} (h : nodeProblems j = []) : Mirrors j (Node.ofJson j) := by
  induction j using Json.inductionOn with
  | other j hother =>
    rw [nodeProblems_other hother] at h
    cases h
  | obj members ih =>
    cases hgroup : isGroup members with
    | false =>
      rw [nodeProblems_condition hgroup, conditionProblems_eq_nil_iff] at h
      rw [Node.ofJson_condition hgroup]
      exact mirrors_ofMembers hgroup h
    | true =>
      rw [nodeProblems_group hgroup] at h
      rw [Node.ofJson_group hgroup]
      cases hparts : groupParts? members with
      | none =>
        rw [hparts] at h
        cases h
      | some parts =>
        obtain ⟨name, items⟩ := parts
        rw [hparts, List.append_eq_nil_iff, combinatorProblems_eq_nil_iff,
          List.flatMap_eq_nil_iff] at h
        obtain ⟨⟨combinator, hcombinator⟩, hitems⟩ := h
        have hmember := exists_member_of_groupParts? hparts
        have hnamed := member?_of_combinatorText? (groupParts?_eq_some_iff.1 hparts).1
        simp only [hcombinator, Option.getD_some]
        refine .group hnamed (Combinator.ofUserName?_eq_some_iff.1 hcombinator)
          (member?_of_childKey hmember) ?_
        rw [List.forall₂_map_right_iff, List.forall₂_same]
        exact fun item hitem => ih _ _ hmember item hitem (hitems item hitem)

/-- A tree is accepted exactly if it is an object that is read without a repair, and then what is
read mirrors it. -/
theorem problems_eq_nil_iff_unrepaired (tree : Json) :
    (problems tree = [] ↔ (∃ members, tree = .obj members) ∧ Unrepaired tree) ∧
      (problems tree = [] → Mirrors tree (Node.ofJson tree)) := by
  by_cases hobj : ∃ members, tree = .obj members
  · obtain ⟨members, rfl⟩ := hobj
    rw [problems_obj]
    refine ⟨?_, mirrors_ofJson⟩
    rw [nodeProblems_eq_nil_iff]
    exact (and_iff_right ⟨members, rfl⟩).symm
  · have hother : ∀ members, tree ≠ .obj members := fun members h => hobj ⟨members, h⟩
    rw [problems_other hother]
    refine ⟨iff_of_false (List.cons_ne_nil _ _) fun h => hobj h.1, fun h => ?_⟩
    cases h

/-- A tree that is accepted although its combinators, the key of its children and its number are
not written in the usual way. -/
def oddlyWritten : Json :=
  .obj [("children", .arr
      [.obj [("value", .str " 7 "), ("field", .str "inactiveDays"), ("operator", .str ">=")],
        .obj [("combinator", .str "AND"), ("rules", .arr []), ("children", .null)]]),
    ("combinator", .str "Or")]

theorem problems_eq_nil_iff_unrepaired_oddlyWritten :
    problems oddlyWritten = [] ∧ Unrepaired oddlyWritten ∧
      Mirrors oddlyWritten (.group .or [.condition
        ⟨some .inactiveDays, some .greaterOrEqual, some (.text " 7 ")⟩, .group .and []]) := by
  have h : problems oddlyWritten = [] := by decide +kernel
  obtain ⟨hiff, hmirrors⟩ := problems_eq_nil_iff_unrepaired oddlyWritten
  exact ⟨h, (hiff.1 h).2, hmirrors h⟩

end Segmentation.Rule
