import Segmentation.Proofs.Rule.Acceptance

namespace Segmentation.Rule

/-- The number that a value gives: that of a JSON number, or the one that a text reads as without
the blanks at its ends. -/
inductive Gives : Json → Float → Prop
  | int (n : Int) : Gives (.int n) (Decimal.floatOfInt n)
  | num (x : Float) : Gives (.num x) x
  | text {s : String} {x : Float} (reads : Text.readFloat? (Text.trim s) = some x) :
      Gives (.str s) x

/-- What a group has for its child list: the array under `rules`, or under `children` where there
is no `rules` at all, be it null. -/
def HasItems (members : List (String × Json)) (items : List Json) : Prop :=
  Json.member? "rules" members = some (.arr items) ∨
    Json.member? "rules" members = none ∧ Json.member? "children" members = some (.arr items)

/-- The rule trees. An object with a key of groups is nothing but a group. Keys that are not named
here may be there or not. -/
inductive Grammatical : Json → Prop
  | group {members : List (String × Json)} {name : String} {items : List Json}
      (named : Json.member? "combinator" members = some (.str name))
      (known : Text.sameIgnoringCase name "and" ∨ Text.sameIgnoringCase name "or")
      (children : HasItems members items)
      (below : ∀ item ∈ items, Grammatical item) : Grammatical (.obj members)
  | leaf {members : List (String × Json)} {name symbol : String} {value : Json} {x : Float}
      (noGroup : ∀ key ∈ ["combinator", "rules", "children"], Json.member? key members = none)
      (field : Json.member? "field" members = some (.str name))
      (fieldKnown : name ∈ ["spend", "visits", "inactiveDays"])
      (operator : Json.member? "operator" members = some (.str symbol))
      (operatorKnown : symbol ∈ [">", "<", "=", ">=", "<=", "!="])
      (valueGiven : Json.member? "value" members = some value)
      (number : Gives value x)
      (finite : Binary64.isFinite x) : Grammatical (.obj members)

theorem Combinator.exists_ofUserName?_iff {name : String} : (∃ c, ofUserName? name = some c) ↔
    Text.sameIgnoringCase name "and" ∨ Text.sameIgnoringCase name "or" := by
  constructor
  · rintro ⟨c, hc⟩
    rw [ofUserName?_eq_some_iff] at hc
    cases c with
    | and => exact .inl hc
    | or => exact .inr hc
  · rintro (h | h)
    · exact ⟨.and, ofUserName?_eq_some_iff.2 h⟩
    · exact ⟨.or, ofUserName?_eq_some_iff.2 h⟩

theorem Field.exists_ofName?_iff {name : String} :
    (∃ field, ofName? name = some field) ↔ name ∈ ["spend", "visits", "inactiveDays"] := by
  constructor
  · rintro ⟨field, h⟩
    rw [← name_of_ofName? h]
    cases field <;> decide
  · intro h
    simp only [List.mem_cons, List.not_mem_nil, or_false] at h
    rcases h with rfl | rfl | rfl
    · exact ⟨_, ofName?_name .spend⟩
    · exact ⟨_, ofName?_name .visits⟩
    · exact ⟨_, ofName?_name .inactiveDays⟩

theorem Operator.exists_exposed_iff {symbol : String} :
    (∃ operator, ofSymbol? symbol = some operator ∧ operator.isExposed = true) ↔
      symbol ∈ [">", "<", "=", ">=", "<=", "!="] := by
  constructor
  · rintro ⟨operator, h, hexposed⟩
    rw [← symbol_of_ofSymbol? h]
    cases operator with
    | contains => cases hexposed
    | _ => decide
  · intro h
    simp only [List.mem_cons, List.not_mem_nil, or_false] at h
    rcases h with rfl | rfl | rfl | rfl | rfl | rfl
    · exact ⟨_, ofSymbol?_symbol .greater, rfl⟩
    · exact ⟨_, ofSymbol?_symbol .less, rfl⟩
    · exact ⟨_, ofSymbol?_symbol .equal, rfl⟩
    · exact ⟨_, ofSymbol?_symbol .greaterOrEqual, rfl⟩
    · exact ⟨_, ofSymbol?_symbol .lessOrEqual, rfl⟩
    · exact ⟨_, ofSymbol?_symbol .notEqual, rfl⟩

namespace Operand

theorem number?_eq_some_iff {o : Operand} {x : Float} : o.number? = some x ↔
    (o = .number x ∨ ∃ s, o = .text s ∧ Text.readFloat? (Text.trim s) = some x) ∧
      Binary64.isFinite x := by
  cases o <;> simp [number?, Option.filter_eq_some_iff]

theorem readFloat?_of_isBlankText {s : String} (h : Text.isBlankText s = true) :
    Text.readFloat? (Text.trim s) = none := by
  rw [Text.trim, Text.trimChars_eq_nil_iff.2 h]
  decide

theorem exists_number?_iff {value : Json} {x : Float} :
    (∃ o, ofJson? value = some o ∧ o.number? = some x) ↔
      Gives value x ∧ Binary64.isFinite x := by
  simp only [number?_eq_some_iff]
  constructor
  · rintro ⟨o, ho, hx, hfinite⟩
    refine ⟨?_, hfinite⟩
    cases writes_of_ofJson? ho with
    | int n =>
      obtain hn | ⟨s, hs, -⟩ := hx
      · cases hn
        exact .int n
      · cases hs
    | num y =>
      obtain hy | ⟨s, hs, -⟩ := hx
      · cases hy
        exact .num x
      · cases hs
    | str s =>
      obtain hs | ⟨t, ht, hreads⟩ := hx
      · cases hs
      · cases ht
        exact .text hreads
  · rintro ⟨hgives, hfinite⟩
    cases hgives with
    | int n => exact ⟨_, rfl, .inl rfl, hfinite⟩
    | num x => exact ⟨_, rfl, .inl rfl, hfinite⟩
    | @text s x hreads =>
      have hblank : ¬Text.isBlankText s = true := by
        intro hblank
        rw [readFloat?_of_isBlankText hblank] at hreads
        cases hreads
      exact ⟨.text s, if_neg hblank, .inr ⟨s, rfl, hreads⟩, hfinite⟩

end Operand

section Members

variable {members : List (String × Json)}

theorem bind_str?_eq_some_iff {key s : String} :
    (Json.member? key members).bind Json.str? = some s ↔
      Json.member? key members = some (.str s) := by
  refine ⟨member?_of_bind_str?, fun h => ?_⟩
  rw [h]
  rfl

theorem isGroup_eq_false_iff : isGroup members = false ↔
    ∀ key ∈ ["combinator", "rules", "children"], Json.member? key members = none := by
  refine ⟨member?_of_not_isGroup, fun h => ?_⟩
  have hcombinator := h "combinator" (by simp)
  have hrules := h "rules" (by simp)
  have hchildren := h "children" (by simp)
  simp [isGroup, childKey, Json.hasMember, hcombinator, hrules, hchildren]

theorem childItems?_eq_some_iff {items : List Json} :
    childItems? members = some items ↔ HasItems members items := by
  constructor
  · intro h
    exact member?_of_childKey (member?_of_childItems? h)
  · rintro (h | ⟨hrules, h⟩)
    · simp [childItems?, childKey, Json.hasMember, h, Json.items?]
    · simp [childItems?, childKey, Json.hasMember, hrules, h, Json.items?]

theorem groupParts?_eq_some_iff_hasItems {name : String} {items : List Json} :
    groupParts? members = some (name, items) ↔
      Json.member? "combinator" members = some (.str name) ∧ HasItems members items := by
  rw [groupParts?_eq_some_iff, combinatorText?, bind_str?_eq_some_iff, childItems?_eq_some_iff]

theorem isWhole_ofMembers_iff : (Condition.ofMembers members).IsWhole ↔
    ∃ name symbol value x, Json.member? "field" members = some (.str name) ∧
      name ∈ ["spend", "visits", "inactiveDays"] ∧
      Json.member? "operator" members = some (.str symbol) ∧
      symbol ∈ [">", "<", "=", ">=", "<=", "!="] ∧
      Json.member? "value" members = some value ∧ Gives value x ∧ Binary64.isFinite x := by
  constructor
  · rintro ⟨⟨field, hfield⟩, ⟨operator, hoperator, hexposed⟩, ⟨operand, x, hoperand, hx⟩⟩
    obtain ⟨name, hname, hof⟩ := Option.bind_eq_some_iff.1 hfield
    obtain ⟨symbol, hsymbol, hos⟩ := Option.bind_eq_some_iff.1 hoperator
    obtain ⟨value, hvalue, hov⟩ := Option.bind_eq_some_iff.1 hoperand
    exact ⟨name, symbol, value, x, bind_str?_eq_some_iff.1 hname,
      Field.exists_ofName?_iff.1 ⟨field, hof⟩, bind_str?_eq_some_iff.1 hsymbol,
      Operator.exists_exposed_iff.1 ⟨operator, hos, hexposed⟩, hvalue,
      Operand.exists_number?_iff.1 ⟨operand, hov, hx⟩⟩
  · rintro ⟨name, symbol, value, x, hname, hfield, hsymbol, hoperator, hvalue, hnumber⟩
    obtain ⟨field, hof⟩ := Field.exists_ofName?_iff.2 hfield
    obtain ⟨operator, hos, hexposed⟩ := Operator.exists_exposed_iff.2 hoperator
    obtain ⟨operand, hov, hx⟩ := Operand.exists_number?_iff.2 hnumber
    refine ⟨⟨field, ?_⟩, ⟨operator, ?_, hexposed⟩, ⟨operand, x, ?_, hx⟩⟩
    · exact Option.bind_eq_some_iff.2 ⟨name, bind_str?_eq_some_iff.2 hname, hof⟩
    · exact Option.bind_eq_some_iff.2 ⟨symbol, bind_str?_eq_some_iff.2 hsymbol, hos⟩
    · exact Option.bind_eq_some_iff.2 ⟨value, hvalue, hov⟩

theorem grammatical_leaf_iff (hgroup : isGroup members = false) :
    Grammatical (.obj members) ↔ (Condition.ofMembers members).IsWhole := by
  have noGroup := isGroup_eq_false_iff.1 hgroup
  rw [isWhole_ofMembers_iff]
  constructor
  · intro h
    cases h with
    | group named known children below =>
      rw [noGroup "combinator" (by simp)] at named
      cases named
    | leaf noGroup field fieldKnown operator operatorKnown valueGiven number finite =>
      exact ⟨_, _, _, _, field, fieldKnown, operator, operatorKnown, valueGiven, number, finite⟩
  · rintro ⟨name, symbol, value, x, field, fieldKnown, operator, operatorKnown, valueGiven,
      number, finite⟩
    exact .leaf noGroup field fieldKnown operator operatorKnown valueGiven number finite

theorem grammatical_group_iff (hgroup : isGroup members = true) :
    Grammatical (.obj members) ↔ ∃ name items, groupParts? members = some (name, items) ∧
      (∃ c, Combinator.ofUserName? name = some c) ∧ ∀ item ∈ items, Grammatical item := by
  simp only [groupParts?_eq_some_iff_hasItems, Combinator.exists_ofUserName?_iff]
  constructor
  · intro h
    cases h with
    | group named known children below => exact ⟨_, _, ⟨named, children⟩, known, below⟩
    | leaf noGroup =>
      rw [isGroup_eq_false_iff.2 noGroup] at hgroup
      cases hgroup
  · rintro ⟨name, items, ⟨named, children⟩, known, below⟩
    exact .group named known children below

end Members

theorem nodeProblems_eq_nil_iff_grammatical (j : Json) : nodeProblems j = [] ↔ Grammatical j := by
  -- By induction on the tree: a node and the grammar go down into the same items.
  induction j using Json.inductionOn with
  | other j hother =>
    rw [nodeProblems_other hother]
    refine iff_of_false (List.cons_ne_nil _ _) fun h => ?_
    cases h with
    | group | leaf => exact hother _ rfl
  | obj members ih =>
    cases hgroup : isGroup members with
    | false =>
      rw [nodeProblems_condition hgroup, conditionProblems_eq_nil_iff,
        grammatical_leaf_iff hgroup]
    | true =>
      rw [nodeProblems_group hgroup, grammatical_group_iff hgroup]
      cases hparts : groupParts? members with
      | none => simp
      | some parts =>
        obtain ⟨name, items⟩ := parts
        have hmember := exists_member_of_groupParts? hparts
        have hitems : (∀ item ∈ items, nodeProblems item = []) ↔ ∀ item ∈ items, Grammatical item :=
          forall₂_congr fun item hitem => ih _ _ hmember item hitem
        rw [List.append_eq_nil_iff, combinatorProblems_eq_nil_iff, List.flatMap_eq_nil_iff, hitems]
        constructor
        · intro h
          exact ⟨name, items, rfl, h⟩
        · rintro ⟨name', items', heq, h⟩
          cases heq
          exact h

/-- Nothing is wrong with a tree exactly if it belongs to the language of rule trees. -/
theorem problems_eq_nil_iff_grammatical (tree : Json) : problems tree = [] ↔ Grammatical tree := by
  rw [← nodeProblems_eq_nil_iff_grammatical]
  by_cases hobj : ∃ members, tree = .obj members
  · obtain ⟨members, rfl⟩ := hobj
    rw [problems_obj]
  · have hother : ∀ members, tree ≠ .obj members := fun members h => hobj ⟨members, h⟩
    rw [problems_other hother, nodeProblems_other hother]
    exact iff_of_false (List.cons_ne_nil _ _) (List.cons_ne_nil _ _)

end Segmentation.Rule
