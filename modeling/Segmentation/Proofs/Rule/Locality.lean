import Segmentation.Proofs.Rule.Grammar

namespace Segmentation

theorem Table.place_of_lookup {κ α : Type} [DecidableEq κ] {key : κ} {value : α}
    {entries : List (κ × α)} (h : lookup key entries = some value) :
    place key value entries = entries := by
  induction entries with
  | nil => cases h
  | cons entry rest ih =>
    obtain ⟨k, v⟩ := entry
    rw [lookup] at h
    rw [place]
    by_cases hk : k = key
    · rw [if_pos hk] at h ⊢
      cases h
      rw [hk]
    · rw [if_neg hk] at h ⊢
      rw [ih h]

namespace Rule

inductive Part where
  /-- A node that is no object. -/
  | stray
  /-- An object that is meant as a group and lacks the name of a combinator or a child list. -/
  | malformed
  | combinator (name : String)
  | field (members : List (String × Json))
  | operator (members : List (String × Json))
  | value (members : List (String × Json))

namespace Part

def problems : Part → List Problem
  | stray => [.nodeNotObject]
  | malformed => [.malformedGroup]
  | combinator name => combinatorProblems name
  | field members => fieldProblems members
  | operator members => operatorProblems members
  | value members => valueProblems members

/-- The parts with which nothing is wrong. The value of a leaf has to be a number if its field is
known; a field that is not known does not say what its value has to be. -/
inductive IsSound : Part → Prop
  | combinator {name : String}
      (known : Text.sameIgnoringCase name "and" ∨ Text.sameIgnoringCase name "or") :
      IsSound (.combinator name)
  | field {members : List (String × Json)} {name : String}
      (given : Json.member? "field" members = some (.str name))
      (known : name ∈ ["spend", "visits", "inactiveDays"]) : IsSound (.field members)
  | operator {members : List (String × Json)} {symbol : String}
      (given : Json.member? "operator" members = some (.str symbol))
      (known : symbol ∈ [">", "<", "=", ">=", "<=", "!="]) : IsSound (.operator members)
  | value {members : List (String × Json)} {value : Json}
      (given : Json.member? "value" members = some value) (notNull : value ≠ .null)
      (notBlank : ∀ s, value = .str s → Text.isBlankText s = false)
      (number : ∀ name ∈ ["spend", "visits", "inactiveDays"],
        Json.member? "field" members = some (.str name) → ∃ x, Gives value x ∧ Binary64.isFinite x) :
      IsSound (.value members)

section Members

variable {members : List (String × Json)}

theorem exists_field_iff : (∃ field, (Condition.ofMembers members).field = some field) ↔
    ∃ name ∈ ["spend", "visits", "inactiveDays"],
      Json.member? "field" members = some (.str name) := by
  constructor
  · rintro ⟨field, hfield⟩
    obtain ⟨name, hname, hof⟩ := Option.bind_eq_some_iff.1 hfield
    exact ⟨name, Field.exists_ofName?_iff.1 ⟨field, hof⟩, bind_str?_eq_some_iff.1 hname⟩
  · rintro ⟨name, hknown, hname⟩
    obtain ⟨field, hof⟩ := Field.exists_ofName?_iff.2 hknown
    exact ⟨field, Option.bind_eq_some_iff.2 ⟨name, bind_str?_eq_some_iff.2 hname, hof⟩⟩

theorem isSound_field_iff : (field members).IsSound ↔ fieldProblems members = [] := by
  rw [fieldProblems_eq_nil_iff, exists_field_iff]
  constructor
  · intro h
    cases h with
    | field given known => exact ⟨_, known, given⟩
  · rintro ⟨name, known, given⟩
    exact .field given known

theorem isSound_operator_iff : (operator members).IsSound ↔ operatorProblems members = [] := by
  rw [operatorProblems_eq_nil_iff]
  constructor
  · intro h
    cases h with
    | operator given known =>
      obtain ⟨operator, hof, hexposed⟩ := Operator.exists_exposed_iff.2 known
      exact ⟨operator, Option.bind_eq_some_iff.2 ⟨_, bind_str?_eq_some_iff.2 given, hof⟩, hexposed⟩
  · rintro ⟨operator, hoperator, hexposed⟩
    obtain ⟨symbol, hsymbol, hof⟩ := Option.bind_eq_some_iff.1 hoperator
    exact .operator (bind_str?_eq_some_iff.1 hsymbol)
      (Operator.exists_exposed_iff.1 ⟨operator, hof, hexposed⟩)

theorem valueProblems_eq_nil_iff_of_unknown (h : (Condition.ofMembers members).field = none) :
    valueProblems members = [] ↔ ∃ value, Json.member? "value" members = some value ∧
      value ≠ .null ∧ ∀ s, value = .str s → Text.isBlankText s = false := by
  rw [valueProblems, bind_field, h]
  cases Json.member? "value" members with
  | none => simp
  | some value =>
    cases value with
    | str s => cases hs : Text.isBlankText s <;> simp [Json.str?, hs]
    | null | bool | int | num | arr | obj => simp [Json.str?]

theorem given_of_gives {value : Json} {x : Float} (h : Gives value x) :
    value ≠ .null ∧ ∀ s, value = .str s → Text.isBlankText s = false := by
  cases h with
  | int n => simp
  | num x => simp
  | @text s x reads =>
    refine ⟨Json.noConfusion, fun t ht => ?_⟩
    cases ht
    cases hblank : Text.isBlankText s with
    | false => rfl
    | true =>
      rw [Operand.readFloat?_of_isBlankText hblank] at reads
      cases reads

theorem isSound_value_iff : (value members).IsSound ↔ valueProblems members = [] := by
  cases hfield : (Condition.ofMembers members).field with
  | none =>
    have hunknown : ∀ name ∈ ["spend", "visits", "inactiveDays"],
        Json.member? "field" members ≠ some (.str name) := by
      intro name hknown hname
      obtain ⟨field, hsome⟩ := exists_field_iff.2 ⟨name, hknown, hname⟩
      rw [hfield] at hsome
      cases hsome
    rw [valueProblems_eq_nil_iff_of_unknown hfield]
    constructor
    · intro h
      cases h with
      | value given notNull notBlank number => exact ⟨_, given, notNull, notBlank⟩
    · rintro ⟨value, given, notNull, notBlank⟩
      exact .value given notNull notBlank fun name hknown hname =>
        absurd hname (hunknown name hknown)
  | some field =>
    rw [valueProblems_eq_nil_iff hfield]
    constructor
    · intro h
      cases h with
      | @value _ value given notNull notBlank number =>
        obtain ⟨name, hknown, hname⟩ := exists_field_iff.1 ⟨field, hfield⟩
        obtain ⟨x, hgives⟩ := number name hknown hname
        obtain ⟨operand, hread, hx⟩ := Operand.exists_number?_iff.2 hgives
        exact ⟨operand, x, Option.bind_eq_some_iff.2 ⟨value, given, hread⟩, hx⟩
    · rintro ⟨operand, x, hoperand, hx⟩
      obtain ⟨value, given, hread⟩ := Option.bind_eq_some_iff.1 hoperand
      have hgives := Operand.exists_number?_iff.1 ⟨operand, hread, hx⟩
      obtain ⟨notNull, notBlank⟩ := given_of_gives hgives.1
      exact .value given notNull notBlank fun name hknown hname => ⟨x, hgives⟩

end Members

theorem isSound_iff (part : Part) : part.IsSound ↔ part.problems = [] := by
  cases part with
  | stray =>
    refine iff_of_false (fun h => ?_) (List.cons_ne_nil _ _)
    cases h
  | malformed =>
    refine iff_of_false (fun h => ?_) (List.cons_ne_nil _ _)
    cases h
  | combinator name =>
    rw [problems, combinatorProblems_eq_nil_iff, Combinator.exists_ofUserName?_iff]
    constructor
    · intro h
      cases h with
      | combinator known => exact known
    · intro known
      exact .combinator known
  | field members => exact isSound_field_iff
  | operator members => exact isSound_operator_iff
  | value members => exact isSound_value_iff

theorem length_problems_le_one (part : Part) : part.problems.length ≤ 1 := by
  cases part with
  | stray | malformed => exact Nat.le_refl 1
  | combinator name =>
    rw [problems, combinatorProblems]
    split <;> simp
  | field members =>
    rw [problems, fieldProblems]
    split
    · simp
    · split <;> simp
  | operator members =>
    rw [problems, operatorProblems]
    split
    · simp
    · split <;> simp
  | value members =>
    rw [problems, valueProblems]
    repeat' split
    all_goals simp

end Part

/-- The nodes right below a node; none below a leaf or a malformed group. -/
def children : Json → List Json
  | .obj members =>
    match groupParts? members with
    | some (_, items) => items
    | none => []
  | _ => []

/-- The parts of a node without those of the nodes below it. -/
def ownParts : Json → List Part
  | .obj members =>
    if isGroup members then
      match groupParts? members with
      | some (name, _) => [.combinator name]
      | none => [.malformed]
    else [.field members, .operator members, .value members]
  | _ => [.stray]

theorem exists_groupParts?_of_mem_children {j child : Json} (h : child ∈ children j) :
    ∃ members name, j = .obj members ∧ groupParts? members = some (name, children j) := by
  cases j with
  | obj members =>
    rw [children] at h ⊢
    cases hparts : groupParts? members with
    | none =>
      rw [hparts] at h
      cases h
    | some parts => exact ⟨members, parts.1, rfl, hparts⟩
  | null | bool | int | num | str | arr => cases h

theorem sizeOf_child_lt {j child : Json} (h : child ∈ children j) : sizeOf child < sizeOf j := by
  obtain ⟨members, name, rfl, hparts⟩ := exists_groupParts?_of_mem_children h
  exact Json.sizeOf_item_lt (exists_member_of_groupParts? hparts) h

/-- The parts of a node and of all nodes below it, in the order of the tree. -/
def parts (j : Json) : List Part :=
  ownParts j ++ (children j).attach.flatMap fun child => parts child.1
termination_by sizeOf j
decreasing_by exact sizeOf_child_lt child.2

theorem parts_eq (j : Json) : parts j = ownParts j ++ (children j).flatMap parts := by
  have hbelow : ((children j).attach.flatMap fun child => parts child.1) =
      (children j).flatMap parts := by
    rw [List.flatMap_subtype (g := parts) fun _ _ => rfl, List.unattach_attach]
  rw [parts, hbelow]

theorem parts_leaf {members : List (String × Json)} (h : isGroup members = false) :
    parts (.obj members) = [.field members, .operator members, .value members] := by
  have hcombinator : combinatorText? members = none := by
    rw [combinatorText?, isGroup_eq_false_iff.1 h "combinator" (by simp)]
    rfl
  rw [parts_eq, ownParts, children, groupParts?, h, hcombinator]
  rfl

theorem parts_group {members : List (String × Json)} {name : String} {items : List Json}
    (h : isGroup members = true) (hparts : groupParts? members = some (name, items)) :
    parts (.obj members) = .combinator name :: items.flatMap parts := by
  rw [parts_eq, ownParts, children, if_pos h, hparts]
  rfl

theorem parts_malformed {members : List (String × Json)} (h : isGroup members = true)
    (hparts : groupParts? members = none) : parts (.obj members) = [.malformed] := by
  rw [parts_eq, ownParts, children, if_pos h, hparts]
  rfl

theorem parts_other {j : Json} (h : ∀ members, j ≠ .obj members) : parts j = [.stray] := by
  rw [parts_eq]
  cases j with
  | obj members => exact absurd rfl (h members)
  | null | bool | int | num | str | arr => rfl

theorem nodeProblems_eq_flatMap_parts (j : Json) :
    nodeProblems j = (parts j).flatMap Part.problems := by
  induction j using Json.inductionOn with
  | other j hother =>
    rw [nodeProblems_other hother, parts_other hother]
    rfl
  | obj members ih =>
    cases hgroup : isGroup members with
    | false =>
      rw [nodeProblems_condition hgroup, parts_leaf hgroup, conditionProblems]
      simp [Part.problems]
    | true =>
      rw [nodeProblems_group hgroup]
      cases hparts : groupParts? members with
      | none =>
        rw [parts_malformed hgroup hparts]
        rfl
      | some groupParts =>
        obtain ⟨name, items⟩ := groupParts
        have hbelow : items.flatMap nodeProblems = (items.flatMap parts).flatMap Part.problems := by
          rw [List.flatMap_assoc]
          exact List.flatMap_congr (ih _ _ (exists_member_of_groupParts? hparts))
        rw [parts_group hgroup hparts, List.flatMap_cons, ← hbelow]
        rfl

/-- The node at a place below a node, told by the numbers of the children on the way. -/
def nodeAt? : List Nat → Json → Option Json
  | [], j => some j
  | i :: path, j => (children j)[i]?.bind (nodeAt? path)

def withChildren (items : List Json) : Json → Json
  | .obj members => .obj (Table.place (childKey members) (.arr items) members)
  | j => j

/-- A tree with another node at a place. -/
def replaceAt (new : Json) : List Nat → Json → Json
  | [], _ => new
  | i :: path, j => withChildren ((children j).modify i (replaceAt new path)) j

section WithChildren

variable {members : List (String × Json)} {name : String} {items : List Json}

theorem hasMember_place (key k : String) (value : Json) (members : List (String × Json)) :
    Json.hasMember k (Table.place key value members) =
      (Json.hasMember k members || decide (k = key)) := by
  rw [Json.hasMember, Json.hasMember, Json.member?, Json.member?, Table.lookup_place]
  by_cases hk : k = key <;> simp [hk]

theorem childKey_place (value : Json) (members : List (String × Json)) :
    childKey (Table.place (childKey members) value members) = childKey members := by
  rw [childKey, hasMember_place]
  cases hrules : Json.hasMember "rules" members with
  | true => simp [childKey, hrules]
  | false => simp [childKey, hrules]

theorem childKey_ne_combinator (members : List (String × Json)) :
    "combinator" ≠ childKey members := by
  rw [childKey]
  split <;> decide

theorem groupParts?_place (hparts : groupParts? members = some (name, items))
    (items' : List Json) :
    groupParts? (Table.place (childKey members) (.arr items') members) = some (name, items') := by
  obtain ⟨hname, -⟩ := groupParts?_eq_some_iff.1 hparts
  rw [groupParts?_eq_some_iff]
  constructor
  · rw [combinatorText?, Json.member?, Table.lookup_place, if_neg (childKey_ne_combinator members)]
    exact hname
  · rw [childItems?, childKey_place, Json.member?, Table.lookup_place, if_pos rfl]
    rfl

theorem isGroup_of_groupParts? (hparts : groupParts? members = some (name, items)) :
    isGroup members = true := by
  cases hgroup : isGroup members with
  | true => rfl
  | false =>
    have hnone := isGroup_eq_false_iff.1 hgroup "combinator" (by simp)
    obtain ⟨hname, -⟩ := groupParts?_eq_some_iff.1 hparts
    rw [combinatorText?, hnone] at hname
    cases hname

theorem withChildren_of_groupParts? (hparts : groupParts? members = some (name, items))
    (items' : List Json) :
    children (withChildren items' (.obj members)) = items' ∧
      ownParts (withChildren items' (.obj members)) = ownParts (.obj members) := by
  have hplaced := groupParts?_place hparts items'
  have hgroup := isGroup_of_groupParts? hparts
  have hgroup' := isGroup_of_groupParts? hplaced
  constructor
  · rw [withChildren, children, hplaced]
  · rw [withChildren, ownParts, ownParts, if_pos hgroup, if_pos hgroup', hparts, hplaced]

theorem withChildren_self (hparts : groupParts? members = some (name, items)) :
    withChildren items (.obj members) = .obj members := by
  rw [withChildren, Table.place_of_lookup (exists_member_of_groupParts? hparts)]

end WithChildren

theorem modify_eq_of_getElem? {items : List Json} {i : Nat} {child : Json}
    (h : items[i]? = some child) (f : Json → Json) :
    items.modify i f = items.take i ++ f child :: items.drop (i + 1) := by
  obtain ⟨hi, rfl⟩ := List.getElem?_eq_some_iff.1 h
  rw [List.modify_eq_take_cons_drop hi]

theorem exists_child_of_nodeAt? {i : Nat} {path : List Nat} {j node : Json}
    (h : nodeAt? (i :: path) j = some node) :
    ∃ child, (children j)[i]? = some child ∧ nodeAt? path child = some node := by
  rw [nodeAt?, Option.bind_eq_some_iff] at h
  exact h

theorem replaceAt_cons {i : Nat} {j child : Json} (hchild : (children j)[i]? = some child)
    (new : Json) (path : List Nat) :
    children (replaceAt new (i :: path) j) =
        (children j).take i ++ replaceAt new path child :: (children j).drop (i + 1) ∧
      ownParts (replaceAt new (i :: path) j) = ownParts j := by
  obtain ⟨members, name, rfl, hparts⟩ :=
    exists_groupParts?_of_mem_children (List.mem_of_getElem? hchild)
  rw [replaceAt, ← modify_eq_of_getElem? hchild]
  exact withChildren_of_groupParts? hparts _

theorem replaceAt_self {path : List Nat} {j node : Json} (h : nodeAt? path j = some node) :
    replaceAt node path j = j := by
  induction path generalizing j with
  | nil => exact (Option.some.inj h).symm
  | cons i path ih =>
    obtain ⟨child, hchild, hbelow⟩ := exists_child_of_nodeAt? h
    obtain ⟨members, name, rfl, hparts⟩ :=
      exists_groupParts?_of_mem_children (List.mem_of_getElem? hchild)
    have hsame : (children (.obj members)).modify i (replaceAt node path) =
        children (.obj members) := by
      obtain ⟨hi, hget⟩ := List.getElem?_eq_some_iff.1 hchild
      rw [modify_eq_of_getElem? hchild, ih hbelow, ← hget, ← List.drop_eq_getElem_cons hi,
        List.take_append_drop]
    rw [replaceAt, hsame]
    exact withChildren_self hparts

theorem nodeAt?_replaceAt {path : List Nat} {j node : Json} (h : nodeAt? path j = some node)
    (new : Json) : nodeAt? path (replaceAt new path j) = some new := by
  induction path generalizing j with
  | nil => rfl
  | cons i path ih =>
    obtain ⟨child, hchild, hbelow⟩ := exists_child_of_nodeAt? h
    have hi : i < (children j).length := (List.getElem?_eq_some_iff.1 hchild).1
    have hlength : ((children j).take i).length = i := by simp; omega
    rw [nodeAt?, (replaceAt_cons hchild new path).1, List.getElem?_append_right (by omega),
      hlength, Nat.sub_self]
    exact ih hbelow

theorem parts_replaceAt {path : List Nat} {j node : Json} (h : nodeAt? path j = some node) :
    ∃ pre post, ∀ new, parts (replaceAt new path j) = pre ++ parts new ++ post := by
  -- By induction on the way to the place: the parts around a child stay where they are.
  induction path generalizing j with
  | nil => exact ⟨[], [], fun new => by simp [replaceAt]⟩
  | cons i path ih =>
    obtain ⟨child, hchild, hbelow⟩ := exists_child_of_nodeAt? h
    obtain ⟨pre, post, hstretch⟩ := ih hbelow
    refine ⟨ownParts j ++ ((children j).take i).flatMap parts ++ pre,
      post ++ ((children j).drop (i + 1)).flatMap parts, fun new => ?_⟩
    obtain ⟨hchildren, hown⟩ := replaceAt_cons hchild new path
    rw [parts_eq, hchildren, hown, List.flatMap_append, List.flatMap_cons, hstretch new]
    simp only [List.append_assoc]

theorem mem_parts_iff {part : Part} (j : Json) :
    part ∈ parts j ↔ ∃ path node, nodeAt? path j = some node ∧ part ∈ ownParts node := by
  -- By induction on the tree: a part of a node or of one below it is the own part of some node.
  constructor
  · intro h
    induction hn : sizeOf j using Nat.strongRecOn generalizing j with
    | ind n ih =>
      rw [parts_eq, List.mem_append, List.mem_flatMap] at h
      cases h with
      | inl hown => exact ⟨[], j, rfl, hown⟩
      | inr hbelow =>
        obtain ⟨child, hchild, hpart⟩ := hbelow
        have hlt := sizeOf_child_lt hchild
        obtain ⟨path, node, hnode, hown⟩ := ih (sizeOf child) (by omega) child hpart rfl
        obtain ⟨i, hi⟩ := List.mem_iff_getElem?.1 hchild
        refine ⟨i :: path, node, ?_, hown⟩
        rw [nodeAt?, hi]
        exact hnode
  · rintro ⟨path, node, hnode, hown⟩
    induction path generalizing j with
    | nil =>
      cases hnode
      rw [parts_eq]
      exact List.mem_append_left _ hown
    | cons i path ih =>
      obtain ⟨child, hchild, hbelow⟩ := exists_child_of_nodeAt? hnode
      rw [parts_eq]
      apply List.mem_append_right
      exact List.mem_flatMap.2 ⟨child, List.mem_of_getElem? hchild, ih child hbelow⟩

/-- The check tells of each part of each node that can be reached once if it is not sound, and
of nothing else. Nothing below a malformed group can be reached. A place in the tree has a stretch
of its own in what is told: whatever stands there, what is told before and after it is the same. -/
theorem problems_exhaustive_and_local (members : List (String × Json)) :
    problems (.obj members) = (parts (.obj members)).flatMap Part.problems ∧
      (∀ part, part ∈ parts (.obj members) ↔
        ∃ path node, nodeAt? path (.obj members) = some node ∧ part ∈ ownParts node) ∧
      (∀ part : Part, part.problems.length ≤ 1 ∧ (part.IsSound ↔ part.problems = [])) ∧
      (∀ group, isGroup group = true → groupParts? group = none →
        parts (.obj group) = [.malformed]) ∧
      ∀ i path node, nodeAt? (i :: path) (.obj members) = some node →
        replaceAt node (i :: path) (.obj members) = .obj members ∧
        ∃ pre post, ∀ new,
          nodeAt? (i :: path) (replaceAt new (i :: path) (.obj members)) = some new ∧
          parts (replaceAt new (i :: path) (.obj members)) = pre ++ parts new ++ post ∧
          problems (replaceAt new (i :: path) (.obj members)) =
            pre.flatMap Part.problems ++ nodeProblems new ++ post.flatMap Part.problems := by
  refine ⟨?_, fun part => mem_parts_iff _, fun part => ⟨part.length_problems_le_one,
    part.isSound_iff⟩, fun group => parts_malformed, ?_⟩
  · rw [problems_obj]
    exact nodeProblems_eq_flatMap_parts (.obj members)
  · intro i path node hnode
    obtain ⟨pre, post, hstretch⟩ := parts_replaceAt hnode
    refine ⟨replaceAt_self hnode, pre, post, fun new => ⟨nodeAt?_replaceAt hnode new,
      hstretch new, ?_⟩⟩
    change nodeProblems (replaceAt new (i :: path) (.obj members)) = _
    rw [nodeProblems_eq_flatMap_parts, hstretch new, nodeProblems_eq_flatMap_parts new,
      List.flatMap_append, List.flatMap_append]

def crooked : List (String × Json) :=
  [("combinator", .str "xor"), ("rules", .arr
    [.obj [("combinator", .int 1), ("rules", .arr [.null])],
      .obj [("combinator", .str "or"), ("children", .arr [.bool true, .obj []])]])]

theorem problems_exhaustive_and_local_crooked :
    nodeAt? [1, 1] (.obj crooked) = some (.obj []) ∧
      groupParts? [("combinator", .int 1), ("rules", .arr [.null])] = none ∧
      parts (.obj [("combinator", .int 1), ("rules", .arr [.null])]) = [.malformed] ∧
      ∃ pre post : List Part, ∀ new, problems (replaceAt new [1, 1] (.obj crooked)) =
        pre.flatMap Part.problems ++ nodeProblems new ++ post.flatMap Part.problems := by
  have hplace : nodeAt? [1, 1] (.obj crooked) = some (.obj []) := by rfl
  have hmalformed : groupParts? [("combinator", .int 1), ("rules", .arr [.null])] = none := by rfl
  obtain ⟨-, -, -, hgroup, hlocal⟩ := problems_exhaustive_and_local crooked
  obtain ⟨-, pre, post, hstretch⟩ := hlocal 1 [1] (.obj []) hplace
  exact ⟨hplace, hmalformed, hgroup _ rfl hmalformed, pre, post, fun new => (hstretch new).2.2⟩

example : problems (.obj crooked) = [.unknownCombinator "xor", .malformedGroup, .nodeNotObject,
    .missingField, .missingOperator "undefined", .missingValue "undefined"] := by
  decide +kernel

end Rule

end Segmentation
