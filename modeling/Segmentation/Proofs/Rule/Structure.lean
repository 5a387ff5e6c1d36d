import Segmentation.Rule.Validation

namespace Segmentation

namespace Json

theorem member?_cons (key k : String) (value : Json) (rest : List (String × Json)) :
    member? key ((k, value) :: rest) = if k = key then some value else member? key rest :=
  rfl

theorem mem_of_member? {key : String} {members : List (String × Json)} {value : Json}
    (h : member? key members = some value) : (key, value) ∈ members := by
  induction members with
  | nil => cases h
  | cons member rest ih =>
    obtain ⟨k, v⟩ := member
    rw [member?_cons] at h
    by_cases hk : k = key
    · rw [if_pos hk] at h
      cases h
      rw [hk]
      exact List.mem_cons_self
    · rw [if_neg hk] at h
      exact List.mem_cons_of_mem _ (ih h)

theorem sizeOf_item_lt {key : String} {members : List (String × Json)} {items : List Json}
    (h : member? key members = some (.arr items)) {item : Json} (hitem : item ∈ items) :
    sizeOf item < sizeOf (Json.obj members) := by
  have hmember : sizeOf (key, Json.arr items) < sizeOf members :=
    List.sizeOf_lt_of_mem (mem_of_member? h)
  have hsub : sizeOf item < sizeOf items := List.sizeOf_lt_of_mem hitem
  simp only [Prod.mk.sizeOf_spec, arr.sizeOf_spec] at hmember
  simp only [obj.sizeOf_spec]
  omega

theorem inductionOn {motive : Json → Prop} (j : Json)
    (other : ∀ j, (∀ members, j ≠ .obj members) → motive j)
    (obj : ∀ members, (∀ key items, member? key members = some (.arr items) →
      ∀ item ∈ items, motive item) → motive (.obj members)) : motive j := by
  induction hn : sizeOf j using Nat.strongRecOn generalizing j with
  | ind n ih =>
    subst hn
    cases j with
    | obj members =>
      apply obj
      intro key items hmember item hitem
      exact ih (sizeOf item) (sizeOf_item_lt hmember hitem) item rfl
    | null | bool | int | num | str | arr =>
      apply other
      intro members h
      cases h

end Json

namespace Rule

/-- The items of a group: those under `rules`, and only where that is absent, under `children`. -/
def childItems? (members : List (String × Json)) : Option (List Json) :=
  (Json.member? (childKey members) members).bind Json.items?

theorem member?_of_childItems? {members : List (String × Json)} {items : List Json}
    (h : childItems? members = some items) :
    Json.member? (childKey members) members = some (.arr items) := by
  obtain ⟨value, hvalue, hitems⟩ := Option.bind_eq_some_iff.1 h
  cases value with
  | arr items' =>
    cases hitems
    exact hvalue
  | null | bool | int | num | str | obj => cases hitems

/-- An object that is read as a group: it has a combinator's name and items. -/
def groupParts? (members : List (String × Json)) : Option (String × List Json) :=
  match combinatorText? members, childItems? members with
  | some name, some items => some (name, items)
  | _, _ => none

theorem groupParts?_eq_some_iff {members : List (String × Json)} {name : String}
    {items : List Json} : groupParts? members = some (name, items) ↔
      combinatorText? members = some name ∧ childItems? members = some items := by
  rw [groupParts?]
  cases combinatorText? members with
  | none => simp
  | some s => cases childItems? members <;> simp

theorem exists_member_of_groupParts? {members : List (String × Json)} {name : String}
    {items : List Json} (h : groupParts? members = some (name, items)) :
    Json.member? (childKey members) members = some (.arr items) :=
  member?_of_childItems? (groupParts?_eq_some_iff.1 h).2

namespace Node

theorem ofItems_eq_map (items : List Json) : ofItems items = items.map ofJson := by
  induction items with
  | nil => rfl
  | cons item rest ih => rw [ofItems, ih, List.map_cons]

theorem nodesAt_eq (key : String) (members : List (String × Json)) :
    nodesAt key members = ((Json.member? key members).bind Json.items?).map ofItems := by
  induction members with
  | nil => rfl
  | cons member rest ih =>
    obtain ⟨k, value⟩ := member
    rw [Json.member?_cons]
    by_cases hk : k = key
    · cases value <;> simp [nodesAt, hk, Json.items?]
    · cases value <;> simpa [nodesAt, hk] using ih

theorem ofJson_condition {members : List (String × Json)} (h : isGroup members = false) :
    ofJson (.obj members) = .condition (.ofMembers members) := by
  rw [ofJson, h]
  rfl

theorem ofJson_group {members : List (String × Json)} (h : isGroup members = true) :
    ofJson (.obj members) =
      match groupParts? members with
      | some (name, items) => .group ((Combinator.ofUserName? name).getD .and) (items.map ofJson)
      | none => .condition .incomplete := by
  rw [ofJson, if_pos h, nodesAt_eq, groupParts?, childItems?]
  cases combinatorText? members with
  | none => rfl
  | some name =>
    cases (Json.member? (childKey members) members).bind Json.items? with
    | none => rfl
    | some items => exact congrArg (group _) (ofItems_eq_map items)

theorem ofJson_other {j : Json} (h : ∀ members, j ≠ .obj members) :
    ofJson j = .condition .incomplete := by
  cases j with
  | obj members => exact absurd rfl (h members)
  | null | bool | int | num | str | arr => rfl

end Node

theorem itemProblems_eq_flatMap (items : List Json) :
    itemProblems items = items.flatMap nodeProblems := by
  induction items with
  | nil => rfl
  | cons item rest ih => rw [itemProblems, ih, List.flatMap_cons]

theorem problemsAt_eq (key : String) (members : List (String × Json)) :
    problemsAt key members = ((Json.member? key members).bind Json.items?).map itemProblems := by
  induction members with
  | nil => rfl
  | cons member rest ih =>
    obtain ⟨k, value⟩ := member
    rw [Json.member?_cons]
    by_cases hk : k = key
    · cases value <;> simp [problemsAt, hk, Json.items?]
    · cases value <;> simpa [problemsAt, hk] using ih

theorem nodeProblems_condition {members : List (String × Json)} (h : isGroup members = false) :
    nodeProblems (.obj members) = conditionProblems members := by
  rw [nodeProblems, h]
  rfl

theorem nodeProblems_group {members : List (String × Json)} (h : isGroup members = true) :
    nodeProblems (.obj members) =
      match groupParts? members with
      | some (name, items) => combinatorProblems name ++ items.flatMap nodeProblems
      | none => [.malformedGroup] := by
  rw [nodeProblems, if_pos h, problemsAt_eq, groupParts?, childItems?]
  cases combinatorText? members with
  | none => rfl
  | some name =>
    cases (Json.member? (childKey members) members).bind Json.items? with
    | none => rfl
    | some items => exact congrArg (combinatorProblems name ++ ·) (itemProblems_eq_flatMap items)

theorem nodeProblems_other {j : Json} (h : ∀ members, j ≠ .obj members) :
    nodeProblems j = [.nodeNotObject] := by
  cases j with
  | obj members => exact absurd rfl (h members)
  | null | bool | int | num | str | arr => rfl

theorem problems_obj (members : List (String × Json)) :
    problems (.obj members) = nodeProblems (.obj members) :=
  rfl

theorem problems_other {j : Json} (h : ∀ members, j ≠ .obj members) :
    problems j = [.treeNotObject] := by
  cases j with
  | obj members => exact absurd rfl (h members)
  | null | bool | int | num | str | arr => rfl

end Rule

end Segmentation
