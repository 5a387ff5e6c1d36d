import Segmentation.Proofs.Filter.Snapshot
import Segmentation.Proofs.Json.Reading
import Segmentation.Proofs.Rule.Structure

namespace Segmentation

namespace Filter

open Rule (Combinator Comparator)

/-- Whether the numbers that records are compared with are among those that are kept. -/
def HasNumbers (keeps : Float → Prop) (f : Filter) : Prop :=
  ∀ a comparator x, .compare a comparator (.number x) ∈ f.predicates → keeps x

section Kept

variable {keeps : Float → Prop}

theorem HasNumbers.of_mem {combinator : Combinator} {clauses : List Filter}
    (h : (group combinator clauses).HasNumbers keeps) {f : Filter} (hf : f ∈ clauses) :
    f.HasNumbers keeps := by
  intro a comparator x hx
  exact h a comparator x (mem_predicates_group hf hx)

theorem isKept_valueToJson {value : Attribute.Value} (h : ∀ x, value = .number x → keeps x) :
    (valueToJson value).IsKept keeps := by
  cases value with
  | number x =>
    have hx : (Json.ofFloat x).IsKept keeps := by
      rw [Json.ofFloat]
      split
      · exact .num (h x rfl)
      · exact .null
    exact .obj (by simp [hx, Json.IsKept.str])
  | timestamp t => exact .obj (by simp [Json.IsKept.str])

mutual

theorem isKept_toJson {f : Filter} (h : f.HasNumbers keeps) : f.toJson.IsKept keeps := by
  cases f with
  | matchAll => exact .obj (by simp [Json.IsKept.str])
  | group combinator clauses =>
    have hall := isKept_toItems fun f hf => h.of_mem hf
    exact .obj (by simp [Json.IsKept.arr hall, Json.IsKept.str])
  | compare a comparator value =>
    have hvalue : (valueToJson value).IsKept keeps := by
      apply isKept_valueToJson
      rintro x rfl
      exact h a comparator x (List.mem_singleton.2 rfl)
    exact .obj (by simp [hvalue, Json.IsKept.str])
  | pattern a text => exact .obj (by simp [Json.IsKept.str])

theorem isKept_toItems {clauses : List Filter} (h : ∀ f ∈ clauses, f.HasNumbers keeps) :
    ∀ j ∈ toItems clauses, j.IsKept keeps := by
  cases clauses with
  | nil => exact fun j hj => absurd hj List.not_mem_nil
  | cons clause rest =>
    rw [toItems]
    exact List.forall_mem_cons.2 ⟨isKept_toJson (h clause List.mem_cons_self),
      isKept_toItems fun f hf => h f (List.mem_cons_of_mem _ hf)⟩

end

end Kept

section Sorted

theorem sorted_valueToJson (value : Attribute.Value) :
    (valueToJson value).sorted = valueToJson value := by
  cases value with
  | number x =>
    rw [valueToJson, Json.ofFloat]
    split <;> rfl
  | timestamp t => rfl

mutual

theorem decode?_sorted_toJson (inGroup : Bool) {f : Filter} (h : f.IsFinite) :
    decode? inGroup f.toJson.sorted = some f := by
  cases f with
  | matchAll => rfl
  | group combinator clauses =>
    have hall := decodeAll?_sorted_toItems fun f hf => h.of_mem hf
    cases combinator with
    | and =>
      change (decodeAll? (Json.sortedItems (toItems clauses))).map (group .and) = _
      rw [hall, Option.map_some]
    | or =>
      change (decodeAll? (Json.sortedItems (toItems clauses))).map (group .or) = _
      rw [hall, Option.map_some]
  | compare a comparator value =>
    change compareOfParts? (.str a.name) (.str comparator.name) (valueToJson value).sorted = _
    rw [sorted_valueToJson]
    apply compareOfParts?_written a comparator
    rintro x rfl
    exact h a comparator x (List.mem_singleton.2 rfl)
  | pattern a text =>
    change patternOfParts? (.str a.name) (.str text) = _
    exact patternOfParts?_written a text

theorem decodeAll?_sorted_toItems {clauses : List Filter} (h : ∀ f ∈ clauses, f.IsFinite) :
    decodeAll? (Json.sortedItems (toItems clauses)) = some clauses := by
  cases clauses with
  | nil => rfl
  | cons clause rest =>
    rw [toItems, Json.sortedItems, decodeAll?,
      decode?_sorted_toJson true (h clause List.mem_cons_self),
      decodeAll?_sorted_toItems fun f hf => h f (List.mem_cons_of_mem _ hf)]

end

theorem ofJson?_sorted_toJson {f : Filter} (h : f.IsFinite) :
    ofJson? f.toJson.sorted = some f :=
  decode?_sorted_toJson false h

end Sorted

/-- A filter is read back from its text, where the text is not too deep and keeps its numbers. -/
theorem read?_write (codec : Json.Codec) {f : Filter} (finite : f.IsFinite)
    (kept : f.HasNumbers codec.keeps) (depth : f.toJson.depth ≤ codec.depth) :
    (codec.read? f.toJson.write).bind ofJson? = some f := by
  have holds : codec.Holds f.toJson := ⟨isKept_toJson kept, depth⟩
  rw [holds.read?_write]
  exact ofJson?_sorted_toJson finite

section Depth

theorem eq_group_of_group? {combinator : Combinator} {clauses : List Filter} {f : Filter}
    (h : group? combinator clauses = some f) : f = group combinator clauses := by
  cases clauses with
  | nil => cases h
  | cons clause rest => exact (Option.some.inj h).symm

theorem toItems_eq_map (clauses : List Filter) : toItems clauses = clauses.map toJson := by
  induction clauses with
  | nil => rfl
  | cons clause rest ih => rw [toItems, ih, List.map_cons]

theorem depth_group (combinator : Combinator) (clauses : List Filter) :
    (group combinator clauses).toJson.depth = Json.depthOfItems (clauses.map toJson) + 2 := by
  rw [toJson, toItems_eq_map]
  simp [Json.depth, Json.depthOfMembers]

theorem depth_compare (a : Attribute) (comparator : Comparator) (value : Attribute.Value) :
    (compare a comparator value).toJson.depth = 2 := by
  cases value with
  | number x =>
    have hx : (Json.ofFloat x).depth = 0 := by
      rw [Json.ofFloat]
      split <;> rfl
    simp [toJson, valueToJson, Json.depth, Json.depthOfMembers, hx]
  | timestamp t => rfl

end Depth

end Filter

namespace Rule

theorem Condition.depth_of_predicate? {now : Instant} {c : Condition} {f : Filter}
    (h : c.predicate? now = some f) : f.toJson.depth ≤ 2 := by
  cases predicate?_eq_some_iff_becomes.1 h with
  | comparison | cutoff => exact Nat.le_of_eq (Filter.depth_compare ..)
  | search => exact Nat.le_succ 1

namespace Node

theorem compileAll_eq_filterMap (now : Instant) (nodes : List Node) :
    compileAll now nodes = nodes.filterMap (compile? now) := by
  induction nodes with
  | nil => rfl
  | cons node rest ih =>
    rw [compileAll, ih, List.filterMap_cons]
    cases compile? now node <;> rfl

theorem depth_compile?_ofJson {now : Instant} {j : Json} {f : Filter}
    (h : (ofJson j).compile? now = some f) : f.toJson.depth ≤ j.depth + 1 := by
  induction j using Json.inductionOn generalizing f with
  | other j hother =>
    rw [ofJson_other hother] at h
    cases h
  | obj members ih =>
    have hobj : (Json.obj members).depth = Json.depthOfMembers members + 1 := rfl
    cases hgroup : isGroup members with
    | false =>
      rw [ofJson_condition hgroup] at h
      have hleaf := Condition.depth_of_predicate? h
      omega
    | true =>
      rw [ofJson_group hgroup] at h
      cases hparts : groupParts? members with
      | none =>
        rw [hparts] at h
        cases h
      | some parts =>
        obtain ⟨name, items⟩ := parts
        have hmember := exists_member_of_groupParts? hparts
        have hitems : Json.depthOfItems items + 1 ≤ Json.depthOfMembers members :=
          Json.depth_le_of_mem_members (Json.mem_of_member? hmember)
        -- A clause is one deeper than its item, and a group of either kind is two deeper.
        have hclauses : ∀ clause ∈ compileAll now (items.map ofJson),
            clause.toJson.depth ≤ Json.depthOfItems items + 1 := by
          intro clause hclause
          rw [compileAll_eq_filterMap, List.mem_filterMap] at hclause
          obtain ⟨node, hnode, hcompile⟩ := hclause
          obtain ⟨item, hitem, rfl⟩ := List.mem_map.1 hnode
          have hdeep := ih _ _ hmember item hitem hcompile
          have hle := Json.depth_le_of_mem_items hitem
          omega
        rw [hparts] at h
        rw [Filter.eq_group_of_group? ((compile?_group ..).symm.trans h), Filter.depth_group]
        have hdeepest := Json.depthOfItems_le (List.forall_mem_map.2 hclauses)
        omega

theorem depth_compile_ofJson (now : Instant) (j : Json) :
    ((ofJson j).compile now).toJson.depth ≤ j.depth + 1 := by
  rw [compile]
  cases h : (ofJson j).compile? now with
  | none => exact Nat.le_add_left 1 _
  | some f => exact depth_compile?_ofJson h

end Node

end Rule

/-- The filter of rules that were read from a text is read back from its own text, one deeper, if
that keeps the finite numbers. -/
theorem Filter.read?_write_compileRules {codec : Json.Codec}
    (hkeeps : ∀ x, Binary64.isFinite x → codec.keeps x) {limit : Nat}
    (hlimit : limit + 1 ≤ codec.depth) {s : String} {rules : Json}
    (h : Json.read? limit s = some rules) (now : Instant) :
    (codec.read? (compileRules now rules).toJson.write).bind ofJson? =
      some (compileRules now rules) := by
  have finite : (compileRules now rules).IsFinite := (Rule.Node.ofJson rules).isFinite_compile now
  have hrules := (Json.isRead_of_read? h).depth_le
  have hfilter : (compileRules now rules).toJson.depth ≤ rules.depth + 1 :=
    Rule.Node.depth_compile_ofJson now rules
  apply read?_write codec finite
  · intro a comparator x hx
    exact hkeeps x (finite a comparator x hx)
  · omega

end Segmentation
