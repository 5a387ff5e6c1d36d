import Mathlib.Data.List.Induction
import Segmentation.Proofs.Store.Holdings

namespace Segmentation

/-- The order of instants: by the second, and within a second by the fraction. -/
def Instant.IsBefore (s t : Instant) : Prop :=
  s.seconds < t.seconds ∨ s.seconds = t.seconds ∧ s.fraction < t.fraction

theorem Instant.compare_eq_lt_iff {s t : Instant} : compare s t = .lt ↔ s.IsBefore t := by
  change (compare s.seconds t.seconds).then (compare s.fraction t.fraction) = .lt ↔ _
  rw [Ordering.then_eq_lt, Int.compare_eq_lt, Nat.compare_eq_lt, Int.compare_eq_eq, IsBefore]

theorem Instant.compare_eq_eq_iff {s t : Instant} : compare s t = .eq ↔ s = t := by
  constructor
  · intro h
    have hparts : compare s.seconds t.seconds = .eq ∧ compare s.fraction t.fraction = .eq :=
      Ordering.then_eq_eq.1 h
    obtain ⟨seconds, fraction, _, _, _, _⟩ := s
    simp only [Int.compare_eq_eq, Nat.compare_eq_eq] at hparts
    obtain ⟨rfl, rfl⟩ := hparts
    rfl
  · rintro rfl
    exact Std.ReflOrd.compare_self

namespace Customer

/-- Whether a customer stands before another one in an answer: the later last order goes first,
customers without an order come last, and between equals the smaller identifier goes first. -/
inductive Precedes (a b : Customer) : Prop
  | later {s t : Instant} (ha : a.lastOrder = some s) (hb : b.lastOrder = some t)
      (h : t.IsBefore s)
  | ordered {s : Instant} (ha : a.lastOrder = some s) (hb : b.lastOrder = none)
  | smaller (same : a.lastOrder = b.lastOrder) (h : a.id.value < b.id.value)

theorem compare_id_eq_lt_iff {a b : Customer} :
    compare a.id b.id = .lt ↔ a.id.value < b.id.value :=
  Nat.compare_eq_lt

theorem rank_eq_lt_iff {a b : Customer} : a.rank b = .lt ↔ a.Precedes b := by
  rw [rank, Ordering.then_eq_lt, compare_id_eq_lt_iff]
  constructor
  · intro h
    cases ha : a.lastOrder with
    | none =>
      cases hb : b.lastOrder with
      | none => exact .smaller (ha.trans hb.symm) (by simpa [ha, hb] using h)
      | some t => simp [ha, hb] at h
    | some s =>
      cases hb : b.lastOrder with
      | none => exact .ordered ha hb
      | some t =>
        simp only [ha, hb, Instant.compare_eq_lt_iff, Instant.compare_eq_eq_iff] at h
        obtain hlater | ⟨rfl, hid⟩ := h
        · exact .later ha hb hlater
        · exact .smaller (ha.trans hb.symm) hid
  · intro h
    cases h with
    | later ha hb h =>
      left
      simpa [ha, hb] using Instant.compare_eq_lt_iff.2 h
    | ordered ha hb => simp [ha, hb]
    | smaller same h =>
      right
      refine ⟨?_, h⟩
      rw [same]
      cases b.lastOrder with
      | none => rfl
      | some t => exact Instant.compare_eq_eq_iff.2 rfl

theorem Precedes.asymm {a b : Customer} (h : a.Precedes b) : ¬b.Precedes a := by
  rw [← rank_eq_lt_iff] at h ⊢
  exact Std.OrientedCmp.not_lt_of_lt h

/-- Whether a customer is the last one that came in under its identifier. -/
def IsLatest (arrivals : List Customer) (c : Customer) : Prop :=
  ∃ before after, arrivals = before ++ c :: after ∧ ∀ d ∈ after, d.id ≠ c.id

theorem not_isLatest_nil (c : Customer) : ¬IsLatest [] c := by
  rintro ⟨before, after, h, -⟩
  simp at h

theorem isLatest_concat_iff {arrivals : List Customer} {c d : Customer} :
    IsLatest (arrivals ++ [d]) c ↔ c = d ∨ IsLatest arrivals c ∧ d.id ≠ c.id := by
  constructor
  · rintro ⟨before, after, h, hafter⟩
    induction after using List.reverseRecOn with
    | nil =>
      left
      exact (List.append_inj_right' h rfl |> List.singleton_inj.1).symm
    | append_singleton after e _ =>
      right
      rw [← List.cons_append, ← List.append_assoc] at h
      obtain ⟨harrivals, he⟩ := List.append_inj' h rfl
      rw [List.singleton_inj.1 he]
      refine ⟨⟨before, after, harrivals, fun x hx => ?_⟩, ?_⟩
      · exact hafter x (List.mem_append_left _ hx)
      · exact hafter e (by simp)
  · rintro (rfl | ⟨⟨before, after, rfl, hafter⟩, hd⟩)
    · exact ⟨arrivals, [], rfl, by simp⟩
    · refine ⟨before, after ++ [d], by simp, fun x hx => ?_⟩
      rcases List.mem_append.1 hx with hx | hx
      · exact hafter x hx
      · rw [List.mem_singleton.1 hx]
        exact hd

theorem isLatest_pair_iff {a b c : Customer} (hne : b.id ≠ a.id) :
    IsLatest [a, b] c ↔ c = a ∨ c = b := by
  change IsLatest (([] ++ [a]) ++ [b]) c ↔ _
  rw [isLatest_concat_iff, isLatest_concat_iff]
  constructor
  · rintro (h | ⟨h | ⟨h, -⟩, -⟩)
    · exact .inr h
    · exact .inl h
    · exact absurd h (not_isLatest_nil c)
  · rintro (rfl | rfl)
    · exact .inr ⟨.inl rfl, hne⟩
    · exact .inl rfl

end Customer

namespace Store.Customers

open Customer (IsLatest Precedes)

def ofList (arrivals : List Customer) : Customers :=
  arrivals.foldl insert empty

theorem ofList_concat (arrivals : List Customer) (c : Customer) :
    ofList (arrivals ++ [c]) = (ofList arrivals).insert c := by
  rw [ofList, List.foldl_append]
  rfl

def Holds (s : Customers) (c : Customer) : Prop :=
  s.byId.get? c.id = some c

theorem holds_insert_iff {s : Customers} {c d : Customer} :
    (s.insert d).Holds c ↔ c = d ∨ s.Holds c ∧ d.id ≠ c.id := by
  rw [Holds, insert, Table.get?_insert]
  by_cases hid : c.id = d.id
  · rw [if_pos hid, Option.some.injEq]
    simp [hid, eq_comm]
  · have hne : c ≠ d := fun h => hid (congrArg Customer.id h)
    rw [if_neg hid]
    simp [Holds, hne, Ne.symm hid]

theorem holds_ofList_iff {arrivals : List Customer} {c : Customer} :
    (ofList arrivals).Holds c ↔ IsLatest arrivals c := by
  induction arrivals using List.reverseRecOn with
  | nil =>
    refine iff_of_false (fun h => ?_) (Customer.not_isLatest_nil c)
    cases h
  | append_singleton arrivals d ih =>
    rw [ofList_concat, holds_insert_iff, ih, Customer.isLatest_concat_iff]

/-- The customers of an account that a filter selects, in the order of answers. -/
def ranked (s : Customers) (filter : Filter) (owner : String) : List Customer :=
  (s.matching filter owner).mergeSort fun a b => (a.rank b).isLE

theorem count_eq_length_ranked (s : Customers) (filter : Filter) (owner : String) :
    s.count filter owner = (s.ranked filter owner).length :=
  (List.length_mergeSort _).symm

theorem mem_ranked {s : Customers} {filter : Filter} {owner : String} {c : Customer} :
    c ∈ s.ranked filter owner ↔ s.Holds c ∧ c.owner = owner ∧ filter.selects c.record := by
  rw [ranked, List.mem_mergeSort, mem_matching, get?, Option.filter_eq_some_iff, beq_iff_eq,
    and_assoc, Holds]

theorem pairwise_ranked (s : Customers) (filter : Filter) (owner : String) :
    (s.ranked filter owner).Pairwise Precedes := by
  have nodup : (s.ranked filter owner).Pairwise (· ≠ ·) :=
    (List.mergeSort_perm _ _).nodup_iff.2 (s.nodup_matching filter owner)
  have sorted : (s.ranked filter owner).Pairwise fun a b => (a.rank b).isLE :=
    pairwise_mergeSort_isLE _
  refine (nodup.and sorted).imp_of_mem ?_
  rintro a b ha hb ⟨hne, hle⟩
  have hapart : a.rank b ≠ .eq := fun hrank =>
    hne (eq_of_rank_matching (List.mem_mergeSort.1 ha) (List.mem_mergeSort.1 hb) hrank)
  apply Customer.rank_eq_lt_iff.1
  cases hrank : a.rank b with
  | lt => rfl
  | eq => exact absurd hrank hapart
  | gt => simp [hrank] at hle

/-- A list of the customers of an account that a filter selects, each once, in the order of
answers. -/
structure Lists (current : Customer → Prop) (filter : Filter) (owner : String)
    (all : List Customer) : Prop where
  once : all.Nodup
  mem_iff : ∀ c, c ∈ all ↔ current c ∧ c.owner = owner ∧ filter.selects c.record
  inOrder : all.Pairwise Precedes

theorem lists_ranked (s : Customers) (filter : Filter) (owner : String) :
    Lists s.Holds filter owner (s.ranked filter owner) where
  once := (List.mergeSort_perm _ _).nodup_iff.2 (s.nodup_matching filter owner)
  mem_iff _ := mem_ranked
  inOrder := s.pairwise_ranked filter owner

theorem Lists.unique {current : Customer → Prop} {filter : Filter} {owner : String}
    {all other : List Customer} (h : Lists current filter owner all)
    (h' : Lists current filter owner other) : other = all := by
  have hperm : other.Perm all := by
    rw [List.perm_ext_iff_of_nodup h'.once h.once]
    intro c
    rw [h.mem_iff, h'.mem_iff]
  apply List.Perm.eq_of_pairwise _ h'.inOrder h.inOrder hperm
  intro a b _ _ hab hba
  exact absurd hba hab.asymm

/-- What is answered about an account comes from one list of the customers that came in last under
their identifiers. It makes no difference in which order they came in otherwise, or in which order
the table of the store keeps them: any store that holds these customers answers so. -/
theorem answers_of_arrivals (arrivals : List Customer) (filter : Filter) (owner : String) :
    ∃ all, Lists (IsLatest arrivals) filter owner all ∧
      (∀ other, Lists (IsLatest arrivals) filter owner other → other = all) ∧
      (∀ c, (ofList arrivals).Holds c ↔ IsLatest arrivals c) ∧
      ∀ s : Customers, (∀ c, s.Holds c ↔ IsLatest arrivals c) → ∀ limit,
        s.find filter owner limit = all.take limit ∧
        s.count filter owner = all.length ∧
        (s.find filter owner limit).length = min limit (s.count filter owner) := by
  have hheld (s : Customers) (h : ∀ c, s.Holds c ↔ IsLatest arrivals c) :
      Lists (IsLatest arrivals) filter owner (s.ranked filter owner) := by
    have hlists := s.lists_ranked filter owner
    rwa [funext fun c => propext (h c)] at hlists
  have hall := hheld (ofList arrivals) fun _ => holds_ofList_iff
  refine ⟨_, hall, fun other => hall.unique, fun _ => holds_ofList_iff, fun s hs limit => ?_⟩
  rw [← hall.unique (hheld s hs), ← count_eq_length_ranked]
  exact ⟨rfl, rfl, s.length_find filter owner limit⟩

def walkIn : Customer where
  id := { value := 7 }
  owner := "shop"
  name := "Walk-in"
  email := ""
  spend := 0
  visits := 0
  lastOrder := none
  createdAt := default

def walkInAgain : Customer :=
  { walkIn with lastOrder := some default }

def regular : Customer :=
  { walkInAgain with id := { value := 8 }, name := "Regular" }

/-- The order brings a customer from the end to the front, and a store in whose table the two
stand the other way round answers the same. -/
theorem answers_of_arrivals_walkIn :
    let arrivals := [walkIn, regular, walkInAgain]
    let s := ofList [regular, walkInAgain]
    (∀ c, s.Holds c ↔ IsLatest arrivals c) ∧
      Lists (IsLatest arrivals) .matchAll "shop" [walkInAgain, regular] ∧
      s.find .matchAll "shop" 1 = [walkInAgain] ∧ s.count .matchAll "shop" = 2 ∧
      (ofList arrivals).find .matchAll "shop" 1 = [walkInAgain] := by
  intro arrivals s
  have hlatest : ∀ c, IsLatest arrivals c ↔ c = walkInAgain ∨ c = regular := by
    intro c
    change IsLatest ([walkIn, regular] ++ [walkInAgain]) c ↔ _
    rw [Customer.isLatest_concat_iff, Customer.isLatest_pair_iff (by decide)]
    constructor
    · rintro (h | ⟨rfl | h, hid⟩)
      · exact .inl h
      · exact absurd rfl hid
      · exact .inr h
    · rintro (rfl | rfl)
      · exact .inl rfl
      · exact .inr ⟨.inr rfl, by decide⟩
  have hs : ∀ c, s.Holds c ↔ IsLatest arrivals c := by
    intro c
    rw [holds_ofList_iff, hlatest, Customer.isLatest_pair_iff (by decide), or_comm]
  have hlists : Lists (IsLatest arrivals) .matchAll "shop" [walkInAgain, regular] := by
    refine ⟨by decide, fun c => ?_, ?_⟩
    · have hall : c = walkInAgain ∨ c = regular →
          c.owner = "shop" ∧ Filter.matchAll.selects c.record := by
        rintro (rfl | rfl) <;> exact ⟨rfl, rfl⟩
      simpa [hlatest] using hall
    · have hfirst : walkInAgain.Precedes regular := .smaller rfl (by decide)
      simpa using hfirst
  obtain ⟨all, -, hunique, hheld, hanswers⟩ := answers_of_arrivals arrivals .matchAll "shop"
  obtain rfl := hunique _ hlists
  obtain ⟨hfind, hcount, -⟩ := hanswers s hs 1
  exact ⟨hs, hlists, hfind, hcount, (hanswers _ hheld 1).1⟩

end Store.Customers

end Segmentation
