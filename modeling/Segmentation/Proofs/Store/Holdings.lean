import Segmentation.Store.Customers
import Segmentation.Store.Segments

namespace Segmentation

namespace Table

variable {κ α : Type} [DecidableEq κ]

theorem lookup_of_mem {key : κ} {value : α} {entries : List (κ × α)}
    (nodup : (entries.map Prod.fst).Nodup) (h : (key, value) ∈ entries) :
    lookup key entries = some value := by
  induction entries with
  | nil => exact absurd h List.not_mem_nil
  | cons entry rest ih =>
    obtain ⟨k, v⟩ := entry
    simp only [List.map_cons, List.nodup_cons] at nodup
    rcases List.mem_cons.1 h with h | h
    · obtain ⟨rfl, rfl⟩ := Prod.mk.inj h
      exact if_pos rfl
    · have hne : k ≠ key := by
        rintro rfl
        exact nodup.1 (List.mem_map.2 ⟨_, h, rfl⟩)
      rw [lookup, if_neg hne]
      exact ih nodup.2 h

theorem nodup_values {t : Table κ α} {key : α → κ}
    (h : ∀ {k v}, t.get? k = some v → key v = k) : t.values.Nodup := by
  have hkeys : t.values.map key = t.entries.map Prod.fst := by
    rw [values, List.map_map]
    apply List.map_congr_left
    rintro ⟨k, v⟩ hmem
    exact h (lookup_of_mem t.nodup_keys hmem)
  have nodup := t.nodup_keys
  rw [← hkeys] at nodup
  exact List.Pairwise.of_map key (fun a b hne hab => hne (congrArg key hab)) nodup

end Table

section Sorting

variable {α : Type} {rank : α → α → Ordering} [Std.TransCmp rank]

theorem pairwise_mergeSort_isLE (l : List α) :
    (l.mergeSort fun a b => (rank a b).isLE).Pairwise fun a b => (rank a b).isLE := by
  refine List.pairwise_mergeSort (fun a b c => Std.TransCmp.isLE_trans) ?_ l
  intro a b
  rw [@Std.OrientedCmp.eq_swap _ rank _ b a]
  cases rank a b <;> rfl

theorem mergeSort_eq_of_perm {l l' : List α} (perm : l.Perm l')
    (apart : ∀ a ∈ l, ∀ b ∈ l, rank a b = .eq → a = b) :
    l.mergeSort (fun a b => (rank a b).isLE) = l'.mergeSort fun a b => (rank a b).isLE := by
  refine List.Perm.eq_of_pairwise ?_ (pairwise_mergeSort_isLE l) (pairwise_mergeSort_isLE l')
    ((List.mergeSort_perm l _).trans (perm.trans (List.mergeSort_perm l' _).symm))
  intro a b ha hb hab hba
  apply apart a (List.mem_mergeSort.1 ha) b (perm.mem_iff.2 (List.mem_mergeSort.1 hb))
  exact Std.OrientedCmp.isLE_antisymm hab hba

end Sorting

instance : Std.TransOrd Instant :=
  inferInstanceAs (Std.TransCmp
    (compareLex (compareOn Instant.seconds) (compareOn Instant.fraction)))

instance : Std.TransOrd Uuid :=
  inferInstanceAs (Std.TransCmp (compareOn Uuid.value))

theorem Uuid.eq_of_compare {a b : Uuid} (h : compare a b = .eq) : a = b := by
  obtain ⟨m, hm⟩ := a
  obtain ⟨n, hn⟩ := b
  have : m = n := Std.LawfulEqOrd.eq_of_compare h
  subst this
  rfl

theorem Customer.rank_eq :
    Customer.rank = compareLex (fun a b => compare b.lastOrder a.lastOrder)
      (compareOn Customer.id) := by
  funext a b
  simp only [Customer.rank, compareLex, compareOn]
  cases a.lastOrder <;> cases b.lastOrder <;> rfl

instance : Std.TransCmp Customer.rank := by
  rw [Customer.rank_eq]
  have : Std.TransCmp fun a b : Customer => compare b.lastOrder a.lastOrder :=
    @Std.TransCmp.opposite _ (compareOn Customer.lastOrder) _
  infer_instance

theorem Customer.id_eq_of_rank {a b : Customer} (h : a.rank b = .eq) : a.id = b.id :=
  Uuid.eq_of_compare (Ordering.then_eq_eq.1 h).2

instance : Std.TransCmp Segment.rank := by
  have : Std.TransCmp fun a b : Segment => compare b.createdAt a.createdAt :=
    @Std.TransCmp.opposite _ (compareOn Segment.createdAt) _
  exact inferInstanceAs (Std.TransCmp (compareLex
    (fun a b : Segment => compare b.createdAt a.createdAt) (compareOn Segment.id)))

theorem Segment.id_eq_of_rank {a b : Segment} (h : a.rank b = .eq) : a.id = b.id :=
  Uuid.eq_of_compare (Ordering.then_eq_eq.1 h).2

namespace Store

namespace Customers

def get? (s : Customers) (owner : String) (id : Uuid) : Option Customer :=
  (s.byId.get? id).filter fun c => c.owner == owner

theorem mem_matching {s : Customers} {filter : Filter} {owner : String} {c : Customer} :
    c ∈ s.matching filter owner ↔ s.get? owner c.id = some c ∧ filter.selects c.record := by
  simp only [matching, List.mem_filter, Table.mem_values_iff, get?, Option.filter_eq_some_iff,
    Bool.and_eq_true]
  constructor
  · rintro ⟨⟨id, h⟩, howner, hselects⟩
    rw [s.id_of_get? h]
    exact ⟨⟨h, howner⟩, hselects⟩
  · rintro ⟨⟨h, howner⟩, hselects⟩
    exact ⟨⟨c.id, h⟩, howner, hselects⟩

theorem nodup_matching (s : Customers) (filter : Filter) (owner : String) :
    (s.matching filter owner).Nodup :=
  (Table.nodup_values s.id_of_get?).sublist List.filter_sublist

theorem eq_of_rank_matching {s : Customers} {filter : Filter} {owner : String} {a b : Customer}
    (ha : a ∈ s.matching filter owner) (hb : b ∈ s.matching filter owner)
    (hrank : a.rank b = .eq) : a = b := by
  have heq := (mem_matching.1 ha).1
  rw [Customer.id_eq_of_rank hrank, (mem_matching.1 hb).1] at heq
  exact (Option.some.inj heq).symm

variable {s t : Customers} {owner : String}

theorem matching_perm (h : s.get? owner = t.get? owner) (filter : Filter) :
    (s.matching filter owner).Perm (t.matching filter owner) := by
  rw [List.perm_ext_iff_of_nodup (s.nodup_matching filter owner) (t.nodup_matching filter owner)]
  intro c
  rw [mem_matching, mem_matching, h]

theorem count_eq (h : s.get? owner = t.get? owner) (filter : Filter) :
    s.count filter owner = t.count filter owner :=
  (matching_perm h filter).length_eq

theorem find_eq (h : s.get? owner = t.get? owner) (filter : Filter) (limit : Nat) :
    s.find filter owner limit = t.find filter owner limit := by
  rw [find, find, mergeSort_eq_of_perm (matching_perm h filter)]
  intro a ha b hb hrank
  exact eq_of_rank_matching ha hb hrank

end Customers

namespace Segments

theorem get?_eq_some_iff {s : Segments} {owner : String} {id : Uuid} {segment : Segment} :
    s.get? owner id = some segment ↔ s.byId.get? id = some segment ∧ segment.owner = owner := by
  rw [get?, Option.filter_eq_some_iff, beq_iff_eq]

theorem mem_values_iff {s : Segments} {segment : Segment} {owner : String} :
    segment ∈ s.byId.values.filter (fun segment => segment.owner == owner) ↔
      s.get? owner segment.id = some segment := by
  rw [List.mem_filter, Table.mem_values_iff, get?_eq_some_iff, beq_iff_eq]
  constructor
  · rintro ⟨⟨id, h⟩, howner⟩
    rw [s.id_of_get? h]
    exact ⟨h, howner⟩
  · rintro ⟨h, howner⟩
    exact ⟨⟨segment.id, h⟩, howner⟩

theorem mem_list {s : Segments} {segment : Segment} {owner : String} :
    segment ∈ s.list owner ↔ s.get? owner segment.id = some segment := by
  rw [list, List.mem_mergeSort, mem_values_iff]

theorem list_eq {s t : Segments} {owner : String} (h : s.get? owner = t.get? owner) :
    s.list owner = t.list owner := by
  have nodup (s : Segments) :
      (s.byId.values.filter fun segment => segment.owner == owner).Nodup :=
    (Table.nodup_values s.id_of_get?).sublist List.filter_sublist
  refine mergeSort_eq_of_perm ((List.perm_ext_iff_of_nodup (nodup s) (nodup t)).2 ?_) ?_
  · intro segment
    rw [mem_values_iff, mem_values_iff, h]
  · intro a ha b hb hrank
    have heq := mem_values_iff.1 ha
    rw [Segment.id_eq_of_rank hrank, mem_values_iff.1 hb] at heq
    exact (Option.some.inj heq).symm

/-- The names lead to the segments that have them, and to nothing else. -/
def Indexed (s : Segments) : Prop :=
  ∀ owner name id, s.names.get? (owner, name) = some id ↔
    ∃ segment, s.get? owner id = some segment ∧ segment.name = name

theorem indexed_empty : empty.Indexed := by
  intro owner name id
  simp [empty, get?]

theorem Indexed.names_eq {s t : Segments} {owner : String} (hs : s.Indexed) (ht : t.Indexed)
    (h : s.get? owner = t.get? owner) (name : String) :
    s.names.get? (owner, name) = t.names.get? (owner, name) := by
  ext id
  rw [hs owner name id, ht owner name id, h]

theorem Indexed.findByName_eq_some_iff {s : Segments} (hs : s.Indexed) {owner name : String}
    {segment : Segment} :
    s.findByName owner name = some segment ↔
      s.get? owner segment.id = some segment ∧ segment.name = name := by
  rw [findByName, Option.bind_eq_some_iff]
  constructor
  · rintro ⟨id, hname, hget⟩
    obtain ⟨held, hheld, hn⟩ := (hs owner name id).1 hname
    rw [get?_eq_some_iff, hget] at hheld
    obtain ⟨heq, howner⟩ := hheld
    cases heq
    rw [get?_eq_some_iff, s.id_of_get? hget]
    exact ⟨⟨hget, howner⟩, hn⟩
  · rintro ⟨hget, hn⟩
    exact ⟨segment.id, (hs owner name segment.id).2 ⟨segment, hget, hn⟩,
      (get?_eq_some_iff.1 hget).1⟩

theorem Indexed.findByName_eq {s t : Segments} {owner : String} (hs : s.Indexed) (ht : t.Indexed)
    (h : s.get? owner = t.get? owner) (name : String) :
    s.findByName owner name = t.findByName owner name := by
  ext segment
  rw [hs.findByName_eq_some_iff, ht.findByName_eq_some_iff, h]

theorem insert_cases {s s' : Segments} {segment : Segment} (h : s.insert segment = .ok s') :
    s.names.get? (segment.owner, segment.name) = none ∧ s'.byId = s.place segment ∧
      s'.names = s.names.insert (segment.owner, segment.name) segment.id := by
  rw [insert] at h
  split at h
  · cases h
  · next hfree =>
    cases h
    exact ⟨Option.not_isSome_iff_eq_none.1 hfree, rfl, rfl⟩

theorem byId_insert {s s' : Segments} {segment : Segment} (h : s.insert segment = .ok s')
    (id : Uuid) :
    s'.byId.get? id = if id = segment.id then some segment else s.byId.get? id := by
  obtain ⟨-, hbyId, -⟩ := insert_cases h
  rw [hbyId, place, Table.get?_insert]

theorem get?_insert {s s' : Segments} {segment : Segment} (h : s.insert segment = .ok s')
    (owner : String) (id : Uuid) :
    s'.get? owner id = if id = segment.id then
      if segment.owner = owner then some segment else none else s.get? owner id := by
  rw [get?, byId_insert h]
  by_cases hid : id = segment.id
  · rw [if_pos hid, if_pos hid]
    simp only [Option.filter_some, beq_iff_eq]
  · rw [if_neg hid, if_neg hid, get?]

theorem get?_insert_of_ne {s s' : Segments} {segment : Segment} (h : s.insert segment = .ok s')
    (unused : s.byId.get? segment.id = none) {owner : String} (hne : segment.owner ≠ owner) :
    s'.get? owner = s.get? owner := by
  funext id
  rw [get?_insert h]
  by_cases hid : id = segment.id
  · subst hid
    rw [if_pos rfl, if_neg hne, get?, unused]
    rfl
  · rw [if_neg hid]

theorem Indexed.insert {s s' : Segments} {segment : Segment} (hs : s.Indexed)
    (unused : s.byId.get? segment.id = none) (h : s.insert segment = .ok s') : s'.Indexed := by
  obtain ⟨hfree, -, hnames⟩ := insert_cases h
  intro owner name id
  rw [hnames, Table.get?_insert]
  simp only [get?_insert h]
  by_cases hkey : (owner, name) = (segment.owner, segment.name)
  · obtain ⟨rfl, rfl⟩ := Prod.mk.inj hkey
    rw [if_pos rfl]
    constructor
    · rintro hid
      cases hid
      exact ⟨segment, by rw [if_pos rfl, if_pos rfl], rfl⟩
    · rintro ⟨held, hheld, hname⟩
      by_cases hid : id = segment.id
      · rw [hid]
      · rw [if_neg hid] at hheld
        have := (hs _ _ id).2 ⟨held, hheld, hname⟩
        rw [hfree] at this
        cases this
  · rw [if_neg hkey, hs owner name id]
    by_cases hid : id = segment.id
    · subst hid
      rw [if_pos rfl, get?, unused]
      constructor
      · rintro ⟨held, hheld, -⟩
        cases hheld
      · rintro ⟨held, hheld, hname⟩
        split at hheld
        · next howner =>
          cases hheld
          exact absurd (Prod.ext howner.symm hname.symm) hkey
        · cases hheld
    · rw [if_neg hid]

theorem updateStats_cases {s s' : Segments} {id : Uuid} {stats : Segment.Stats}
    (h : s.updateStats id stats = .ok s') :
    ∃ segment, s.byId.get? id = some segment ∧
      s'.byId = s.place (segment.applyStats stats) ∧ s'.names = s.names := by
  rw [updateStats] at h
  split at h
  · cases h
  · next segment hget =>
    cases h
    exact ⟨segment, hget, rfl, rfl⟩

theorem byId_updateStats {s s' : Segments} {id : Uuid} {stats : Segment.Stats}
    (h : s.updateStats id stats = .ok s') : ∃ segment, s.byId.get? id = some segment ∧
      ∀ k, s'.byId.get? k = if k = id then some (segment.applyStats stats) else s.byId.get? k := by
  obtain ⟨segment, hget, hbyId, -⟩ := updateStats_cases h
  have hkey : (segment.applyStats stats).id = segment.id := rfl
  refine ⟨segment, hget, fun k => ?_⟩
  rw [hbyId, place, Table.get?_insert, hkey, s.id_of_get? hget]

theorem get?_updateStats {s s' : Segments} {id : Uuid} {stats : Segment.Stats}
    (h : s.updateStats id stats = .ok s') (owner : String) (k : Uuid) :
    s'.get? owner k = if k = id then (s.get? owner id).map (·.applyStats stats)
      else s.get? owner k := by
  obtain ⟨segment, hget, hafter⟩ := byId_updateStats h
  rw [get?, get?, hafter, hget]
  by_cases hk : k = id
  · rw [if_pos hk, if_pos hk, Option.filter_some, Option.filter_some]
    by_cases howner : (segment.owner == owner) = true
    · rw [if_pos howner]
      exact if_pos howner
    · rw [if_neg howner]
      exact if_neg howner
  · rw [if_neg hk, if_neg hk, get?]

theorem get?_updateStats_of_ne {s s' : Segments} {id : Uuid} {stats : Segment.Stats}
    (h : s.updateStats id stats = .ok s') {owner : String} (hnot : s.get? owner id = none) :
    s'.get? owner = s.get? owner := by
  funext k
  rw [get?_updateStats h]
  by_cases hk : k = id
  · rw [if_pos hk, hk, hnot]
    rfl
  · rw [if_neg hk]

theorem Indexed.updateStats {s s' : Segments} {id : Uuid} {stats : Segment.Stats}
    (hs : s.Indexed) (h : s.updateStats id stats = .ok s') : s'.Indexed := by
  obtain ⟨-, -, -, hnames⟩ := updateStats_cases h
  intro owner name k
  rw [hnames, hs owner name k, get?_updateStats h]
  by_cases hk : k = id
  · subst hk
    rw [if_pos rfl]
    constructor
    · rintro ⟨segment, hget, hname⟩
      exact ⟨segment.applyStats stats, by rw [hget]; rfl, hname⟩
    · rintro ⟨updated, hget, hname⟩
      obtain ⟨segment, hheld, rfl⟩ := Option.map_eq_some_iff.1 hget
      exact ⟨segment, hheld, hname⟩
  · rw [if_neg hk]

section Agreement

variable {s t : Segments} {owner : String}

theorem insert_agree {segment : Segment} (hs : s.Indexed) (ht : t.Indexed)
    (h : s.get? segment.owner = t.get? segment.owner) :
    (s.insert segment).map (fun s' => s'.get? segment.owner) =
      (t.insert segment).map fun t' => t'.get? segment.owner := by
  have hcontains : s.names.contains (segment.owner, segment.name) =
      t.names.contains (segment.owner, segment.name) := by
    rw [Table.contains, Table.contains, hs.names_eq ht h]
  by_cases htaken : s.names.contains (segment.owner, segment.name)
  · rw [insert, insert, ← hcontains, if_pos htaken, if_pos htaken]
  · have inserts {s : Segments} (hfree : ¬s.names.contains (segment.owner, segment.name)) :
        ∃ s', s.insert segment = .ok s' := by
      rw [insert, if_neg hfree]
      exact ⟨_, rfl⟩
    obtain ⟨s', hs'⟩ := inserts htaken
    obtain ⟨t', ht'⟩ := inserts (hcontains ▸ htaken)
    rw [hs', ht']
    refine congrArg Except.ok (funext fun id => ?_)
    change s'.get? segment.owner id = t'.get? segment.owner id
    rw [get?_insert hs', get?_insert ht', h]

theorem updateStats_agree {id : Uuid} {segment : Segment} (stats : Segment.Stats)
    (h : s.get? owner = t.get? owner) (hid : s.get? owner id = some segment) :
    (s.updateStats id stats).map (fun s' => s'.get? owner) =
      (t.updateStats id stats).map fun t' => t'.get? owner := by
  have updates {s : Segments} (hid : s.get? owner id = some segment) :
      ∃ s', s.updateStats id stats = .ok s' := by
    rw [updateStats, (get?_eq_some_iff.1 hid).1]
    exact ⟨_, rfl⟩
  obtain ⟨s', hs'⟩ := updates hid
  obtain ⟨t', ht'⟩ := updates (h ▸ hid)
  rw [hs', ht']
  refine congrArg Except.ok (funext fun k => ?_)
  change s'.get? owner k = t'.get? owner k
  rw [get?_updateStats hs', get?_updateStats ht', h]

end Agreement

end Segments

end Store

end Segmentation
