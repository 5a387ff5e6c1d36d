import Segmentation.Proofs.Filter.Text
import Segmentation.Proofs.Sql.Rows

namespace Segmentation

namespace Table

variable {κ α : Type} [DecidableEq κ]

theorem values_insert_of_none {t : Table κ α} {key : κ} {value : α} (h : t.get? key = none) :
    (t.insert key value).values = t.values ++ [value] := by
  obtain ⟨entries, nodup⟩ := t
  change lookup key entries = none at h
  change (place key value entries).map Prod.snd = entries.map Prod.snd ++ [value]
  clear nodup
  induction entries with
  | nil => rfl
  | cons entry rest ih =>
    obtain ⟨k, v⟩ := entry
    rw [lookup] at h
    by_cases hk : k = key
    · rw [if_pos hk] at h
      cases h
    · rw [if_neg hk] at h
      rw [place, if_neg hk, List.map_cons, ih h]
      rfl

theorem values_insert_of_some {t : Table κ α} {key : κ} {value : α} {f : α → α}
    (h : t.get? key = some value) (others : ∀ k v, t.get? k = some v → k ≠ key → f v = v) :
    (t.insert key (f value)).values = t.values.map f := by
  obtain ⟨entries, nodup⟩ := t
  change lookup key entries = some value at h
  change ∀ k v, lookup k entries = some v → _ at others
  change (place key (f value) entries).map Prod.snd = (entries.map Prod.snd).map f
  induction entries with
  | nil => cases h
  | cons entry rest ih =>
    obtain ⟨k, v⟩ := entry
    obtain ⟨hnew, hrest⟩ := List.nodup_cons.1 nodup
    have hlookup (j : κ) (w : α) (hj : lookup j rest = some w) :
        lookup j ((k, v) :: rest) = some w := by
      have hne : k ≠ j := fun hkj => hnew (hkj ▸ mem_keys_of_lookup hj)
      rw [lookup, if_neg hne, hj]
    rw [lookup] at h
    by_cases hk : k = key
    · subst hk
      rw [if_pos rfl] at h
      cases h
      rw [place, if_pos rfl, List.map_cons, List.map_cons, List.map_cons]
      refine congrArg _ ((List.map_congr_left fun w hw => ?_).trans (List.map_id _)).symm
      obtain ⟨⟨j, w⟩, hmem, rfl⟩ := List.mem_map.1 hw
      have hj := lookup_of_mem hrest hmem
      exact others j w (hlookup j w hj) fun hjk => hnew (hjk ▸ mem_keys_of_lookup hj)
    · rw [if_neg hk] at h
      rw [place, if_neg hk, List.map_cons, List.map_cons, List.map_cons,
        ih hrest h fun j w hj => others j w (hlookup j w hj)]
      exact congrArg (· :: _) (others k v (if_pos rfl) hk).symm

end Table

/-- Whether a database can hold a segment so that it is read as it was. -/
structure Segment.IsStorable (codec : Json.Codec) (s : Segment) : Prop where
  finite : s.filter.IsFinite
  filter : codec.Holds s.filter.toJson
  rules : codec.Holds s.rules
  sorted : s.rules.sorted = s.rules
  createdAt : s.createdAt.IsStorable
  updatedAt : s.updatedAt.IsStorable
  lastRun : ∀ t, s.lastRun = some t → t.IsStorable

structure Segment.Stats.IsStorable (codec : Json.Codec) (stats : Segment.Stats) : Prop where
  finite : stats.filter.IsFinite
  filter : codec.Holds stats.filter.toJson
  lastRun : stats.lastRun.IsStorable

theorem Segment.IsStorable.applyStats {codec : Json.Codec} {s : Segment} {stats : Segment.Stats}
    (h : s.IsStorable codec) (hstats : stats.IsStorable codec) :
    (s.applyStats stats).IsStorable codec where
  finite := hstats.finite
  filter := hstats.filter
  rules := h.rules
  sorted := h.sorted
  createdAt := h.createdAt
  updatedAt := hstats.lastRun
  lastRun t ht := by
    cases ht
    exact hstats.lastRun

namespace Sql

namespace Segments

variable {codec : Json.Codec}

theorem clash_toRow (s t : Segment) : Schema.segmentsRelation.clash (toRow s) (toRow t) = true ↔
    s.id = t.id ∨ s.owner = t.owner ∧ s.name = t.name := by
  have hid : Value.equal? (Table.lookup "id" (toRow s)) (Table.lookup "id" (toRow t)) = _ :=
    Value.equal?_uuid s.id t.id
  have howner : Value.equal? (Table.lookup "owner_id" (toRow s))
      (Table.lookup "owner_id" (toRow t)) = _ := Value.equal?_text s.owner t.owner
  have hname : Value.equal? (Table.lookup "name" (toRow s)) (Table.lookup "name" (toRow t)) = _ :=
    Value.equal?_text s.name t.name
  rw [Relation.clash, Schema.segmentsRelation_eq]
  simp [hid, howner, hname]

theorem isKeyed_map_toRow_iff (l : List Segment) :
    Schema.segmentsRelation.IsKeyed (l.map toRow) ↔
      l.Pairwise fun s t => s.id ≠ t.id ∧ (s.owner = t.owner → s.name ≠ t.name) := by
  rw [Relation.IsKeyed, List.pairwise_map]
  refine Iff.of_eq (congrArg (List.Pairwise · l) ?_)
  funext s t
  rw [← Bool.not_eq_true, clash_toRow, not_or, not_and]

section Selecting

variable {b : Bound} {keys : List (String × Nat)} {tests : Segment → List Bool}

theorem equation?_id {n : Nat} {id : Uuid} (h : b.value? n = some (.uuid id)) (s : Segment) :
    b.equation? (toRow s) ("id", n) = some (some (decide (s.id = id))) := by
  rw [Bound.equation?, h]
  exact Value.equal?_uuid s.id id

/-- Whether a command compares the columns of a segment with its values as some tests do. -/
def ComparesAs (b : Bound) (keys : List (String × Nat)) (tests : Segment → List Bool) : Prop :=
  ∀ s, keys.map (b.equation? (toRow s)) = (tests s).map fun test => some (some test)

theorem meets_toRow (h : ComparesAs b keys tests) (s : Segment) :
    b.meets keys (toRow s) = (tests s).all id := by
  have hall : b.meets keys (toRow s) =
      (keys.map (b.equation? (toRow s))).all (· == some (some true)) := by
    rw [List.all_map]
    rfl
  rw [hall, h s, List.all_map]
  congr 1
  funext test
  cases test <;> rfl

theorem tells_map_toRow (h : ComparesAs b keys tests) (held : List Segment) :
    b.tells keys (held.map toRow) = true := by
  simp only [Bound.tells, List.all_eq_true, List.mem_map]
  rintro row ⟨s, -, rfl⟩ key hkey
  have hmem := List.mem_map_of_mem (f := b.equation? (toRow s)) hkey
  rw [h s, List.mem_map] at hmem
  obtain ⟨test, -, htest⟩ := hmem
  rw [← htest]
  rfl

end Selecting

/-- The rows of the table are those of the segments that a store in memory holds. -/
structure Mirrors (codec : Json.Codec) (held : List Segment) (s : Store.Segments) : Prop where
  perm : held.Perm s.byId.values
  indexed : s.Indexed
  storable : ∀ t ∈ held, t.IsStorable codec

namespace Mirrors

variable {held : List Segment} {s s' : Store.Segments}

theorem empty : Mirrors codec [] .empty where
  perm := .refl _
  indexed := Store.Segments.indexed_empty
  storable _ h := absurd h List.not_mem_nil

theorem mem_iff (h : Mirrors codec held s) {t : Segment} :
    t ∈ held ↔ s.byId.get? t.id = some t := by
  rw [h.perm.mem_iff, Table.mem_values_iff]
  constructor
  · rintro ⟨id, hid⟩
    rwa [s.id_of_get? hid]
  · intro ht
    exact ⟨t.id, ht⟩

theorem eq_of_id_eq (h : Mirrors codec held s) {t u : Segment} (ht : t ∈ held) (hu : u ∈ held)
    (heq : t.id = u.id) : t = u := by
  have hget := h.mem_iff.1 ht
  rw [heq, h.mem_iff.1 hu] at hget
  exact (Option.some.inj hget).symm

theorem isKeyed (h : Mirrors codec held s) :
    Schema.segmentsRelation.IsKeyed (held.map toRow) := by
  rw [isKeyed_map_toRow_iff]
  have hnodup : held.Nodup := h.perm.nodup_iff.2 (Table.nodup_values s.id_of_get?)
  have hnamed {t : Segment} (ht : t ∈ held) : s.names.get? (t.owner, t.name) = some t.id :=
    (h.indexed t.owner t.name t.id).2
      ⟨t, Store.Segments.get?_eq_some_iff.2 ⟨h.mem_iff.1 ht, rfl⟩, rfl⟩
  refine hnodup.imp_of_mem fun {t u} ht hu hne => ⟨fun heq => hne (h.eq_of_id_eq ht hu heq), ?_⟩
  intro howner hname
  have hsame := hnamed ht
  rw [howner, hname, hnamed hu] at hsame
  exact hne (h.eq_of_id_eq ht hu (Option.some.inj hsame).symm)

theorem insert {segment : Segment} (h : Mirrors codec held s) (storable : segment.IsStorable codec)
    (unused : s.byId.get? segment.id = none) (hinsert : s.insert segment = .ok s') :
    Mirrors codec (segment :: held) s' where
  perm := by
    rw [(Store.Segments.insert_cases hinsert).2.1, Store.Segments.place,
      Table.values_insert_of_none unused]
    exact (h.perm.cons segment).trans (List.perm_append_singleton _ _).symm
  indexed := h.indexed.insert unused hinsert
  storable t ht := by
    rcases List.mem_cons.1 ht with rfl | ht
    · exact storable
    · exact h.storable t ht

theorem not_isKeyed_of_error {segment : Segment} {f : Failure} (h : Mirrors codec held s)
    (hinsert : s.insert segment = .error f) :
    f = .nameTaken segment.name ∧
      ¬Schema.segmentsRelation.IsKeyed ((segment :: held).map toRow) := by
  rw [Store.Segments.insert] at hinsert
  split at hinsert
  · next htaken =>
    cases hinsert
    refine ⟨rfl, fun hkeyed => ?_⟩
    obtain ⟨id, hid⟩ := Option.isSome_iff_exists.1 htaken
    obtain ⟨t, ht, hname⟩ := (h.indexed segment.owner segment.name id).1 hid
    obtain ⟨hget, howner⟩ := Store.Segments.get?_eq_some_iff.1 ht
    rw [← s.id_of_get? hget] at hget
    have hpairwise := (isKeyed_map_toRow_iff _).1 hkeyed
    exact (List.rel_of_pairwise_cons hpairwise (h.mem_iff.2 hget)).2 howner.symm hname.symm
  · cases hinsert

theorem updateStats {id : Uuid} {stats : Segment.Stats} (h : Mirrors codec held s)
    (storable : stats.IsStorable codec) (hupdate : s.updateStats id stats = .ok s') :
    Mirrors codec (held.map fun t => if t.id = id then t.applyStats stats else t) s' where
  perm := by
    obtain ⟨segment, hget, hbyId, -⟩ := Store.Segments.updateStats_cases hupdate
    obtain rfl := s.id_of_get? hget
    rw [hbyId, Store.Segments.place]
    change List.Perm _ (s.byId.insert segment.id (segment.applyStats stats)).values
    have hvalues := Table.values_insert_of_some (t := s.byId)
      (f := fun t => if t.id = segment.id then t.applyStats stats else t) hget
      fun k v hk hne => if_neg (by rwa [s.id_of_get? hk])
    rw [if_pos rfl] at hvalues
    rw [hvalues]
    exact h.perm.map _
  indexed := h.indexed.updateStats hupdate
  storable t ht := by
    obtain ⟨u, hu, rfl⟩ := List.mem_map.1 ht
    split
    · exact (h.storable u hu).applyStats storable
    · exact h.storable u hu

end Mirrors

section Reading

variable {held : List Segment} {s : Store.Segments} {rows : List Row} {b : Bound}
  {keys : List (String × Nat)} {tests : Segment → List Bool}

end Reading

end Segments

end Sql

end Segmentation
