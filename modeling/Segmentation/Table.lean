namespace Segmentation

structure Table (κ α : Type) where
  entries : List (κ × α)
  nodup_keys : (entries.map Prod.fst).Nodup

namespace Table

variable {κ α : Type}

def empty : Table κ α := ⟨[], List.nodup_nil⟩

instance : Inhabited (Table κ α) := ⟨empty⟩

def values (t : Table κ α) : List α :=
  t.entries.map Prod.snd

variable [DecidableEq κ]

def lookup (key : κ) : List (κ × α) → Option α
  | [] => none
  | (k, v) :: rest => if k = key then some v else lookup key rest

/-- The entries with a value put in the place of the key's old one, or at the end. -/
def place (key : κ) (value : α) : List (κ × α) → List (κ × α)
  | [] => [(key, value)]
  | (k, v) :: rest => if k = key then (key, value) :: rest else (k, v) :: place key value rest

theorem mem_keys_place {key k : κ} {value : α} {entries : List (κ × α)} :
    k ∈ (place key value entries).map Prod.fst ↔ k = key ∨ k ∈ entries.map Prod.fst := by
  induction entries with
  | nil => simp [place]
  | cons entry rest ih =>
    obtain ⟨k', v⟩ := entry
    simp only [place]
    split
    · next h => simp [h]
    · simp only [List.map_cons, List.mem_cons, ih]
      constructor
      · rintro (h | h | h) <;> simp [h]
      · rintro (h | h | h) <;> simp [h]

theorem nodup_place {key : κ} {value : α} {entries : List (κ × α)}
    (h : (entries.map Prod.fst).Nodup) : ((place key value entries).map Prod.fst).Nodup := by
  induction entries with
  | nil => simp [place]
  | cons entry rest ih =>
    obtain ⟨k, v⟩ := entry
    simp only [List.map_cons, List.nodup_cons] at h
    simp only [place]
    split
    · next hk => subst hk; simpa using h
    · next hk =>
      simp only [List.map_cons, List.nodup_cons]
      refine ⟨fun hm => ?_, ih h.2⟩
      rcases mem_keys_place.1 hm with hm | hm
      · exact hk hm
      · exact h.1 hm

theorem lookup_place {key k : κ} {value : α} {entries : List (κ × α)} :
    lookup k (place key value entries) = if k = key then some value else lookup k entries := by
  induction entries with
  | nil => simp [place, lookup, eq_comm]
  | cons entry rest ih =>
    obtain ⟨k', v⟩ := entry
    simp only [place]
    split
    · next hk =>
      subst hk
      by_cases h : k = k'
      · simp [lookup, h]
      · simp [lookup, h, Ne.symm h]
    · next hk =>
      simp only [lookup, ih]
      by_cases h : k' = k
      · subst h; simp [hk]
      · simp [h]

theorem mem_keys_of_lookup {key : κ} {value : α} {entries : List (κ × α)}
    (h : lookup key entries = some value) : key ∈ entries.map Prod.fst := by
  induction entries with
  | nil => simp [lookup] at h
  | cons entry rest ih =>
    obtain ⟨k, v⟩ := entry
    simp only [lookup] at h
    split at h
    · next hk => simp [hk]
    · simp only [List.map_cons, List.mem_cons]
      exact Or.inr (ih h)

def get? (t : Table κ α) (key : κ) : Option α :=
  lookup key t.entries

def contains (t : Table κ α) (key : κ) : Bool :=
  (t.get? key).isSome

def insert (t : Table κ α) (key : κ) (value : α) : Table κ α :=
  ⟨place key value t.entries, nodup_place t.nodup_keys⟩

theorem get?_insert (t : Table κ α) (key k : κ) (value : α) :
    (t.insert key value).get? k = if k = key then some value else t.get? k :=
  lookup_place

@[simp] theorem get?_empty (key : κ) : (empty : Table κ α).get? key = none :=
  rfl

theorem mem_values_iff {t : Table κ α} {v : α} : v ∈ t.values ↔ ∃ key, t.get? key = some v := by
  obtain ⟨entries, nodup⟩ := t
  simp only [values, get?]
  induction entries with
  | nil => simp [lookup]
  | cons entry rest ih =>
    obtain ⟨k, w⟩ := entry
    simp only [List.map_cons, List.nodup_cons] at nodup
    simp only [List.map_cons, List.mem_cons, ih nodup.2, lookup]
    constructor
    · rintro (rfl | ⟨key, h⟩)
      · exact ⟨k, by simp⟩
      · refine ⟨key, ?_⟩
        have hk : k ≠ key := by
          rintro rfl
          exact nodup.1 (mem_keys_of_lookup h)
        simp [hk, h]
    · rintro ⟨key, h⟩
      split at h
      · left; simpa using h.symm
      · right; exact ⟨key, h⟩

end Table

end Segmentation
