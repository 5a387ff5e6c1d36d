import Mathlib.Data.List.Induction
import Segmentation.Proofs.Store.Holdings

namespace Segmentation.Store.Segments

inductive Change where
  | insert (segment : Segment)
  | updateStats (id : Uuid) (stats : Segment.Stats)

def perform (s : Segments) : Change → Except Failure Segments
  | .insert segment => s.insert segment
  | .updateStats id stats => s.updateStats id stats

/-- The store after a change, which leaves it as it was if it is refused. -/
def apply (s : Segments) (c : Change) : Segments :=
  match s.perform c with
  | .ok s' => s'
  | .error _ => s

def after (changes : List Change) : Segments :=
  changes.foldl apply empty

theorem after_concat (changes : List Change) (c : Change) :
    after (changes ++ [c]) = (after changes).apply c := by
  rw [after, List.foldl_append]
  rfl

theorem apply_of_ok {s s' : Segments} {c : Change} (h : s.perform c = .ok s') : s.apply c = s' := by
  rw [apply, h]

theorem apply_of_error {s : Segments} {c : Change} {f : Failure} (h : s.perform c = .error f) :
    s.apply c = s := by
  rw [apply, h]

theorem apply_cases (s : Segments) (c : Change) :
    (∃ f, s.perform c = .error f ∧ s.apply c = s) ∨
      (∃ segment s', c = .insert segment ∧ s.insert segment = .ok s' ∧ s.apply c = s') ∨
      ∃ id stats s', c = .updateStats id stats ∧ s.updateStats id stats = .ok s' ∧
        s.apply c = s' := by
  cases h : s.perform c with
  | error f => exact .inl ⟨f, rfl, apply_of_error h⟩
  | ok s' =>
    have hs' := apply_of_ok h
    cases c with
    | insert segment => exact .inr (.inl ⟨segment, s', rfl, h, hs'⟩)
    | updateStats id stats => exact .inr (.inr ⟨id, stats, s', rfl, h, hs'⟩)

def Holds (s : Segments) (t : Segment) : Prop :=
  s.byId.get? t.id = some t

/-- Whether all three queries of the owner of a segment return it. -/
structure Returns (s : Segments) (t : Segment) : Prop where
  get? : s.get? t.owner t.id = some t
  mem_list : t ∈ s.list t.owner
  findByName : s.findByName t.owner t.name = some t

/-- What holds of an index whatever the identifiers of the segments: no stored segment is missing
in it, and it leads nowhere in vain. -/
structure Covered (s : Segments) : Prop where
  named : ∀ {t}, s.Holds t → s.names.get? (t.owner, t.name) = some t.id
  live : ∀ {key id}, s.names.get? key = some id → ∃ t, s.byId.get? id = some t

/-- Whether a name leads only to a segment of that owner and name. -/
def Faithful (s : Segments) : Prop :=
  ∀ owner name t, s.findByName owner name = some t → t.owner = owner ∧ t.name = name

/-- Whether a segment is taken under the identifier of a stored one. -/
def Reuses (s : Segments) : Change → Prop
  | .insert segment => (∃ s', s.insert segment = .ok s') ∧ s.byId.get? segment.id ≠ none
  | .updateStats _ _ => False

/-- Whether no segment was taken under the identifier of a stored one. -/
def NeverReuses (changes : List Change) : Prop :=
  ∀ before c rest, changes = before ++ c :: rest → ¬(after before).Reuses c

theorem neverReuses_concat_iff {changes : List Change} {c : Change} :
    NeverReuses (changes ++ [c]) ↔ NeverReuses changes ∧ ¬(after changes).Reuses c := by
  constructor
  · intro h
    refine ⟨fun before d rest hd => ?_, h changes c [] rfl⟩
    exact h before d (rest ++ [c]) (by rw [hd]; simp)
  · rintro ⟨h, hlast⟩ before d rest hd
    induction rest using List.reverseRecOn with
    | nil =>
      obtain ⟨rfl, hc⟩ := List.append_inj' hd rfl
      rw [← List.singleton_inj.1 hc]
      exact hlast
    | append_singleton rest e _ =>
      rw [← List.cons_append, ← List.append_assoc] at hd
      exact h before d rest (List.append_inj' hd rfl).1

theorem Holds.returned {s : Segments} {t : Segment} (hs : s.Covered) (h : s.Holds t) :
    s.Returns t where
  get? := get?_eq_some_iff.2 ⟨h, rfl⟩
  mem_list := mem_list.2 (get?_eq_some_iff.2 ⟨h, rfl⟩)
  findByName := by
    rw [findByName, hs.named h]
    exact h

theorem Returns.holds {s : Segments} {t : Segment} (h : s.Returns t) : s.Holds t :=
  (get?_eq_some_iff.1 h.get?).1

section Inserting

variable {s s' : Segments} {segment : Segment} (h : s.insert segment = .ok s')

include h

theorem holds_insert_iff {t : Segment} :
    s'.Holds t ↔ t = segment ∨ s.Holds t ∧ t.id ≠ segment.id := by
  rw [Holds, byId_insert h]
  by_cases hid : t.id = segment.id
  · rw [if_pos hid, Option.some.injEq]
    simp [hid, eq_comm]
  · have hne : t ≠ segment := fun heq => hid (congrArg Segment.id heq)
    rw [if_neg hid]
    simp [Holds, hid, hne]

theorem names_insert (key : String × String) :
    s'.names.get? key =
      if key = (segment.owner, segment.name) then some segment.id else s.names.get? key := by
  obtain ⟨-, -, hnames⟩ := insert_cases h
  rw [hnames, Table.get?_insert]

theorem key_ne_of_holds {t : Segment} (hs : s.Covered) (ht : s.Holds t) :
    (t.owner, t.name) ≠ (segment.owner, segment.name) := by
  intro hkey
  have hnamed := hs.named ht
  rw [hkey, (insert_cases h).1] at hnamed
  cases hnamed

theorem Covered.insert (hs : s.Covered) : s'.Covered where
  named {t} ht := by
    rw [names_insert h]
    rcases (holds_insert_iff h).1 ht with rfl | ⟨hheld, -⟩
    · exact if_pos rfl
    · rw [if_neg (key_ne_of_holds h hs hheld)]
      exact hs.named hheld
  live {key id} hid := by
    rw [names_insert h] at hid
    rw [byId_insert h]
    split at hid
    · cases hid
      exact ⟨segment, if_pos rfl⟩
    · obtain ⟨t, ht⟩ := hs.live hid
      by_cases hnew : id = segment.id
      · exact ⟨segment, if_pos hnew⟩
      · exact ⟨t, by rw [if_neg hnew, ht]⟩

theorem findByName_insert_of_unused (hs : s.Covered) (unused : s.byId.get? segment.id = none)
    (owner name : String) :
    s'.findByName owner name =
      if (owner, name) = (segment.owner, segment.name) then some segment
      else s.findByName owner name := by
  rw [findByName, names_insert h]
  by_cases hkey : (owner, name) = (segment.owner, segment.name)
  · rw [if_pos hkey, if_pos hkey, Option.bind_some, byId_insert h, if_pos rfl]
  · rw [if_neg hkey, if_neg hkey, findByName]
    cases hid : s.names.get? (owner, name) with
    | none => rfl
    | some id =>
      obtain ⟨t, ht⟩ := hs.live hid
      have hne : id ≠ segment.id := by
        rintro rfl
        rw [unused] at ht
        cases ht
      rw [Option.bind_some, Option.bind_some, byId_insert h, if_neg hne]

theorem findByName_insert_of_held {t : Segment} (hs : s.Covered) (ht : s.Holds t)
    (hid : t.id = segment.id) : s'.findByName t.owner t.name = some segment := by
  rw [findByName, names_insert h, if_neg (key_ne_of_holds h hs ht), hs.named ht, Option.bind_some,
    byId_insert h, if_pos hid]

theorem faithful_insert_iff (hs : s.Covered) :
    s'.Faithful ↔ s.Faithful ∧ s.byId.get? segment.id = none := by
  constructor
  · intro hs'
    have unused : s.byId.get? segment.id = none := by
      cases hheld : s.byId.get? segment.id with
      | none => rfl
      | some t =>
        have hid : t.id = segment.id := s.id_of_get? hheld
        have ht : s.Holds t := by rw [Holds, hid, hheld]
        obtain ⟨howner, hname⟩ := hs' _ _ _ (findByName_insert_of_held h hs ht hid)
        exact absurd (Prod.ext howner.symm hname.symm) (key_ne_of_holds h hs ht)
    refine ⟨fun owner name t ht => hs' owner name t ?_, unused⟩
    rw [findByName_insert_of_unused h hs unused, if_neg, ht]
    intro hkey
    rw [findByName, hkey, (insert_cases h).1] at ht
    cases ht
  · rintro ⟨hfaithful, unused⟩ owner name t ht
    rw [findByName_insert_of_unused h hs unused] at ht
    split at ht
    · next hkey =>
      cases ht
      exact ⟨(congrArg Prod.fst hkey).symm, (congrArg Prod.snd hkey).symm⟩
    · exact hfaithful owner name t ht

end Inserting

section Updating

variable {s s' : Segments} {id : Uuid} {stats : Segment.Stats}
  (h : s.updateStats id stats = .ok s')

include h

theorem byId_updateStats_eq_map (k : Uuid) :
    s'.byId.get? k =
      (s.byId.get? k).map fun t => if t.id = id then t.applyStats stats else t := by
  obtain ⟨held, hheld, hafter⟩ := byId_updateStats h
  rw [hafter]
  by_cases hk : k = id
  · rw [if_pos hk, hk, hheld, Option.map_some, if_pos (s.id_of_get? hheld)]
  · rw [if_neg hk]
    cases hget : s.byId.get? k with
    | none => rfl
    | some t => rw [Option.map_some, if_neg (fun hid => hk ((s.id_of_get? hget).symm.trans hid))]

theorem Covered.updateStats (hs : s.Covered) : s'.Covered := by
  obtain ⟨-, -, -, hnames⟩ := updateStats_cases h
  constructor
  · intro t ht
    rw [Holds, byId_updateStats_eq_map h] at ht
    obtain ⟨held, hheld, hafter⟩ := Option.map_eq_some_iff.1 ht
    have hid : held.id = t.id := s.id_of_get? hheld
    have hnamed := hs.named (t := held) (by rw [Holds, hid, hheld])
    rw [hnames, ← hid, ← hnamed, ← hafter]
    split <;> rfl
  · intro key k hk
    rw [hnames] at hk
    obtain ⟨t, ht⟩ := hs.live hk
    exact ⟨_, by rw [byId_updateStats_eq_map h, ht]; rfl⟩

theorem faithful_updateStats_iff : s'.Faithful ↔ s.Faithful := by
  obtain ⟨-, -, -, hnames⟩ := updateStats_cases h
  have hfind (owner name : String) : s'.findByName owner name =
      (s.findByName owner name).map fun t => if t.id = id then t.applyStats stats else t := by
    rw [findByName, findByName, hnames]
    cases s.names.get? (owner, name) with
    | none => rfl
    | some k => exact byId_updateStats_eq_map h k
  have hkey (t : Segment) : (if t.id = id then t.applyStats stats else t).owner = t.owner ∧
      (if t.id = id then t.applyStats stats else t).name = t.name := by
    split <;> exact ⟨rfl, rfl⟩
  constructor
  · intro hs' owner name t ht
    have hafter := hs' owner name _ (by rw [hfind, ht, Option.map_some])
    rwa [(hkey t).1, (hkey t).2] at hafter
  · intro hs owner name t ht
    rw [hfind] at ht
    obtain ⟨held, hheld, rfl⟩ := Option.map_eq_some_iff.1 ht
    rw [(hkey held).1, (hkey held).2]
    exact hs owner name held hheld

end Updating

theorem covered_apply {s : Segments} (hs : s.Covered) (c : Change) : (s.apply c).Covered := by
  rcases s.apply_cases c with ⟨f, -, h⟩ | ⟨segment, s', -, hinsert, h⟩ |
    ⟨id, stats, s', -, hupdate, h⟩
  · rw [h]
    exact hs
  · rw [h]
    exact hs.insert hinsert
  · rw [h]
    exact hs.updateStats hupdate

theorem covered_after (changes : List Change) : (after changes).Covered := by
  induction changes using List.reverseRecOn with
  | nil =>
    constructor
    · intro t ht
      cases ht
    · intro key id hid
      cases hid
  | append_singleton changes c ih =>
    rw [after_concat]
    exact covered_apply ih c

theorem faithful_apply_iff {s : Segments} (hs : s.Covered) (c : Change) :
    (s.apply c).Faithful ↔ s.Faithful ∧ ¬s.Reuses c := by
  rcases s.apply_cases c with
    ⟨f, hrefused, h⟩ | ⟨segment, s', rfl, hinsert, h⟩ | ⟨id, stats, s', rfl, hupdate, h⟩
  · have hnot : ¬s.Reuses c := by
      cases c with
      | insert segment =>
        rintro ⟨⟨s', htaken⟩, -⟩
        cases htaken.symm.trans hrefused
      | updateStats => exact not_false
    rw [h]
    exact (and_iff_left hnot).symm
  · rw [h, faithful_insert_iff hinsert hs, Reuses]
    simp [hinsert]
  · rw [h, faithful_updateStats_iff hupdate, Reuses]
    simp

theorem faithful_after_iff (changes : List Change) :
    (after changes).Faithful ↔ NeverReuses changes := by
  induction changes using List.reverseRecOn with
  | nil =>
    constructor
    · rintro - before c rest h
      simp at h
    · intro _ owner name t ht
      cases ht
  | append_singleton changes c ih =>
    rw [after_concat, faithful_apply_iff (covered_after changes), neverReuses_concat_iff, ih]

/-- After any changes: an insertion that is taken leaves all that was stored to be returned by all
three queries if and only if its identifier is unused, one that is refused changes nothing, and the
names lead to segments of that owner and name alone if and only if no identifier was used again. -/
theorem keeps_stored_iff_unused (changes : List Change) (segment : Segment) :
    (∀ s', (after changes).insert segment = .ok s' →
      ((∀ t, (after changes).Holds t → s'.Returns t) ↔
        (after changes).byId.get? segment.id = none)) ∧
    (∀ f, (after changes).insert segment = .error f →
      (after changes).apply (.insert segment) = after changes) ∧
    ((∀ owner name t, (after changes).findByName owner name = some t →
        t.owner = owner ∧ t.name = name) ↔
      NeverReuses changes) := by
  have hs := covered_after changes
  refine ⟨fun s' h => ?_, fun f h => apply_of_error h, faithful_after_iff changes⟩
  constructor
  · intro hkept
    cases hheld : (after changes).byId.get? segment.id with
    | none => rfl
    | some t =>
      have hid : t.id = segment.id := (after changes).id_of_get? hheld
      have ht : (after changes).Holds t := by rw [Holds, hid, hheld]
      rcases (holds_insert_iff h).1 (hkept t ht).holds with rfl | ⟨-, hne⟩
      · exact absurd rfl (key_ne_of_holds h hs ht)
      · exact absurd hid hne
  · intro unused t ht
    have hne : t.id ≠ segment.id := by
      intro hid
      rw [Holds, hid, unused] at ht
      cases ht
    exact ((holds_insert_iff h).2 (.inr ⟨ht, hne⟩)).returned (hs.insert h)

def ours : Segment where
  id := default
  owner := "ours"
  name := "All"
  description := none
  rules := .null
  filter := .matchAll
  customerCount := none
  isActive := true
  createdAt := default
  updatedAt := default
  lastRun := none

def theirs : Segment :=
  { ours with owner := "theirs", name := "Theirs" }

/-- The second one takes the place of the first one, whose owner then finds it under the name. -/
theorem replaces_stored :
    ∃ s', (after [.insert ours]).insert theirs = .ok s' ∧ (after [.insert ours]).Holds ours ∧
      s'.get? "ours" ours.id = none ∧ s'.findByName "ours" "All" = some theirs :=
  ⟨_, rfl, rfl, rfl, rfl⟩

end Segmentation.Store.Segments
