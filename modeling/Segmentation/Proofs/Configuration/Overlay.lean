import Mathlib.Data.List.Induction
import Segmentation.Configuration.Coercion
import Segmentation.Configuration.Source

namespace Segmentation

namespace Table

variable {κ α : Type} [DecidableEq κ]

theorem mem_of_lookup {key : κ} {value : α} {entries : List (κ × α)}
    (h : lookup key entries = some value) : (key, value) ∈ entries := by
  induction entries with
  | nil => cases h
  | cons entry rest ih =>
    obtain ⟨k, v⟩ := entry
    rw [lookup] at h
    split at h
    · next hk =>
      cases h
      rw [hk]
      exact List.mem_cons_self
    · exact List.mem_cons_of_mem _ (ih h)

theorem lookup_eq_none {key : κ} {entries : List (κ × α)} (h : key ∉ entries.map Prod.fst) :
    lookup key entries = none := by
  cases hlookup : lookup key entries with
  | none => rfl
  | some value => exact absurd (mem_keys_of_lookup hlookup) h

end Table

namespace Configuration.Setting

def isValue : Setting → Bool
  | .section _ => false
  | _ => true

/-- A section that says nothing. -/
def isVoid : Setting → Bool
  | .section [] => true
  | _ => false

/-- No section in the setting has a name twice. -/
inductive IsKeyed : Setting → Prop
  | value {s : Setting} (h : s.isValue) : IsKeyed s
  | inside {entries : Entries} (nodup : (entries.map Prod.fst).Nodup)
      (values : ∀ e ∈ entries, IsKeyed e.2) : IsKeyed (.section entries)

section Keyed

variable {name : String} {s : Setting} {entries : Entries}

theorem IsKeyed.nodup (h : (Setting.section entries).IsKeyed) :
    (entries.map Prod.fst).Nodup := by
  cases h with
  | value h => cases h
  | inside nodup values => exact nodup

theorem IsKeyed.of_mem (h : (Setting.section entries).IsKeyed) {e : String × Setting}
    (he : e ∈ entries) : e.2.IsKeyed := by
  cases h with
  | value h => cases h
  | inside nodup values => exact values e he

theorem IsKeyed.of_lookup (h : (Setting.section entries).IsKeyed)
    (hlookup : Table.lookup name entries = some s) : s.IsKeyed :=
  h.of_mem (Table.mem_of_lookup hlookup)

theorem isKeyed_nil : (Setting.section []).IsKeyed :=
  .inside List.nodup_nil fun _ h => absurd h List.not_mem_nil

theorem isKeyed_entriesOf {lower? : Option Setting} (h : ∀ s ∈ lower?, s.IsKeyed) :
    (Setting.section (entriesOf lower?)).IsKeyed := by
  match lower?, h with
  | some (.section entries), h => exact h _ rfl
  | none, _ | some (.bool _), _ | some (.int _), _ | some (.float _), _ | some (.text _), _
  | some (.array _), _ =>
    exact isKeyed_nil

theorem mem_place {e : String × Setting} (h : e ∈ Table.place name s entries) :
    e = (name, s) ∨ e ∈ entries := by
  induction entries with
  | nil => exact .inl (List.mem_singleton.1 h)
  | cons entry rest ih =>
    rw [Table.place] at h
    split at h
    · rcases List.mem_cons.1 h with h | h
      · exact .inl h
      · exact .inr (List.mem_cons_of_mem _ h)
    · rcases List.mem_cons.1 h with rfl | h
      · exact .inr List.mem_cons_self
      · exact (ih h).imp_right (List.mem_cons_of_mem _)

theorem isKeyed_place (hs : s.IsKeyed) (h : (Setting.section entries).IsKeyed) :
    (Setting.section (Table.place name s entries)).IsKeyed := by
  refine .inside (Table.nodup_place h.nodup) fun e he => ?_
  rcases mem_place he with rfl | he
  · exact hs
  · exact h.of_mem he

mutual

theorem isKeyed_onto {lower? : Option Setting} (h : ∀ s ∈ lower?, s.IsKeyed) (s : Setting)
    (hs : s.IsKeyed) : (onto lower? s).IsKeyed := by
  match s, hs with
  | .bool _, hs | .int _, hs | .float _, hs | .text _, hs | .array _, hs => exact hs
  | .section [], hs =>
    rw [onto]
    cases lower? with
    | none => exact hs
    | some s => exact h s rfl
  | .section (e :: rest), hs => exact isKeyed_overlay (isKeyed_entriesOf h) (e :: rest) hs

theorem isKeyed_overlay {lower : Entries} (h : (Setting.section lower).IsKeyed)
    (upper : Entries) (hupper : (Setting.section upper).IsKeyed) :
    (Setting.section (overlay lower upper)).IsKeyed := by
  cases upper with
  | nil => exact h
  | cons e rest =>
    obtain ⟨name, s⟩ := e
    have hs : (onto (Table.lookup name lower) s).IsKeyed :=
      isKeyed_onto (fun t ht => h.of_lookup ht) s (hupper.of_mem List.mem_cons_self)
    have hrest : (Setting.section rest).IsKeyed :=
      .inside (List.nodup_cons.1 hupper.nodup).2
        fun e he => hupper.of_mem (List.mem_cons_of_mem _ he)
    exact isKeyed_overlay (isKeyed_place hs h) rest hrest

end

end Keyed

theorem lookup_overlay {lower upper : Entries} (nodup : (upper.map Prod.fst).Nodup)
    (name : String) : Table.lookup name (overlay lower upper) =
      ((Table.lookup name upper).map (onto (Table.lookup name lower))).or
        (Table.lookup name lower) := by
  induction upper generalizing lower with
  | nil => rfl
  | cons e rest ih =>
    obtain ⟨n, s⟩ := e
    obtain ⟨hnew, hrest⟩ := List.nodup_cons.1 nodup
    rw [overlay, ih hrest, Table.lookup_place, Table.lookup]
    by_cases hname : n = name
    · rw [← hname, Table.lookup_eq_none hnew]
      simp
    · rw [if_neg hname, if_neg (Ne.symm hname)]

theorem mem_keys_overlay {lower upper : Entries} {name : String} :
    name ∈ (overlay lower upper).map Prod.fst ↔
      name ∈ lower.map Prod.fst ∨ name ∈ upper.map Prod.fst := by
  induction upper generalizing lower with
  | nil => simp [overlay]
  | cons e rest ih =>
    obtain ⟨n, s⟩ := e
    rw [overlay, ih, Table.mem_keys_place, List.map_cons, List.mem_cons, or_comm (a := name = n),
      or_assoc]

section Levels

/-- The entries of a section inside of sections. -/
def level : List String → Entries → Entries
  | [], entries => entries
  | name :: path, entries => level path (entriesOf (Table.lookup name entries))

/-- On the way along a path there is no value where a section is looked for. -/
def IsOpen : List String → Entries → Prop
  | [], _ => True
  | name :: path, entries => (∀ s, Table.lookup name entries = some s → s.isValue = false) ∧
    IsOpen path (entriesOf (Table.lookup name entries))

@[simp] theorem level_nil (path : List String) : level path [] = [] := by
  induction path with
  | nil => rfl
  | cons name path ih => exact ih

theorem atPath_of_isValue {s : Setting} (h : s.isValue) {path : List String} (hne : path ≠ []) :
    atPath path s = none := by
  obtain ⟨name, path, rfl⟩ := List.exists_cons_of_ne_nil hne
  match s, h with
  | .bool _, _ | .int _, _ | .float _, _ | .text _, _ | .array _, _ => rfl

theorem entriesOf_of_isValue {s : Setting} (h : s.isValue) : entriesOf (some s) = [] := by
  match s, h with
  | .bool _, _ | .int _, _ | .float _, _ | .text _, _ | .array _, _ => rfl

theorem eq_section_of_not_isValue {s : Setting} (h : s.isValue = false) :
    s = .section (entriesOf (some s)) := by
  match s, h with
  | .section entries, _ => rfl

theorem atPath_append (path : List String) (name : String) (entries : Entries) :
    atPath (path ++ [name]) (.section entries) = Table.lookup name (level path entries) := by
  induction path generalizing entries with
  | nil =>
    change (Table.lookup name entries).bind (atPath []) = _
    cases h : Table.lookup name entries <;> simp [h, level, atPath]
  | cons n path ih =>
    change (Table.lookup n entries).bind (atPath (path ++ [name])) = _
    rw [level]
    cases Table.lookup n entries with
    | none =>
      change none = Table.lookup name (level path [])
      rw [level_nil]
      rfl
    | some s =>
      cases hs : s.isValue with
      | true =>
        rw [Option.bind_some, atPath_of_isValue hs (List.concat_ne_nil name path),
          entriesOf_of_isValue hs, level_nil]
        rfl
      | false =>
        rw [Option.bind_some, eq_section_of_not_isValue hs]
        exact ih _

theorem entriesOf_onto (lower? : Option Setting) {s : Setting} (h : s.isValue = false) :
    entriesOf (some (onto lower? s)) = overlay (entriesOf lower?) (entriesOf (some s)) := by
  match s, h with
  | .section [], _ => cases lower? <;> rfl
  | .section (_ :: _), _ => rfl

theorem level_overlay {lower upper : Entries} (keyed : (Setting.section upper).IsKeyed)
    {path : List String} (isOpen : IsOpen path upper) :
    level path (overlay lower upper) = overlay (level path lower) (level path upper) := by
  induction path generalizing lower upper with
  | nil => rfl
  | cons name path ih =>
    obtain ⟨hopen, hrest⟩ := isOpen
    have hinside : entriesOf (Table.lookup name (overlay lower upper)) =
        overlay (entriesOf (Table.lookup name lower)) (entriesOf (Table.lookup name upper)) := by
      rw [lookup_overlay keyed.nodup]
      cases hs : Table.lookup name upper with
      | none => rfl
      | some s => exact entriesOf_onto _ (hopen s hs)
    rw [level, hinside]
    exact ih (isKeyed_entriesOf fun s hs => keyed.of_lookup hs) hrest

@[simp] theorem isOpen_nil (path : List String) : IsOpen path [] := by
  induction path with
  | nil => trivial
  | cons name path ih => exact ⟨fun s hs => (nomatch hs), ih⟩

theorem isOpen_overlay {lower upper : Entries} (keyed : (Setting.section upper).IsKeyed)
    {path : List String} (hlower : IsOpen path lower) (hupper : IsOpen path upper) :
    IsOpen path (overlay lower upper) := by
  induction path generalizing lower upper with
  | nil => trivial
  | cons name path ih =>
    rw [IsOpen, lookup_overlay keyed.nodup]
    cases hs : Table.lookup name upper with
    | none => exact hlower
    | some s =>
      have hsection := hupper.1 s hs
      constructor
      · intro t ht
        cases ht
        match s, hsection with
        | .section [], _ =>
          cases ht : Table.lookup name lower with
          | none => rfl
          | some t => exact hlower.1 t ht
        | .section (_ :: _), _ => rfl
      · change IsOpen path (entriesOf (some (onto (Table.lookup name lower) s)))
        rw [entriesOf_onto _ hsection, ← hs]
        exact ih (isKeyed_entriesOf fun s hs => keyed.of_lookup hs) hlower.2 hupper.2

theorem isKeyed_level {entries : Entries} (h : (Setting.section entries).IsKeyed)
    (path : List String) : (Setting.section (level path entries)).IsKeyed := by
  induction path generalizing entries with
  | nil => exact h
  | cons name path ih => exact ih (isKeyed_entriesOf fun s hs => h.of_lookup hs)

variable {sources : List Entries}

theorem isKeyed_foldl_overlay {base : Entries} (h : (Setting.section base).IsKeyed)
    (keyed : ∀ source ∈ sources, (Setting.section source).IsKeyed) :
    (Setting.section (sources.foldl overlay base)).IsKeyed := by
  induction sources generalizing base with
  | nil => exact h
  | cons source rest ih =>
    rw [List.forall_mem_cons] at keyed
    exact ih (isKeyed_overlay h source keyed.1) keyed.2

theorem level_foldl_overlay (base : Entries) {path : List String}
    (keyed : ∀ source ∈ sources, (Setting.section source).IsKeyed)
    (isOpen : ∀ source ∈ sources, IsOpen path source) :
    level path (sources.foldl overlay base) =
      (sources.map (level path)).foldl overlay (level path base) := by
  induction sources generalizing base with
  | nil => rfl
  | cons source rest ih =>
    rw [List.forall_mem_cons] at keyed isOpen
    rw [List.foldl_cons, ih _ keyed.2 isOpen.2, level_overlay keyed.1 isOpen.1, List.map_cons,
      List.foldl_cons]

theorem isOpen_foldl_overlay {base : Entries} {path : List String} (h : IsOpen path base)
    (keyed : ∀ source ∈ sources, (Setting.section source).IsKeyed)
    (isOpen : ∀ source ∈ sources, IsOpen path source) :
    IsOpen path (sources.foldl overlay base) := by
  induction sources generalizing base with
  | nil => exact h
  | cons source rest ih =>
    rw [List.forall_mem_cons] at keyed isOpen
    exact ih (isOpen_overlay keyed.1 h isOpen.1) keyed.2 isOpen.2

end Levels

section Readers

variable {α : Type}

/-- A reader makes nothing of a section that says nothing, and what it makes of a setting that was
put over another it makes of the upper one alone. -/
structure ReadsUpper (read : Setting → Option α) : Prop where
  void : ∀ s : Setting, s.isVoid → read s = none
  onto : ∀ (lower? : Option Setting) (s : Setting) (a : α), s.IsKeyed → s.isVoid = false →
    read (onto lower? s) = some a → read s = some a

theorem ReadsUpper.of_values {read : Setting → Option α}
    (h : ∀ entries, read (.section entries) = none) : ReadsUpper read where
  void s hs := by
    match s, hs with
    | .section [], _ => exact h []
  onto lower? s a _ hs hread := by
    match s, hs with
    | .bool _, _ | .int _, _ | .float _, _ | .text _, _ | .array _, _ => exact hread
    | .section (e :: rest), _ =>
      rw [Setting.onto, h] at hread
      cases hread

def given? (name : String) (source : Entries) : Option Setting :=
  (Table.lookup name source).filter fun s => !s.isVoid

variable {name : String} {base : Entries} {sources : List Entries}

theorem given?_eq_some_iff {source : Entries} {s : Setting} : given? name source = some s ↔
    Table.lookup name source = some s ∧ s.isVoid = false := by
  rw [given?, Option.filter_eq_some_iff]
  simp

theorem given?_of_lookup_eq_none {source : Entries} (h : Table.lookup name source = none) :
    given? name source = none := by
  rw [given?, h]
  rfl

theorem lookup_overlay_of_not_given {lower upper : Entries} {s : Setting}
    (nodup : (upper.map Prod.fst).Nodup) (hnone : given? name upper = none)
    (h : Table.lookup name (overlay lower upper) = some s) :
    s.isVoid ∨ Table.lookup name lower = some s := by
  rw [lookup_overlay nodup] at h
  cases hupper : Table.lookup name upper with
  | none =>
    rw [hupper] at h
    exact .inr h
  | some t =>
    rw [hupper] at h
    cases h
    match t with
    | .section [] =>
      rw [onto]
      cases hlower : Table.lookup name lower with
      | none => exact .inl rfl
      | some s => exact .inr rfl
    | .section (_ :: _) | .bool _ | .int _ | .float _ | .text _ | .array _ =>
      rw [given?_eq_some_iff.2 ⟨hupper, rfl⟩] at hnone
      cases hnone

theorem lookup_overlay_of_given {lower upper : Entries} {t : Setting}
    (nodup : (upper.map Prod.fst).Nodup) (h : given? name upper = some t) :
    Table.lookup name (overlay lower upper) = some (onto (Table.lookup name lower) t) := by
  rw [lookup_overlay nodup, (given?_eq_some_iff.1 h).1]
  rfl

theorem isVoid_of_onto {lower? : Option Setting} {s : Setting} (h : (onto lower? s).isVoid) :
    s.isVoid ∧ ∀ t ∈ lower?, t.isVoid := by
  match s with
  | .bool _ | .int _ | .float _ | .text _ | .array _ => cases h
  | .section [] =>
    refine ⟨rfl, fun t ht => ?_⟩
    rw [ht] at h
    exact h
  | .section (e :: rest) =>
    have hmem : e.1 ∈ (overlay (entriesOf lower?) (e :: rest)).map Prod.fst :=
      mem_keys_overlay.2 (.inr List.mem_cons_self)
    rw [onto] at h
    match overlay (entriesOf lower?) (e :: rest), hmem, h with
    | [], hmem, _ => cases hmem

theorem given?_eq_none_iff {source : Entries} :
    given? name source = none ↔ ∀ s ∈ Table.lookup name source, s.isVoid := by
  simp [given?, Option.filter_eq_none_iff]

theorem given?_overlay_eq_none {lower upper : Entries} (nodup : (upper.map Prod.fst).Nodup)
    (h : given? name (overlay lower upper) = none) :
    given? name upper = none ∧ given? name lower = none := by
  rw [given?_eq_none_iff, lookup_overlay nodup] at h
  rw [given?_eq_none_iff, given?_eq_none_iff]
  cases hupper : Table.lookup name upper with
  | none =>
    rw [hupper] at h
    exact ⟨fun s hs => (nomatch hs), h⟩
  | some s =>
    rw [hupper] at h
    obtain ⟨hs, hlower⟩ := isVoid_of_onto (h _ rfl)
    refine ⟨fun t ht => ?_, hlower⟩
    cases ht
    exact hs

def first? (name : String) (sources : List Entries) : Option Setting :=
  sources.findSome? (given? name)

section Sources

variable (keyed : ∀ source ∈ sources, (Setting.section source).IsKeyed)

include keyed

theorem first?_eq_none (h : given? name (sources.foldl overlay base) = none) :
    first? name (sources.reverse ++ [base]) = none := by
  rw [first?, List.findSome?_eq_none_iff]
  induction sources using List.reverseRecOn with
  | nil =>
    intro source hsource
    rw [List.mem_singleton.1 hsource]
    exact h
  | append_singleton sources source ih =>
    rw [List.foldl_append, List.foldl_cons, List.foldl_nil] at h
    obtain ⟨hupper, hlower⟩ := given?_overlay_eq_none (keyed source List.mem_concat_self).nodup h
    have hrest := ih (fun t ht => keyed t (List.mem_append_left _ ht)) hlower
    intro t ht
    rw [List.reverse_append, List.reverse_singleton, List.singleton_append, List.cons_append] at ht
    rcases List.mem_cons.1 ht with rfl | ht
    · exact hupper
    · exact hrest t ht

theorem reads_foldl_overlay {read : Setting → Option α} (h : ReadsUpper read) {s : Setting} {a : α}
    (hs : Table.lookup name (sources.foldl overlay base) = some s) (ha : read s = some a) :
    (first? name (sources.reverse ++ [base])).bind read = some a := by
  -- By induction on the sources, the uppermost first: where that says nothing, what is read comes
  -- from the others.
  have not_void {s : Setting} (ha : read s = some a) : ¬s.isVoid := by
    intro hvoid
    rw [h.void s hvoid] at ha
    cases ha
  induction sources using List.reverseRecOn generalizing s with
  | nil =>
    have hgiven : given? name base = some s :=
      given?_eq_some_iff.2 ⟨hs, Bool.eq_false_iff.2 (not_void ha)⟩
    rw [first?, List.reverse_nil, List.nil_append, List.findSome?_cons, hgiven]
    exact ha
  | append_singleton sources source ih =>
    have keyedUpper := keyed source List.mem_concat_self
    rw [List.foldl_append, List.foldl_cons, List.foldl_nil] at hs
    rw [first?, List.reverse_append, List.reverse_singleton, List.singleton_append,
      List.cons_append, List.findSome?_cons]
    cases hgiven : given? name source with
    | none =>
      rcases lookup_overlay_of_not_given keyedUpper.nodup hgiven hs with hvoid | hlower
      · exact absurd hvoid (not_void ha)
      · exact ih (fun t ht => keyed t (List.mem_append_left _ ht)) hlower ha
    | some t =>
      obtain ⟨ht, hvoid⟩ := given?_eq_some_iff.1 hgiven
      rw [lookup_overlay_of_given keyedUpper.nodup hgiven] at hs
      cases hs
      exact h.onto _ t a (keyedUpper.of_lookup ht) hvoid ha

end Sources

end Readers

end Configuration.Setting

end Segmentation
