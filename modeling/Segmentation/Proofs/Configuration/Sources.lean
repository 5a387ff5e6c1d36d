import Segmentation.Configuration.Toml
import Segmentation.Proofs.Configuration.Overlay

namespace Segmentation.Configuration

/-- Whether no section that is read has a name twice, as in any format in which a name that is
given again is a fault. -/
def Reader.IsKeyed (read? : Reader) : Prop :=
  ∀ text entries, read? text = some entries → (Setting.section entries).IsKeyed

namespace Toml

variable {s tail : List Char} {x : Setting}

theorem isValue_of_based? {base : Nat} (h : based? base s = some x) : x.isValue := by
  rw [based?] at h
  simp only [Option.bind_eq_bind, Option.bind_eq_some_iff] at h
  obtain ⟨digits, -, values, -, h⟩ := h
  split at h
  · cases h
    rfl
  · cases h

theorem isValue_of_unsigned? {negative : Bool} (h : unsigned? negative s = some x) :
    x.isValue := by
  have of_whole {n : Int} (h : (if Word.fitsInt n then some (Setting.int n) else none) = some x) :
      x.isValue := by
    split at h
    · cases h
      rfl
    · cases h
  have of_float {fraction? : Option (List Char)} {exponent? : Option Int}
      {y : List Char → Int → Float} (h : (fraction?.bind fun fraction =>
        exponent?.bind fun exponent => some (Setting.float (y fraction exponent))) = some x) :
      x.isValue := by
    simp only [Option.bind_eq_some_iff] at h
    obtain ⟨fraction, -, exponent, -, h⟩ := h
    cases h
    rfl
  rw [unsigned?] at h
  generalize splitExponent s = parts at h
  obtain ⟨mantissa, exponent⟩ := parts
  simp only at h
  generalize Text.splitFirst ['.'] mantissa = parts at h
  obtain ⟨whole, -, h⟩ := Option.bind_eq_some_iff.1 h
  cases parts with
  | none =>
    cases exponent with
    | none => exact of_whole h
    | some digits => exact of_float h
  | some parts => exact of_float h

theorem isValue_of_signed? (h : number?.signed? s = some x) : x.isValue := by
  simp only [number?.signed?] at h
  split at h
  · cases h
    split <;> rfl
  · cases h
    rfl
  · exact isValue_of_unsigned? h

theorem isValue_of_number? (h : number? s = some x) : x.isValue := by
  rw [number?.eq_def] at h
  split at h
  · exact isValue_of_based? h
  · exact isValue_of_based? h
  · exact isValue_of_based? h
  · exact isValue_of_signed? h

theorem isValue_of_value? (h : value? s = some (x, tail)) : x.isValue := by
  rw [value?.eq_def] at h
  split at h
  · obtain ⟨⟨cs, rest⟩, -, heq⟩ := Option.map_eq_some_iff.1 h
    cases heq
    rfl
  · obtain ⟨y, hy, heq⟩ := Option.map_eq_some_iff.1 h
    obtain ⟨rfl, -⟩ := Prod.mk.inj heq
    split at hy
    · cases hy
      rfl
    · cases hy
      rfl
    · exact isValue_of_number? hy

theorem isValue_of_line? {name : String} (h : line? s = some (.entry name x)) : x.isValue := by
  rw [line?] at h
  split at h
  · cases h
  · split at h
    · simp only [Option.bind_eq_bind, Option.bind_eq_some_iff] at h
      obtain ⟨header, -, h⟩ := h
      split at h
      · split at h <;> cases h
      · cases h
    · simp only [Option.bind_eq_bind, Option.bind_eq_some_iff] at h
      obtain ⟨found, -, h⟩ := h
      split at h
      · simp only [Option.bind_eq_some_iff] at h
        obtain ⟨value, hvalue, h⟩ := h
        split at h
        · cases h
          exact isValue_of_value? hvalue
        · cases h
      · cases h

variable {name : String} {entries added : Entries} {p p' : Progress}

theorem place_of_lookup_eq_none (h : Table.lookup name entries = none) (x : Setting) :
    Table.place name x entries = entries ++ [(name, x)] := by
  induction entries with
  | nil => rfl
  | cons e rest ih =>
    rw [Table.lookup] at h
    rw [Table.place]
    split at h
    · cases h
    · next hne => rw [if_neg hne, ih h, List.cons_append]

theorem isKeyed_add? (hx : x.IsKeyed) (h : add? name x entries = some added)
    (keyed : (Setting.section entries).IsKeyed) : (Setting.section added).IsKeyed := by
  rw [add?] at h
  split at h
  · cases h
  · next hnew =>
    cases h
    rw [← place_of_lookup_eq_none (Option.not_isSome_iff_eq_none.1 hnew)]
    exact Setting.isKeyed_place hx keyed

theorem isKeyed_step? {line : Line} (hline : ∀ name x, line = .entry name x → x.isValue)
    (h : p.step? line = some p') (keyed : (Setting.section p.entries).IsKeyed) :
    (Setting.section p'.entries).IsKeyed := by
  cases line with
  | blank =>
    cases h
    exact keyed
  | header name =>
    obtain ⟨added, hadded, rfl⟩ := Option.map_eq_some_iff.1 h
    exact isKeyed_add? Setting.isKeyed_nil hadded keyed
  | entry name x =>
    have hx := Setting.IsKeyed.value (hline name x rfl)
    rw [Progress.step?] at h
    split at h
    · obtain ⟨added, hadded, rfl⟩ := Option.map_eq_some_iff.1 h
      exact isKeyed_add? hx hadded keyed
    · obtain ⟨inside, hinside, rfl⟩ := Option.map_eq_some_iff.1 h
      have keyedInside := isKeyed_add? hx hinside
        (Setting.isKeyed_entriesOf fun s hs => keyed.of_lookup hs)
      exact Setting.isKeyed_place keyedInside keyed

theorem isKeyed_foldlM {lines : List Line}
    (hlines : ∀ line ∈ lines, ∀ name x, line = .entry name x → x.isValue)
    (h : lines.foldlM Progress.step? p = some p') (keyed : (Setting.section p.entries).IsKeyed) :
    (Setting.section p'.entries).IsKeyed := by
  induction lines generalizing p with
  | nil =>
    cases h
    exact keyed
  | cons line rest ih =>
    rw [List.forall_mem_cons] at hlines
    obtain ⟨next, hnext, h⟩ := Option.bind_eq_some_iff.1 h
    exact ih hlines.2 h (isKeyed_step? hlines.1 hnext keyed)

theorem exists_of_mem_mapM {α β : Type} {f : α → Option β} {xs : List α} {ys : List β} {y : β}
    (h : xs.mapM f = some ys) (hy : y ∈ ys) : ∃ x, f x = some y := by
  induction xs generalizing ys with
  | nil =>
    cases h
    exact absurd hy List.not_mem_nil
  | cons x xs ih =>
    rw [List.mapM_cons] at h
    obtain ⟨z, hz, h⟩ := Option.bind_eq_some_iff.1 h
    obtain ⟨zs, hzs, h⟩ := Option.bind_eq_some_iff.1 h
    cases h
    rcases List.mem_cons.1 hy with rfl | hy
    · exact ⟨x, hz⟩
    · exact ih hzs hy

theorem isKeyed_read? : Reader.IsKeyed read? := by
  intro text entries h
  obtain ⟨written, hwritten, h⟩ := Option.bind_eq_some_iff.1 h
  obtain ⟨progress, hprogress, h⟩ := Option.bind_eq_some_iff.1 h
  cases h
  refine isKeyed_foldlM (fun line hline name x heq => ?_) hprogress Setting.isKeyed_nil
  obtain ⟨source, hsource⟩ := exists_of_mem_mapM hwritten hline
  rw [heq] at hsource
  exact isValue_of_line? hsource

end Toml

namespace Variable

open Setting (IsKeyed IsOpen atPath entriesOf ofPath)

theorem isValue_setting (value : String) : (setting value).isValue := by
  rw [setting]
  split
  · rfl
  · rfl
  · split
    · rfl
    · split <;> rfl

section Paths

variable {s : Setting} (hs : s.isValue)

include hs

theorem isKeyed_ofPath (path : List String) : (ofPath s path).IsKeyed := by
  induction path with
  | nil => exact .value hs
  | cons name path ih =>
    refine .inside (List.pairwise_singleton _ _) fun e he => ?_
    rw [List.mem_singleton.1 he]
    exact ih

theorem atPath_ofPath (path full : List String) : atPath path (ofPath s full) =
    if path <+: full then some (ofPath s (full.drop path.length)) else none := by
  induction path generalizing full with
  | nil => simp [atPath]
  | cons name path ih =>
    cases full with
    | nil => simpa [ofPath] using Setting.atPath_of_isValue hs (List.cons_ne_nil name path)
    | cons n full =>
      change (Table.lookup name [(n, ofPath s full)]).bind (atPath path) = _
      rw [Table.lookup]
      by_cases hn : n = name
      · simp [hn, ih]
      · simp [hn, Ne.symm hn, Table.lookup]

omit hs in
theorem isOpen_ofPath {above full : List String} (h : ¬full <+: above) :
    IsOpen above (entriesOf (some (ofPath s full))) := by
  induction above generalizing full with
  | nil => trivial
  | cons name above ih =>
    cases full with
    | nil => exact absurd (List.nil_prefix) h
    | cons n full =>
      change (∀ t, Table.lookup name [(n, ofPath s full)] = some t → t.isValue = false) ∧
        IsOpen above (entriesOf (Table.lookup name [(n, ofPath s full)]))
      rw [Table.lookup]
      by_cases hn : n = name
      · rw [List.cons_prefix_cons, not_and] at h
        simp only [if_pos hn, Option.some.injEq, forall_eq']
        refine ⟨?_, ih (h hn)⟩
        cases full with
        | nil => exact absurd List.nil_prefix (h hn)
        | cons m full => rfl
      · simp [hn, Table.lookup, entriesOf]

end Paths

variable (v : String × String)

theorem isKeyed_entries : (Setting.section (entries v)).IsKeyed := by
  rw [entries]
  split
  · exact Setting.isKeyed_nil
  · refine Setting.isKeyed_entriesOf fun s hs => ?_
    cases hs
    exact isKeyed_ofPath (isValue_setting _) _

theorem isOpen_entries {above : List String} (h : ∀ full, path? v.1 = some full → ¬full <+: above) :
    IsOpen above (entries v) := by
  rw [entries]
  split
  · exact Setting.isOpen_nil above
  · next full hfull => exact isOpen_ofPath (h full hfull)

theorem atPath_entries {path : List String} (hne : path ≠ []) :
    atPath path (.section (entries v)) = (path? v.1).bind fun full =>
      if path <+: full then some (ofPath (setting v.2) (full.drop path.length)) else none := by
  have hvoid : atPath path (.section []) = none := by
    obtain ⟨name, path, rfl⟩ := List.exists_cons_of_ne_nil hne
    rfl
  rw [entries]
  cases path? v.1 with
  | none => exact hvoid
  | some full =>
    have hpath := atPath_ofPath (isValue_setting v.2) path full
    cases full with
    | nil =>
      change atPath path (.section (entriesOf (some (setting v.2)))) = _
      rw [Setting.entriesOf_of_isValue (isValue_setting v.2), hvoid, Option.bind_some,
        if_neg (fun h => hne (List.prefix_nil.1 h))]
    | cons name full => exact hpath

end Variable

namespace Surroundings

open Setting (IsKeyed IsOpen atPath level overlay)
open Variable (path? setting)

variable {s : Surroundings} {name : String} {above : List String} {entries : Entries}

theorem isKeyed_of_file {read? : Reader} (keyed : read?.IsKeyed)
    (h : s.file read? name = .ok entries) : (Setting.section entries).IsKeyed := by
  rw [file] at h
  split at h
  · cases h
    exact Setting.isKeyed_nil
  · split at h
    · next hread =>
      cases h
      exact keyed _ _ hread
    · cases h

theorem ofVariables_eq (s : Surroundings) :
    s.ofVariables = (s.environment.map Variable.entries).foldl overlay [] :=
  List.foldl_map.symm

theorem isKeyed_of_mem_map {environment : List (String × String)} :
    ∀ source ∈ environment.map Variable.entries, (Setting.section source).IsKeyed := by
  intro source hsource
  obtain ⟨v, -, rfl⟩ := List.mem_map.1 hsource
  exact Variable.isKeyed_entries v

theorem isKeyed_ofVariables (s : Surroundings) : (Setting.section s.ofVariables).IsKeyed := by
  rw [ofVariables_eq]
  exact Setting.isKeyed_foldl_overlay Setting.isKeyed_nil isKeyed_of_mem_map

section Variables

variable (isOpen : ∀ v ∈ s.environment, ∀ full, path? v.1 = some full → ¬full <+: above)

include isOpen

theorem isOpen_of_mem_map : ∀ source ∈ s.environment.map Variable.entries, IsOpen above source := by
  intro source hsource
  obtain ⟨v, hv, rfl⟩ := List.mem_map.1 hsource
  exact Variable.isOpen_entries v (isOpen v hv)

theorem isOpen_ofVariables : IsOpen above s.ofVariables := by
  rw [ofVariables_eq]
  exact Setting.isOpen_foldl_overlay (Setting.isOpen_nil above) isKeyed_of_mem_map
    (isOpen_of_mem_map isOpen)

end Variables

end Surroundings

end Segmentation.Configuration
