import Segmentation.Proofs.Configuration.Keys
import Segmentation.Proofs.Configuration.Sources

namespace Segmentation

namespace Text

/-- A text writes a number with digits, and perhaps a plus before them. -/
def Writes (s : String) (n : Nat) : Prop :=
  ∃ digits, (s.toList = digits ∨ s.toList = '+' :: digits) ∧ digits ≠ [] ∧
    (∀ d ∈ digits, d.isDigit) ∧ Decimal.ofDigits digits = n

theorem readNat?_eq_some_iff {s : String} {n : Nat} : readNat? s = some n ↔ Writes s n := by
  have of_digits (digits : List Char) :
      (if digits.isEmpty || !digits.all Char.isDigit then none
        else some (Decimal.ofDigits digits)) = some n ↔
      digits ≠ [] ∧ (∀ d ∈ digits, d.isDigit) ∧ Decimal.ofDigits digits = n := by
    simp [and_assoc]
  rw [readNat?, Writes]
  generalize s.toList = cs
  split
  · next rest =>
    refine (of_digits rest).trans ⟨fun h => ⟨rest, .inr rfl, h⟩, ?_⟩
    rintro ⟨digits, rfl | heq, h⟩
    · exact absurd (h.2.1 '+' List.mem_cons_self) (by decide)
    · cases heq
      exact h
  · next hplus =>
    refine (of_digits cs).trans ⟨fun h => ⟨cs, .inl rfl, h⟩, ?_⟩
    rintro ⟨digits, rfl | rfl, h⟩
    · exact h
    · exact absurd rfl (hplus digits)

end Text

namespace Configuration

open Setting (IsOpen atPath first? given? level overlay)
open Variable (path? setting)

theorem Variable.path?_ne_nil (name : String) : path? name ≠ some [] := by
  rw [path?]
  split
  · intro h
    have hlevels := List.map_eq_nil_iff.1 (Option.some.inj h)
    rw [levels] at hlevels
    split at hlevels
    · exact Text.splitAll_ne_nil _ _ hlevels
    · cases hlevels
  · exact nofun

namespace Surroundings

def titles : List String :=
  ["server", "database", "storage", "observability", "segment"]

/-- Where a section is read no source has a value, and no two variables name one path. -/
structure IsPlain (s : Surroundings) (read? : Reader) (environment serviceName : String) :
    Prop where
  inFiles : ∀ name ∈ ["default", environment, serviceName], ∀ entries,
    s.file read? (name ++ ending) = .ok entries → ∀ title ∈ titles, ∀ x,
      Table.lookup title entries = some x → x.isValue = false
  inVariables : ∀ v ∈ s.environment, ∀ title ∈ titles, path? v.1 ≠ some [title]
  distinct : ∀ v ∈ s.environment, ∀ w ∈ s.environment, ∀ path, path? v.1 = some path →
    path? w.1 = some path → v = w

/-- All that is asked for a setting, the first first: the variables, the later one sooner, the file
of the service, the file of the environment, the default file. -/
def layers (s : Surroundings) (read? : Reader) (environment serviceName : String) :
    Except Fault (List Entries) := do
  let general ← s.file read? ("default" ++ ending)
  let ofEnvironment ← s.file read? (environment ++ ending)
  let ofService ← s.file read? (serviceName ++ ending)
  return s.environment.reverse.map Variable.entries ++ [ofService, ofEnvironment, general]

end Surroundings

/-- What the first of several sources that says anything at a path says there. -/
def found? (path : List String) (layers : List Entries) : Option Setting :=
  layers.findSome? fun source => (atPath path (.section source)).filter fun s => !s.isVoid

theorem found?_append (above : List String) (name : String) (layers : List Entries) :
    found? (above ++ [name]) layers = first? name (layers.map (level above)) := by
  rw [found?, first?, List.findSome?_map]
  congr
  funext source
  rw [Setting.atPath_append]
  rfl

theorem Key.path_ne_nil (k : Key) : k.path ≠ [] :=
  List.concat_ne_nil _ _

theorem Key.above_eq (k : Key) :
    k.above = [] ∨ ∃ title ∈ Surroundings.titles, k.above = [title] := by
  cases k <;> simp [above, Surroundings.titles]

section Layers

variable {s : Surroundings} {read? : Reader} {environment serviceName : String}
  {c : Configuration}

theorem entries_eq_ok {root : Entries} (h : entries s read? environment serviceName = .ok root) :
    ∃ general ofEnvironment ofService,
      s.file read? ("default" ++ Surroundings.ending) = .ok general ∧
      s.file read? (environment ++ Surroundings.ending) = .ok ofEnvironment ∧
      s.file read? (serviceName ++ Surroundings.ending) = .ok ofService ∧
      root = [general, ofEnvironment, ofService, s.ofVariables].foldl overlay
        [("service_name", .text serviceName), ("environment", .text environment)] := by
  obtain ⟨general, hgeneral, h⟩ := bind_eq_ok h
  obtain ⟨ofEnvironment, hofEnvironment, h⟩ := bind_eq_ok h
  obtain ⟨ofService, hofService, h⟩ := bind_eq_ok h
  cases h
  exact ⟨general, ofEnvironment, ofService, hgeneral, hofEnvironment, hofService, rfl⟩

theorem isOpen_of_titles {above : List String} {source : Entries}
    (habove : above = [] ∨ ∃ title ∈ Surroundings.titles, above = [title])
    (h : ∀ title ∈ Surroundings.titles, ∀ x, Table.lookup title source = some x →
      x.isValue = false) : IsOpen above source := by
  rcases habove with rfl | ⟨title, htitle, rfl⟩
  · trivial
  · exact ⟨h title htitle, trivial⟩

theorem Surroundings.IsPlain.not_prefix (plain : s.IsPlain read? environment serviceName)
    (k : Key) :
    ∀ v ∈ s.environment, ∀ full, path? v.1 = some full → ¬full <+: k.above := by
  intro v hv full hfull hprefix
  have hne : full ≠ [] := fun heq => Variable.path?_ne_nil v.1 (heq ▸ hfull)
  rcases k.above_eq with habove | ⟨title, htitle, habove⟩ <;> rw [habove] at hprefix
  · exact hne (List.prefix_nil.1 hprefix)
  · obtain ⟨name, rest, rfl⟩ := List.exists_cons_of_ne_nil hne
    obtain ⟨rfl, hrest⟩ := List.cons_prefix_cons.1 hprefix
    rw [List.prefix_nil.1 hrest] at hfull
    exact plain.inVariables v hv name htitle hfull

theorem reads_builtIn (k : Key) {layers : List Entries}
    (h : Reads k.read (k.builtIn "" "") (first? k.name (layers ++ [level k.above
      [("service_name", .text serviceName), ("environment", .text environment)]])) (k.get c)) :
    Reads k.read (k.builtIn environment serviceName) (first? k.name layers) (k.get c) := by
  rw [first?, List.findSome?_append, ← first?] at h
  cases hfirst : first? k.name layers with
  | some x =>
    rw [hfirst] at h
    exact h
  | none =>
    rw [hfirst] at h
    cases k with
    | serviceName | environment => exact (Option.some.inj h).symm
    | _ => exact h

theorem layers_eq_ok {layers : List Entries}
    (h : s.layers read? environment serviceName = .ok layers) :
    ∃ files, layers = s.environment.reverse.map Variable.entries ++ files := by
  obtain ⟨general, -, h⟩ := bind_eq_ok h
  obtain ⟨ofEnvironment, -, h⟩ := bind_eq_ok h
  obtain ⟨ofService, -, h⟩ := bind_eq_ok h
  cases h
  exact ⟨_, rfl⟩

theorem reads_of_loadFrom (keyedFiles : read?.IsKeyed)
    (plain : s.IsPlain read? environment serviceName)
    (h : loadFrom s environment serviceName read? = .ok c) :
    ∃ layers, s.layers read? environment serviceName = .ok layers ∧ ∀ k : Key,
      Reads k.read (k.builtIn environment serviceName) (found? k.path layers) (k.get c) := by
  obtain ⟨root, hroot, hc⟩ := bind_eq_ok h
  obtain ⟨general, ofEnvironment, ofService, hgeneral, hofEnvironment, hofService, rfl⟩ :=
    entries_eq_ok hroot
  refine ⟨_, by rw [Surroundings.layers, hgeneral, hofEnvironment, hofService]; rfl, fun k => ?_⟩
  have keyed : ∀ source ∈ [general, ofEnvironment, ofService, s.ofVariables],
      (Setting.section source).IsKeyed := by
    simp only [List.forall_mem_cons]
    exact ⟨Surroundings.isKeyed_of_file keyedFiles hgeneral,
      Surroundings.isKeyed_of_file keyedFiles hofEnvironment,
      Surroundings.isKeyed_of_file keyedFiles hofService, Surroundings.isKeyed_ofVariables s,
      nofun⟩
  have isOpen : ∀ source ∈ [general, ofEnvironment, ofService, s.ofVariables],
      IsOpen k.above source := by
    simp only [List.forall_mem_cons]
    exact ⟨isOpen_of_titles k.above_eq (plain.inFiles _ (by simp) _ hgeneral),
      isOpen_of_titles k.above_eq (plain.inFiles _ (by simp) _ hofEnvironment),
      isOpen_of_titles k.above_eq (plain.inFiles _ (by simp) _ hofService),
      Surroundings.isOpen_ofVariables (plain.not_prefix k), nofun⟩
  have hreads := reads_builtIn k (reads_of_ofEntries keyed k isOpen hc)
  rw [List.map_cons, List.map_cons, List.map_cons, List.map_singleton, Surroundings.ofVariables_eq,
    Setting.level_foldl_overlay _ Surroundings.isKeyed_of_mem_map
      (Surroundings.isOpen_of_mem_map (plain.not_prefix k)), Setting.level_nil] at hreads
  have keyedLevels : ∀ source ∈ (s.environment.map Variable.entries).map (level k.above),
      (Setting.section source).IsKeyed := by
    intro source hsource
    obtain ⟨source, hmem, rfl⟩ := List.mem_map.1 hsource
    exact Setting.isKeyed_level (Surroundings.isKeyed_of_mem_map source hmem) k.above
  have hspread := reads_spread keyedLevels k.readsUpper hreads
  rw [Key.path, found?_append, List.map_append, List.map_reverse, List.map_reverse]
  exact hspread

theorem mem_of_found? {k : Key} {x : Setting}
    (h : found? k.path (s.environment.reverse.map Variable.entries) = some x) :
    ∃ v ∈ s.environment, ∃ full, path? v.1 = some full ∧ k.path <+: full ∧
      x = Setting.ofPath (setting v.2) (full.drop k.path.length) := by
  obtain ⟨source, hsource, h⟩ := List.exists_of_findSome?_eq_some h
  obtain ⟨v, hv, rfl⟩ := List.mem_map.1 hsource
  have hat := (Option.filter_eq_some_iff.1 h).1
  rw [Variable.atPath_entries v k.path_ne_nil] at hat
  obtain ⟨full, hfull, hx⟩ := Option.bind_eq_some_iff.1 hat
  split at hx
  · next hprefix =>
    cases hx
    exact ⟨v, List.mem_reverse.1 hv, full, hfull, hprefix, rfl⟩
  · cases hx

theorem found?_of_variable {k : Key} {v : String × String} (hv : v ∈ s.environment)
    (hpath : path? v.1 = some k.path) :
    ∃ x, found? k.path (s.environment.reverse.map Variable.entries) = some x := by
  refine Option.ne_none_iff_exists'.1 fun hnone => ?_
  have hmem : Variable.entries v ∈ s.environment.reverse.map Variable.entries :=
    List.mem_map_of_mem (List.mem_reverse.2 hv)
  have h := List.findSome?_eq_none_iff.1 hnone _ hmem
  rw [Variable.atPath_entries v k.path_ne_nil, hpath, Option.bind_some, if_pos List.prefix_rfl,
    List.drop_length, Option.filter_eq_none_iff] at h
  have hvoid := h _ rfl
  have hvalue := Variable.isValue_setting v.2
  match setting v.2, hvalue, hvoid with
  | .bool _, _, hvoid | .int _, _, hvoid | .float _, _, hvoid | .text _, _, hvoid
  | .array _, _, hvoid => exact hvoid rfl

theorem Key.read_section {k : Key} (h : k ≠ .backend) (inside : Entries) :
    k.read (.section inside) = none := by
  cases k with
  | backend => exact absurd rfl h
  | _ => rfl

theorem read_of_variable (plain : s.IsPlain read? environment serviceName) {k : Key}
    {files : List Entries}
    (h : Reads k.read (k.builtIn environment serviceName)
      (found? k.path (s.environment.reverse.map Variable.entries ++ files)) (k.get c))
    {v : String × String} (hv : v ∈ s.environment) (hpath : path? v.1 = some k.path)
    (alone : k = .backend → ∀ w ∈ s.environment, ∀ full, path? w.1 = some full →
      k.path <+: full → full = k.path) :
    k.read (setting v.2) = some (k.get c) := by
  obtain ⟨x, hx⟩ := found?_of_variable hv hpath
  have hread : k.read x = some (k.get c) := by
    rw [found?, List.findSome?_append, ← found?, hx] at h
    exact h
  obtain ⟨w, hw, full, hfull, hprefix, rfl⟩ := mem_of_found? hx
  have heq : full = k.path := by
    by_cases hk : k = .backend
    · exact alone hk w hw full hfull hprefix
    · obtain ⟨below, rfl⟩ := hprefix
      cases below with
      | nil => rw [List.append_nil]
      | cons name below =>
        rw [List.drop_left, Setting.ofPath, Key.read_section hk] at hread
        cases hread
  subst heq
  rw [List.drop_length, plain.distinct w hw v hv k.path hfull hpath] at hread
  exact hread

end Layers

section Ports

/-- A variable gives the port that a service listens on, as a number of 16 bits. -/
def GivesPort (s : Surroundings) (serviceName : String) (n : Nat) : Prop :=
  ∃ text, s.valueOf? (portVariable serviceName) = some text ∧ Text.Writes text n ∧ n < 65536

variable {s : Surroundings} {read? : Reader} {serviceName : String}

theorem portOverride?_eq_some_iff {n : Nat} :
    portOverride? s serviceName = some n ↔ GivesPort s serviceName n := by
  rw [portOverride?, Option.filter_eq_some_iff, Option.bind_eq_some_iff, GivesPort]
  simp only [Text.readNat?_eq_some_iff, Word.fits, decide_eq_true_eq, ← exists_and_right, and_assoc]

theorem load_of_givesPort {n : Nat} (h : GivesPort s serviceName n) :
    load s serviceName read? =
      (loadFrom s ((s.valueOf? "CRM_ENV").getD "development") serviceName read?).map fun c =>
        { c with server.portNumber := n } := by
  rw [load, portOverride?_eq_some_iff.2 h]
  cases loadFrom s ((s.valueOf? "CRM_ENV").getD "development") serviceName read? <;> rfl

theorem load_of_not_givesPort (h : ∀ n, ¬GivesPort s serviceName n) :
    load s serviceName read? =
      loadFrom s ((s.valueOf? "CRM_ENV").getD "development") serviceName read? := by
  have hnone : portOverride? s serviceName = none :=
    Option.eq_none_iff_forall_ne_some.2 fun n hn => h n (portOverride?_eq_some_iff.1 hn)
  rw [load, hnone]
  cases loadFrom s ((s.valueOf? "CRM_ENV").getD "development") serviceName read? <;> rfl

end Ports

section Differences

theorem found?_eq_of_differ {path : List String} {before after : List Entries}
    {source source' : Entries} (h : atPath path (.section source) = atPath path (.section source') ∨
      found? path before ≠ none) :
    found? path (before ++ source :: after) = found? path (before ++ source' :: after) := by
  rw [found?, found?, List.findSome?_append, List.findSome?_append, List.findSome?_cons,
    List.findSome?_cons]
  rcases h with heq | hsome
  · rw [heq]
  · obtain ⟨x, hx⟩ := Option.ne_none_iff_exists'.1 hsome
    rw [← found?, hx]
    rfl

theorem reads_unique {α : Type} {read : Setting → Option α} {builtIn a b : α}
    {found? : Option Setting} (ha : Reads read builtIn found? a)
    (hb : Reads read builtIn found? b) : a = b := by
  cases found? with
  | some x => exact Option.some.inj (ha.symm.trans hb)
  | none => exact ha.trans hb.symm

end Differences

/-- A configuration that is loaded is decided key by key: by the first of the variables, the file of
the service, the file of the environment and the default file that sets the key, and by what is
built in if none does. Setting one key of a section leaves the other keys as they were, and the port
is the one thing that a service takes from a variable of its own. Files may be read in any way that
gives no name twice. -/
theorem decided_key_by_key {s : Surroundings} {read? : Reader} {environment serviceName : String}
    {c : Configuration} (keyed : read?.IsKeyed) (plain : s.IsPlain read? environment serviceName)
    (h : loadFrom s environment serviceName read? = .ok c) :
    ∃ layers, s.layers read? environment serviceName = .ok layers ∧
      -- Each key is what the first layer that sets it says, or is built in.
      (∀ k : Key,
        Reads k.read (k.builtIn environment serviceName) (found? k.path layers) (k.get c)) ∧
      (∀ k : Key, ∀ v ∈ s.environment, path? v.1 = some k.path →
        (k = .backend → ∀ w ∈ s.environment, ∀ full, path? w.1 = some full →
          k.path <+: full → full = k.path) →
        k.read (setting v.2) = some (k.get c)) ∧
      -- What is set for other keys, or for no key, or is outranked, is of no account.
      (∀ (s' : Surroundings) (c' : Configuration) (layers' : List Entries),
        s'.IsPlain read? environment serviceName →
        loadFrom s' environment serviceName read? = .ok c' →
        s'.layers read? environment serviceName = .ok layers' →
        ((∀ k : Key, found? k.path layers = found? k.path layers') → c = c') ∧
        ∀ before source source' after, layers = before ++ source :: after →
          layers' = before ++ source' :: after → ∀ k : Key,
          atPath k.path (.section source) = atPath k.path (.section source') ∨
            found? k.path before ≠ none →
          k.get c = k.get c') ∧
      -- The service that is started asks one more variable, for the port alone.
      (∀ n, GivesPort s serviceName n → load s serviceName read? =
        (loadFrom s ((s.valueOf? "CRM_ENV").getD "development") serviceName read?).map fun c =>
          { c with server.portNumber := n }) ∧
      ((∀ n, ¬GivesPort s serviceName n) → load s serviceName read? =
        loadFrom s ((s.valueOf? "CRM_ENV").getD "development") serviceName read?) := by
  obtain ⟨layers, hlayers, hreads⟩ := reads_of_loadFrom keyed plain h
  refine ⟨layers, hlayers, hreads, fun k v hv hpath alone => ?_,
    fun s' c' layers' plain' h' hl' => ?_, fun n => load_of_givesPort, load_of_not_givesPort⟩
  · obtain ⟨files, rfl⟩ := layers_eq_ok hlayers
    exact read_of_variable plain (hreads k) hv hpath alone
  · obtain ⟨_, heq, hreads'⟩ := reads_of_loadFrom keyed plain' h'
    cases hl'.symm.trans heq
    have agree (k : Key) (hfound : found? k.path layers = found? k.path layers') :
        k.get c = k.get c' := by
      have hk := hreads k
      rw [hfound] at hk
      exact reads_unique hk (hreads' k)
    refine ⟨fun hall => Key.ext_get fun k => agree k (hall k), ?_⟩
    rintro before source source' after rfl rfl k hdiffer
    exact agree k (found?_eq_of_differ hdiffer)

def staged : Surroundings where
  files := [
    ("default.toml", "[server]\nport = 7000\n\n[segment]\npreview_sample_size = 5\n"),
    ("staging.toml", "[storage]\nbackend = \"postgres\"\n"),
    ("segment-service.toml", "[server]\nport = 7100\n")]
  environment := [("CRM_ENV", "staging"), ("CRM_SERVER_PORT", "7200"),
    ("SEGMENT_SERVICE_PORT", "7300")]

theorem isPlain_staged : staged.IsPlain Toml.read? "staging" "segment-service" where
  inFiles := by
    have checked : ∀ name ∈ ["default", "staging", "segment-service"],
        (staged.file Toml.read? (name ++ Surroundings.ending)).toOption.all (fun entries =>
          Surroundings.titles.all fun title =>
            (Table.lookup title entries).all fun x => !x.isValue) = true := by
      decide +kernel
    intro name hname entries hentries title htitle x hx
    have h := checked name hname
    rw [hentries] at h
    simpa [hx] using List.all_eq_true.1 h title htitle
  inVariables := by decide +kernel
  distinct := by
    have checked : ∀ v ∈ staged.environment, ∀ w ∈ staged.environment, (path? v.1).isSome →
        path? v.1 = path? w.1 → v = w := by
      decide +kernel
    intro v hv w hw path hpath hpath'
    exact checked v hv w hw (Option.isSome_of_eq_some hpath) (hpath.trans hpath'.symm)

def stagedConfiguration : Configuration where
  serviceName := "segment-service"
  environment := "staging"
  server := ⟨"0.0.0.0", 7200⟩
  database := ⟨builtInUrl, 10, 2, 30, 600⟩
  storage := .postgres
  observability := ⟨"info", "pretty", true, 9090⟩
  segment := ⟨5, 10000⟩

theorem loadFrom_staged :
    loadFrom staged "staging" "segment-service" = .ok stagedConfiguration := by
  decide +kernel

theorem decided_key_by_key_staged :
    Reader.IsKeyed Toml.read? ∧ staged.IsPlain Toml.read? "staging" "segment-service" ∧
      loadFrom staged "staging" "segment-service" = .ok stagedConfiguration ∧
      (∃ layers, staged.layers Toml.read? "staging" "segment-service" = .ok layers ∧ ∀ k : Key,
        Reads k.read (k.builtIn "staging" "segment-service") (found? k.path layers)
          (k.get stagedConfiguration)) ∧
      Key.portNumber.read (setting "7200") = some (7200 : Nat) ∧
      load staged "segment-service" =
        .ok { stagedConfiguration with server.portNumber := 7300 } := by
  obtain ⟨layers, hlayers, hreads, hvariable, -, hport, -⟩ :=
    decided_key_by_key Toml.isKeyed_read? isPlain_staged loadFrom_staged
  refine ⟨Toml.isKeyed_read?, isPlain_staged, loadFrom_staged, ⟨layers, hlayers, hreads⟩,
    hvariable .portNumber ("CRM_SERVER_PORT", "7200") (by decide) (by decide +kernel) nofun, ?_⟩
  have hgives : GivesPort staged "segment-service" 7300 :=
    portOverride?_eq_some_iff.1 (by decide +kernel)
  have henvironment : (staged.valueOf? "CRM_ENV").getD "development" = "staging" := by decide
  rw [hport 7300 hgives, henvironment, loadFrom_staged]
  rfl

end Configuration

end Segmentation
