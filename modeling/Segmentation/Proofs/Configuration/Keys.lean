import Segmentation.Configuration
import Segmentation.Proofs.Configuration.Overlay

namespace Segmentation.Configuration

open Setting (IsKeyed IsOpen ReadsUpper first? given? level overlay)

inductive Key where
  | serviceName
  | environment
  | host
  | portNumber
  | url
  | maxConnections
  | minConnections
  | connectTimeoutSeconds
  | idleTimeoutSeconds
  | backend
  | logLevel
  | logFormat
  | metricsEnabled
  | metricsPort
  | previewSample
  | audienceLimit
  deriving DecidableEq, Repr

namespace Key

def above : Key → List String
  | serviceName | environment => []
  | host | portNumber => ["server"]
  | url | maxConnections | minConnections | connectTimeoutSeconds | idleTimeoutSeconds =>
    ["database"]
  | backend => ["storage"]
  | logLevel | logFormat | metricsEnabled | metricsPort => ["observability"]
  | previewSample | audienceLimit => ["segment"]

def name : Key → String
  | serviceName => "service_name"
  | environment => "environment"
  | host => "host"
  | portNumber => "port"
  | url => "url"
  | maxConnections => "max_connections"
  | minConnections => "min_connections"
  | connectTimeoutSeconds => "connect_timeout_seconds"
  | idleTimeoutSeconds => "idle_timeout_seconds"
  | backend => "backend"
  | logLevel => "log_level"
  | logFormat => "log_format"
  | metricsEnabled => "metrics_enabled"
  | metricsPort => "metrics_port"
  | previewSample => "preview_sample_size"
  | audienceLimit => "audience_limit"

def path (k : Key) : List String :=
  k.above ++ [k.name]

abbrev Value : Key → Type
  | serviceName | environment | host | url | logLevel | logFormat => String
  | portNumber | maxConnections | minConnections | connectTimeoutSeconds | idleTimeoutSeconds
  | metricsPort | previewSample | audienceLimit => Nat
  | backend => Backend
  | metricsEnabled => Bool

def read : (k : Key) → Setting → Option k.Value
  | serviceName | environment | host | url | logLevel | logFormat => Setting.text?
  | portNumber | metricsPort => Setting.natOfBits? 16
  | maxConnections | minConnections => Setting.natOfBits? 32
  | connectTimeoutSeconds | idleTimeoutSeconds | previewSample | audienceLimit =>
    Setting.natOfBits? 64
  | backend => fun s => s.choice?.bind Backend.ofName?
  | metricsEnabled => Setting.bool?

/-- What holds where no source sets a key. -/
def builtIn (ofEnvironment ofService : String) : (k : Key) → k.Value
  | serviceName => ofService
  | environment => ofEnvironment
  | host => "0.0.0.0"
  | portNumber => (8080 : Nat)
  | url => builtInUrl
  | maxConnections => (10 : Nat)
  | minConnections => (2 : Nat)
  | connectTimeoutSeconds => (30 : Nat)
  | idleTimeoutSeconds => (600 : Nat)
  | backend => Backend.memory
  | logLevel => "info"
  | logFormat => "pretty"
  | metricsEnabled => true
  | metricsPort => (9090 : Nat)
  | previewSample => (10 : Nat)
  | audienceLimit => (10000 : Nat)

def get (c : Configuration) : (k : Key) → k.Value
  | serviceName => c.serviceName
  | environment => c.environment
  | host => c.server.host
  | portNumber => c.server.portNumber
  | url => c.database.url
  | maxConnections => c.database.maxConnections
  | minConnections => c.database.minConnections
  | connectTimeoutSeconds => c.database.connectTimeoutSeconds
  | idleTimeoutSeconds => c.database.idleTimeoutSeconds
  | backend => c.storage
  | logLevel => c.observability.logLevel
  | logFormat => c.observability.logFormat
  | metricsEnabled => c.observability.metricsEnabled
  | metricsPort => c.observability.metricsPort
  | previewSample => c.segment.previewSample
  | audienceLimit => c.segment.audience

theorem ext_get {c c' : Configuration} (h : ∀ k, get c k = get c' k) : c = c' := by
  obtain ⟨_, _, ⟨_, _⟩, ⟨_, _, _, _, _⟩, _, ⟨_, _, _, _⟩, ⟨_, _⟩⟩ := c
  obtain ⟨_, _, ⟨_, _⟩, ⟨_, _, _, _, _⟩, _, ⟨_, _, _, _⟩, ⟨_, _⟩⟩ := c'
  congr
  exacts [h serviceName, h environment, h host, h portNumber, h url, h maxConnections,
    h minConnections, h connectTimeoutSeconds, h idleTimeoutSeconds, h backend, h logLevel,
    h logFormat, h metricsEnabled, h metricsPort, h previewSample, h audienceLimit]

section Readers

theorem readsUpper_natOfBits? (bits : Nat) : ReadsUpper (Setting.natOfBits? bits) :=
  .of_values fun _ => rfl

theorem readsUpper_choice? : ReadsUpper Setting.choice? where
  void s hs := by
    match s, hs with
    | .section [], _ => rfl
  onto lower? s a keyed hs hread := by
    match s, hs with
    | .bool _, _ | .int _, _ | .float _, _ | .text _, _ | .array _, _ => exact hread
    | .section (e :: rest), _ =>
      rw [Setting.onto] at hread
      generalize hput : overlay (Setting.entriesOf lower?) (e :: rest) = put at hread
      match put, hread with
      | [(chosen, t)], hread =>
        cases hread
        have keys : ∀ n ∈ (e :: rest).map Prod.fst, n = a := by
          intro n hn
          have hmem : n ∈ (overlay (Setting.entriesOf lower?) (e :: rest)).map Prod.fst :=
            Setting.mem_keys_overlay.2 (.inr hn)
          rw [hput] at hmem
          exact List.mem_singleton.1 hmem
        have hname : e.1 = a := keys e.1 List.mem_cons_self
        cases rest with
        | nil =>
          rw [← hname]
          rfl
        | cons e' rest =>
          have hname' : e'.1 = a := keys e'.1 (List.mem_cons_of_mem _ List.mem_cons_self)
          have hnew := (List.nodup_cons.1 keyed.nodup).1
          rw [hname, ← hname'] at hnew
          exact absurd List.mem_cons_self hnew

theorem readsUpper_backend : ReadsUpper fun s => s.choice?.bind Backend.ofName? where
  void s hs := by
    rw [readsUpper_choice?.void s hs]
    rfl
  onto lower? s a keyed hs hread := by
    obtain ⟨name, hname, ha⟩ := Option.bind_eq_some_iff.1 hread
    rw [readsUpper_choice?.onto lower? s name keyed hs hname]
    exact ha

theorem readsUpper (k : Key) : ReadsUpper k.read := by
  cases k with
  | serviceName | environment | host | url | logLevel | logFormat | metricsEnabled =>
    exact .of_values fun _ => rfl
  | backend => exact readsUpper_backend
  | _ => exact readsUpper_natOfBits? _

end Readers

end Key

section Fields

theorem bind_eq_ok {ε α β : Type} {x : Except ε α} {f : α → Except ε β} {b : β}
    (h : x >>= f = .ok b) : ∃ a, x = .ok a ∧ f a = .ok b := by
  cases x with
  | error e => cases h
  | ok a => exact ⟨a, rfl, h⟩

theorem section?_eq_ok {root entries : Entries} {name : String}
    (h : section? root name = .ok entries) : level [name] root = entries := by
  rw [section?] at h
  rw [level]
  split at h <;> cases h
  · next hlookup => rw [hlookup]; rfl
  · next hlookup => rw [hlookup]; rfl

variable {root : Entries} {c : Configuration}

theorem settingOr_of_ofEntries (h : ofEntries root = .ok c) (k : Key) :
    settingOr (k.builtIn "" "") k.read k.above (level k.above root) k.name = .ok (k.get c) := by
  obtain ⟨serviceName, hserviceName, h⟩ := bind_eq_ok h
  obtain ⟨environment, henvironment, h⟩ := bind_eq_ok h
  obtain ⟨server, hserver, h⟩ := bind_eq_ok h
  obtain ⟨database, hdatabase, h⟩ := bind_eq_ok h
  obtain ⟨storage, hstorage, h⟩ := bind_eq_ok h
  obtain ⟨observability, hobservability, h⟩ := bind_eq_ok h
  obtain ⟨segment, hsegment, h⟩ := bind_eq_ok h
  cases h
  cases k with
  | serviceName => exact hserviceName
  | environment => exact henvironment
  | host | portNumber =>
    obtain ⟨entries, hentries, h⟩ := bind_eq_ok hserver
    obtain ⟨host, hhost, h⟩ := bind_eq_ok h
    obtain ⟨portNumber, hportNumber, h⟩ := bind_eq_ok h
    cases h
    rw [Key.above, section?_eq_ok hentries]
    assumption
  | url | maxConnections | minConnections | connectTimeoutSeconds | idleTimeoutSeconds =>
    obtain ⟨entries, hentries, h⟩ := bind_eq_ok hdatabase
    obtain ⟨url, hurl, h⟩ := bind_eq_ok h
    obtain ⟨maxConnections, hmax, h⟩ := bind_eq_ok h
    obtain ⟨minConnections, hmin, h⟩ := bind_eq_ok h
    obtain ⟨connect, hconnect, h⟩ := bind_eq_ok h
    obtain ⟨idle, hidle, h⟩ := bind_eq_ok h
    cases h
    rw [Key.above, section?_eq_ok hentries]
    assumption
  | backend =>
    obtain ⟨entries, hentries, h⟩ := bind_eq_ok hstorage
    rw [Key.above, section?_eq_ok hentries]
    exact h
  | logLevel | logFormat | metricsEnabled | metricsPort =>
    obtain ⟨entries, hentries, h⟩ := bind_eq_ok hobservability
    obtain ⟨logLevel, hlogLevel, h⟩ := bind_eq_ok h
    obtain ⟨logFormat, hlogFormat, h⟩ := bind_eq_ok h
    obtain ⟨metricsEnabled, hmetricsEnabled, h⟩ := bind_eq_ok h
    obtain ⟨metricsPort, hmetricsPort, h⟩ := bind_eq_ok h
    cases h
    rw [Key.above, section?_eq_ok hentries]
    assumption
  | previewSample | audienceLimit =>
    obtain ⟨entries, hentries, h⟩ := bind_eq_ok hsegment
    obtain ⟨previewSample, hpreview, h⟩ := bind_eq_ok h
    obtain ⟨audience, haudience, h⟩ := bind_eq_ok h
    cases h
    rw [Key.above, section?_eq_ok hentries]
    assumption

end Fields

section Reads

variable {α : Type} {read : Setting → Option α} {builtIn a : α}

/-- A value is what a reader makes of the setting that was found, or it is built in where none
was. -/
def Reads (read : Setting → Option α) (builtIn : α) (found? : Option Setting) (a : α) : Prop :=
  match found? with
  | some s => read s = some a
  | none => a = builtIn

variable {path above : List String} {name : String} {base : Entries} {sources rest : List Entries}
  (keyed : ∀ source ∈ sources, (Setting.section source).IsKeyed)

include keyed

theorem reads_of_settingOr (hread : ReadsUpper read)
    (h : settingOr builtIn read path (sources.foldl overlay base) name = .ok a) :
    Reads read builtIn (first? name (sources.reverse ++ [base])) a := by
  rw [settingOr] at h
  split at h
  · next hlookup =>
    cases h
    rw [Setting.first?_eq_none keyed (Setting.given?_of_lookup_eq_none hlookup)]
    rfl
  · next s hlookup =>
    split at h
    · next a ha =>
      cases h
      obtain ⟨t, ht, hta⟩ := Option.bind_eq_some_iff.1
        (Setting.reads_foldl_overlay keyed hread hlookup ha)
      rw [ht]
      exact hta
    · cases h

theorem reads_spread (hread : ReadsUpper read)
    (h : Reads read builtIn (first? name (sources.foldl overlay [] :: rest)) a) :
    Reads read builtIn (first? name (sources.reverse ++ rest)) a := by
  have without_base : first? name (sources.reverse ++ [[]]) = first? name sources.reverse := by
    rw [first?, List.findSome?_append]
    exact Option.or_none
  rw [first?, List.findSome?_cons] at h
  rw [first?, List.findSome?_append, ← first?, ← without_base]
  cases hgiven : given? name (sources.foldl overlay []) with
  | none =>
    rw [hgiven] at h
    rw [Setting.first?_eq_none keyed hgiven]
    exact h
  | some s =>
    rw [hgiven] at h
    obtain ⟨t, ht, hta⟩ := Option.bind_eq_some_iff.1
      (Setting.reads_foldl_overlay keyed hread (Setting.given?_eq_some_iff.1 hgiven).1 h)
    rw [ht]
    exact hta

theorem reads_of_ofEntries {c : Configuration} (k : Key)
    (isOpen : ∀ source ∈ sources, IsOpen k.above source)
    (h : ofEntries (sources.foldl overlay base) = .ok c) :
    Reads k.read (k.builtIn "" "")
      (first? k.name ((sources.map (level k.above)).reverse ++ [level k.above base]))
      (k.get c) := by
  have hok := settingOr_of_ofEntries h k
  rw [Setting.level_foldl_overlay base keyed isOpen] at hok
  refine reads_of_settingOr (fun source hsource => ?_) k.readsUpper hok
  obtain ⟨source, hmem, rfl⟩ := List.mem_map.1 hsource
  exact Setting.isKeyed_level (keyed source hmem) k.above

end Reads

end Segmentation.Configuration
