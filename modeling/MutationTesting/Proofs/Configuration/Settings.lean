import Mathlib.Data.List.Nodup
import MutationTesting.Configuration.Encoding
import MutationTesting.Proofs.Configuration.Counts

/-! What settings mean. Those that are given have their values, and all others their defaults; it
does not matter in which order they are given, nor whether a section without settings is there at
all.
-/

namespace MutationTesting

open Document

-----------------------------------------------------------------------------------------
-- Settings by name
-----------------------------------------------------------------------------------------

section Named

variable {σ α : Type}

/-- Items with different names, in the order in which they are written. -/
structure Listing (key : σ → String) where
  items : List σ
  once : (items.map key).Nodup

/-- Nothing is written. -/
def Listing.empty (key : σ → String) : Listing key := { items := [], once := List.nodup_nil }

/-- Where only the item of one name contributes to a list, it is the list, or the list is empty. -/
theorem Listing.flatMap_of_name {key : σ → String} (listing : Listing key) {τ : Type}
    (part : σ → List τ) (name : String) (elsewhere : ∀ item, key item ≠ name → part item = [])
    : (∃ item ∈ listing.items,
          key item = name ∧ ∀ one, one ∈ part item ↔ one ∈ listing.items.flatMap part)
      ∨ ((∀ item ∈ listing.items, key item ≠ name) ∧ listing.items.flatMap part = []) := by
  by_cases present : ∃ item ∈ listing.items, key item = name
  · obtain ⟨item, member, named⟩ := present
    refine .inl ⟨item, member, named, fun one => ⟨fun held => ?_, fun held => ?_⟩⟩
    · exact List.mem_flatMap.mpr ⟨item, member, held⟩
    · obtain ⟨other, there, inside⟩ := List.mem_flatMap.mp held
      -- Whatever contributes has the name, and names are given once.
      have same : key other = name := by
        by_contra different
        rw [elsewhere other different] at inside
        exact List.not_mem_nil inside
      have only : item = other :=
        List.inj_on_of_nodup_map listing.once member there (named.trans same.symm)
      rw [only]
      exact inside
  · have absent : ∀ item ∈ listing.items, key item ≠ name := fun item member named =>
      present ⟨item, member, named⟩
    refine .inr ⟨absent, List.flatMap_eq_nil_iff.mpr fun item member => ?_⟩
    exact elsewhere item (absent item member)

/-- The settings that are given hold, and the defaults of all others do. -/
structure Describes (key : σ → String) (HoldsIn : σ → α → Prop) (defaults settings : List σ)
    (record : α)
    : Prop where
  given : ∀ setting ∈ settings, HoldsIn setting record
  absent
    : ∀ setting ∈ defaults, (∀ held ∈ settings, key held ≠ key setting) → HoldsIn setting record

variable {key : σ → String} {HoldsIn : σ → α → Prop} {defaults settings others : List σ}
  {record other : α}

/-- It only matters which settings are given. -/
theorem Describes.of_mem_iff (describes : Describes key HoldsIn defaults settings record)
    (same : ∀ setting, setting ∈ settings ↔ setting ∈ others)
    : Describes key HoldsIn defaults others record where
  given setting member := describes.given setting ((same setting).mpr member)
  absent setting member absent :=
    describes.absent setting member fun held there => absent held ((same held).mp there)

/-- Two records that are described alike agree on what each name has been set to. -/
theorem Describes.agree (first : Describes key HoldsIn defaults settings record)
    (second : Describes key HoldsIn defaults settings other) {setting : σ}
    (member : setting ∈ defaults)
    : ∃ held, key held = key setting ∧ HoldsIn held record ∧ HoldsIn held other := by
  by_cases present : ∃ held ∈ settings, key held = key setting
  · obtain ⟨held, there, same⟩ := present
    exact ⟨held, same, first.given held there, second.given held there⟩
  · have absent : ∀ held ∈ settings, key held ≠ key setting := by
      intro held there same
      exact present ⟨held, there, same⟩
    exact ⟨setting, rfl, first.absent setting member absent, second.absent setting member absent⟩

end Named

-----------------------------------------------------------------------------------------
-- Reading settings
-----------------------------------------------------------------------------------------

namespace Document.Decoder.Fields

variable {σ α : Type} {fields : Fields α} {key : σ → String} {value : σ → Value}
  {HoldsIn : σ → α → Prop}

/-- Reading the field of a setting makes the setting hold and keeps what other names are set to. -/
structure Spelled (fields : Fields α) (key : σ → String) (value : σ → Value)
    (HoldsIn : σ → α → Prop)
    : Prop where
  known : ∀ setting, key setting ∈ fields.names
  read
    : ∀ setting record,
        ∃ later,
          fields.read .toml (key setting) (value setting) record = .ok later
          ∧ HoldsIn setting later
          ∧ ∀ other, key other ≠ key setting → (HoldsIn other later ↔ HoldsIn other record)

/-- Settings with different names are all read, one after the other, in whatever order. -/
theorem Spelled.readEntries (spelled : fields.Spelled key value HoldsIn) {settings : List σ}
    (once : (settings.map key).Nodup) {seen : List String}
    (fresh : ∀ setting ∈ settings, key setting ∉ seen) (record : α)
    : ∃ later,
        fields.readEntries .toml seen (settings.map fun setting => (key setting, value setting))
          record
        = .ok later
        ∧ (∀ setting ∈ settings, HoldsIn setting later)
        ∧ ∀ other,
            (∀ setting ∈ settings, key setting ≠ key other)
            → (HoldsIn other later ↔ HoldsIn other record) := by
  induction settings generalizing seen record with
  | nil => exact ⟨record, rfl, by simp, fun _ _ => Iff.rfl⟩
  | cons setting rest ih =>
      rw [List.map_cons, List.nodup_cons, List.mem_map, not_exists] at once
      obtain ⟨next, reads, holds, keeps⟩ := spelled.read setting record
      have apart : ∀ other ∈ rest, key other ∉ key setting :: seen := by
        intro other member
        rw [List.mem_cons, not_or]
        exact ⟨fun same => once.1 other ⟨member, same⟩, fresh other (List.mem_cons_of_mem _ member)⟩
      obtain ⟨later, others, held, kept⟩ := ih once.2 apart next
      have own : HoldsIn setting later :=
        (kept setting fun other member same => once.1 other ⟨member, same⟩).mpr holds
      refine ⟨later, ?_, ?_, ?_⟩
      · have known : fields.names.contains (key setting) = true := by
          simpa using spelled.known setting
        have unseen : seen.contains (key setting) = false := by
          simpa using fresh setting (List.mem_cons_self ..)
        rw [List.map_cons, Fields.readEntries, known, unseen]
        simpa [reads, bind, Except.bind] using others
      · intro other member
        rcases List.mem_cons.mp member with rfl | later
        · exact own
        · exact held other later
      · intro other absent
        have first : key other ≠ key setting := Ne.symm (absent setting (List.mem_cons_self ..))
        have behind := kept other fun held member => absent held (List.mem_cons_of_mem _ member)
        exact behind.trans (keeps other first)

/-- Where no field is required, a table is read as what its entries make of a record. -/
theorem ofEntries_of_readEntries {entries : List (String × Value)} {record : α}
    (optional : fields.required = [])
    (reads : fields.readEntries .toml [] entries fields.start = .ok record)
    : fields.ofEntries .toml entries = .ok record := by
  simp [Fields.ofEntries, reads, Fields.missing?, optional, bind, Except.bind]

/-- A table of settings is read as the record that they describe, where the record without fields
has the defaults.
-/
theorem Spelled.ofEntries (spelled : fields.Spelled key value HoldsIn) (defaults : List σ)
    (start : ∀ setting ∈ defaults, HoldsIn setting fields.start) (optional : fields.required = [])
    (settings : Listing key)
    : ∃ record,
        fields.ofEntries .toml (settings.items.map fun setting => (key setting, value setting))
        = .ok record
        ∧ Describes key HoldsIn defaults settings.items record := by
  obtain ⟨record, reads, held, kept⟩ :=
    spelled.readEntries settings.once (fun _ _ => List.not_mem_nil) fields.start
  refine ⟨record, ofEntries_of_readEntries optional reads, held, fun setting member absent => ?_⟩
  exact (kept setting absent).mpr (start setting member)

/-- A record is refused when one of its entries is, whatever stands around it: a name that no field
has, or a value that its field does not read.
-/
theorem ofEntries_error (closed : fields.isClosed = true) {dialect : Dialect}
    {entries : List (String × Value)} {name : String} {value : Value}
    (member : (name, value) ∈ entries)
    (refused
      : name ∈ fields.names
        → ∀ record, ∃ error, fields.read dialect name value record = .error error)
    : ∃ error, fields.ofEntries dialect entries = .error error := by
  have reading (seen : List String) (record : α)
      : ∃ error, fields.readEntries dialect seen entries record = .error error := by
    induction entries generalizing seen record with
    | nil => exact absurd member List.not_mem_nil
    | cons entry rest ih =>
        rw [Fields.readEntries]
        split
        · rename_i known
          split
          · exact ⟨_, rfl⟩
          · cases reads : fields.read dialect entry.1 entry.2 record with
            | error error => exact ⟨error, rfl⟩
            | ok later =>
                rcases List.mem_cons.mp member with rfl | behind
                · obtain ⟨error, fails⟩ := refused (by simpa using known) record
                  rw [fails] at reads
                  cases reads
                · exact ih behind _ later
        · exact ⟨_, rfl⟩
  obtain ⟨error, fails⟩ := reading [] fields.start
  exact ⟨error, by simp [Fields.ofEntries, fails, bind, Except.bind]⟩

end Document.Decoder.Fields

-----------------------------------------------------------------------------------------
-- The settings that there are
-----------------------------------------------------------------------------------------

/-- What can be said of worker counts. -/
inductive CountSetting where
  | workers (count : UInt64)
  | testExecution (count : UInt64)
  | mutantExecution (count : UInt64)
deriving DecidableEq

namespace CountSetting

def key : CountSetting → String
  | .workers _ => "workers"
  | .testExecution _ => "test-execution-workers"
  | .mutantExecution _ => "mutant-execution-workers"

def value : CountSetting → Value
  | .workers count | .testExecution count | .mutantExecution count => .integer count.toNat

def HoldsIn : CountSetting → WorkerCounts → Prop
  | .workers count, counts => counts.workers = count.toNat
  | .testExecution count, counts => counts.testExecution = count.toNat
  | .mutantExecution count, counts => counts.mutantExecution = count.toNat

def defaults : List CountSetting := [.workers 0, .testExecution 0, .mutantExecution 0]

/-- The counts that are meant by some settings. -/
abbrev Describe : List CountSetting → WorkerCounts → Prop := Describes key HoldsIn defaults

end CountSetting

/-- What can be said of a run. -/
inductive RunSetting where
  | failFast (value : Bool)
  | dryRun (value : Bool)
  | sandbox (kind : SandboxKind)
  | timeoutMultiplier (factor : UInt32)
  | minTimeout (millis : UInt64)
  | testTimeout (millis : UInt64)
  | showProgress (value : Bool)
deriving DecidableEq

namespace RunSetting

def key : RunSetting → String
  | .failFast _ => "fail-fast"
  | .dryRun _ => "dry-run"
  | .sandbox _ => "sandbox"
  | .timeoutMultiplier _ => "timeout-multiplier"
  | .minTimeout _ => "min-timeout-ms"
  | .testTimeout _ => "test-timeout-ms"
  | .showProgress _ => "show-progress"

def value : RunSetting → Value
  | .failFast value | .dryRun value | .showProgress value => .bool value
  | .sandbox .fork => .text "fork"
  | .sandbox .null => .text "null"
  | .timeoutMultiplier factor => .integer factor.toNat
  | .minTimeout millis | .testTimeout millis => .integer millis.toNat

def HoldsIn : RunSetting → RunSettings → Prop
  | .failFast value, settings => settings.failFast = value
  | .dryRun value, settings => settings.dryRun = value
  | .sandbox kind, settings => settings.sandbox = kind
  | .timeoutMultiplier factor, settings => settings.timeoutMultiplier = factor
  | .minTimeout millis, settings => settings.minTimeout = millis
  | .testTimeout millis, settings => settings.testTimeout = millis
  | .showProgress value, settings => settings.showProgress = value

def defaults : List RunSetting :=
  [.failFast false, .dryRun false, .sandbox .fork, .timeoutMultiplier 10, .minTimeout 30,
    .testTimeout 3000, .showProgress true]

/-- The run that is meant by some settings. -/
abbrev Describe : List RunSetting → RunSettings → Prop := Describes key HoldsIn defaults

end RunSetting

/-- A number within its limit is read as it is. -/
theorem Document.Decoder.natural_of_lt {limit number : Nat} (within : number < limit)
    (typeName : String) (dialect : Dialect)
    : Decoder.natural limit typeName dialect (.integer number) = .ok number := by
  simp [Decoder.natural, within]

theorem CountSetting.spelled : WorkerCounts.fields.Spelled key value HoldsIn where
  known setting := by cases setting <;> simp [key, WorkerCounts.fields]
  read setting counts := by
    cases setting with
    | workers count | testExecution count | mutantExecution count =>
        have number := Decoder.natural_of_lt count.toNat_lt "usize" .toml
        simp only [WorkerCounts.fields, key, value, Decoder.size]
        rw [number]
        refine ⟨_, rfl, rfl, fun other different => ?_⟩
        cases other <;> simp_all [HoldsIn]

theorem RunSetting.spelled : RunSettings.fields.Spelled key value HoldsIn where
  known setting := by cases setting <;> simp [key, RunSettings.fields]
  read setting settings := by
    cases setting with
    | failFast flag | dryRun flag | showProgress flag =>
        refine ⟨_, rfl, rfl, fun other different => ?_⟩
        cases other <;> simp_all [key, HoldsIn]
    | sandbox kind =>
        cases kind <;>
        · refine ⟨_, rfl, rfl, fun other different => ?_⟩
          cases other <;> simp_all [key, HoldsIn]
    | timeoutMultiplier factor =>
        have number := Decoder.natural_of_lt factor.toNat_lt "u32" .toml
        simp only [RunSettings.fields, key, value, Decoder.word]
        rw [number]
        refine ⟨_, rfl, UInt32.ofNat_toNat, fun other different => ?_⟩
        cases other <;> simp_all [HoldsIn]
    | minTimeout millis | testTimeout millis =>
        have number := Decoder.natural_of_lt millis.toNat_lt "u64" .toml
        simp only [RunSettings.fields, key, value, Decoder.longWord]
        rw [number]
        refine ⟨_, rfl, UInt64.ofNat_toNat, fun other different => ?_⟩
        cases other <;> simp_all [HoldsIn]

-----------------------------------------------------------------------------------------
-- Sections
-----------------------------------------------------------------------------------------

/-- Settings under a common name. -/
inductive SettingsSection where
  | counts (settings : Listing CountSetting.key)
  | run (settings : Listing RunSetting.key)

namespace SettingsSection

def name : SettingsSection → String
  | .counts _ => "parallelization"
  | .run _ => "execution"

/-- The names and values of the settings. -/
def entries : SettingsSection → List (String × Value)
  | .counts settings => settings.items.map fun setting => (setting.key, setting.value)
  | .run settings => settings.items.map fun setting => (setting.key, setting.value)

def value (given : SettingsSection) : Value := .table given.entries

def countSettings : SettingsSection → List CountSetting
  | .counts settings => settings.items
  | .run _ => []

def runSettings : SettingsSection → List RunSetting
  | .counts _ => []
  | .run settings => settings.items

/-- The settings of a section are those that are used. Worker counts may have had their zeros
replaced.
-/
def HoldsIn (cores : Nat) : SettingsSection → Configuration → Prop
  | .counts settings, configuration =>
      ∃ counts,
        CountSetting.Describe settings.items counts
        ∧ counts.normalize cores = configuration.counts.normalize cores
  | .run settings, configuration => RunSetting.Describe settings.items configuration.run

theorem spelled (cores : Nat)
    : (Configuration.fields cores).Spelled name value (HoldsIn cores) where
  known given := by cases given <;> simp [name, Configuration.fields]
  read given configuration := by
    cases given with
    | counts settings =>
        obtain ⟨counts, reads, describes⟩ :=
          CountSetting.spelled.ofEntries CountSetting.defaults
            (by simp [CountSetting.defaults, CountSetting.HoldsIn, WorkerCounts.fields]) rfl
            settings
        refine ⟨{ configuration with counts }, ?_, ⟨counts, describes, rfl⟩, ?_⟩
        · simp [Configuration.fields, name, value, entries, WorkerCounts.decoder, Decoder.record,
            reads, bind, Except.bind, pure, Except.pure]
        · intro other different
          cases other with
          | counts => exact absurd rfl different
          | run => exact Iff.rfl
    | run settings =>
        obtain ⟨run, reads, describes⟩ :=
          RunSetting.spelled.ofEntries RunSetting.defaults
            (by simp [RunSetting.defaults, RunSetting.HoldsIn, RunSettings.fields]) rfl settings
        refine ⟨{ configuration with run }, ?_, describes, ?_⟩
        · simp [Configuration.fields, name, value, entries, RunSettings.decoder, Decoder.record,
            reads, bind, Except.bind, pure, Except.pure]
        · intro other different
          cases other with
          | counts => exact Iff.rfl
          | run => exact absurd rfl different

/-- The counts of a configuration without settings are the defaults. -/
theorem counts_holdsIn_standard (cores : Nat)
    : (SettingsSection.counts (.empty _)).HoldsIn cores (Configuration.standard cores) := by
  refine ⟨{}, ⟨?_, ?_⟩, (WorkerCounts.normalize_normalize {} cores).symm⟩
  · simp [Listing.empty]
  · simp [CountSetting.defaults, CountSetting.HoldsIn]

/-- The run of a configuration without settings is the usual one. -/
theorem run_holdsIn_standard (cores : Nat)
    : (SettingsSection.run (.empty _)).HoldsIn cores (Configuration.standard cores) where
  given := by simp [Listing.empty]
  absent := by simp [RunSetting.defaults, RunSetting.HoldsIn, Configuration.standard]

end SettingsSection

/-- A file of settings: its sections in the order in which they are written. -/
abbrev SettingsFile : Type := Listing SettingsSection.name

namespace SettingsFile

variable (file : SettingsFile)

def entries : List (String × Value) := file.items.map fun given => (given.name, given.value)

def countSettings : List CountSetting := file.items.flatMap SettingsSection.countSettings

def runSettings : List RunSetting := file.items.flatMap SettingsSection.runSettings

/-- What is meant by a file: the settings that it gives, whatever the section, and the defaults of
all others.
-/
structure Describes (configuration : Configuration) : Prop where
  counts : CountSetting.Describe file.countSettings configuration.counts
  run : RunSetting.Describe file.runSettings configuration.run

variable {file} {cores : Nat}

/-- The counts that are read are those of the section that gives them, or of an empty one. -/
theorem exists_counts {read : Configuration}
    (held : ∀ given ∈ file.items, given.HoldsIn cores read)
    (without
      : (∀ given ∈ file.items, given.name ≠ "parallelization")
        → (SettingsSection.counts (.empty _)).HoldsIn cores read)
    : ∃ counts,
        CountSetting.Describe file.countSettings counts
        ∧ counts.normalize cores = read.counts.normalize cores := by
  have elsewhere
      : ∀ given : SettingsSection, given.name ≠ "parallelization" → given.countSettings = [] := by
    intro given other
    cases given with
    | counts settings => exact absurd rfl other
    | run settings => rfl
  rcases file.flatMap_of_name SettingsSection.countSettings "parallelization" elsewhere with
    ⟨given, member, named, same⟩ | ⟨absent, nothing⟩
  · cases given with
    | counts settings =>
        obtain ⟨counts, describes, normal⟩ := held _ member
        exact ⟨counts, describes.of_mem_iff same, normal⟩
    | run settings => exact absurd named (by simp [SettingsSection.name])
  · rw [countSettings, nothing]
    exact without absent

/-- The run that is read is that of the section that gives it, or of an empty one. -/
theorem describe_run {read : Configuration}
    (held : ∀ given ∈ file.items, given.HoldsIn cores read)
    (without
      : (∀ given ∈ file.items, given.name ≠ "execution")
        → (SettingsSection.run (.empty _)).HoldsIn cores read)
    : RunSetting.Describe file.runSettings read.run := by
  have elsewhere
      : ∀ given : SettingsSection, given.name ≠ "execution" → given.runSettings = [] := by
    intro given other
    cases given with
    | counts settings => rfl
    | run settings => exact absurd rfl other
  rcases file.flatMap_of_name SettingsSection.runSettings "execution" elsewhere with
    ⟨given, member, named, same⟩ | ⟨absent, nothing⟩
  · cases given with
    | counts settings => exact absurd named (by simp [SettingsSection.name])
    | run settings =>
        have describes := held _ member
        exact describes.of_mem_iff same
  · rw [runSettings, nothing]
    exact without absent

/-- A file is read as the settings that are meant by it, apart from zeros that are replaced. A
section that is not there says as much as an empty one.
-/
theorem decoder_entries (file : SettingsFile) (cores : Nat)
    : ∃ read meant,
        Configuration.decoder cores .toml (.table file.entries) = .ok read
        ∧ file.Describes meant
        ∧ read.normalize cores = meant.normalize cores := by
  obtain ⟨read, reads, held, kept⟩ :=
    (SettingsSection.spelled cores).readEntries file.once (fun _ _ => List.not_mem_nil)
      (Configuration.standard cores)
  have counted :=
    exists_counts held fun absent =>
      (kept (.counts (.empty _)) absent).mpr (SettingsSection.counts_holdsIn_standard cores)
  have running :=
    describe_run held fun absent =>
      (kept (.run (.empty _)) absent).mpr (SettingsSection.run_holdsIn_standard cores)
  -- What is read may have had its zeros replaced already, unlike the counts that are meant.
  obtain ⟨counts, describes, same⟩ := counted
  refine ⟨read, { read with counts }, ?_, ⟨describes, running⟩, ?_⟩
  · exact Decoder.Fields.ofEntries_of_readEntries rfl reads
  · exact congrArg (fun counts => { read with counts }) same.symm

end SettingsFile

-----------------------------------------------------------------------------------------
-- Only one meaning
-----------------------------------------------------------------------------------------

/-- Both records have the same number in the place of a setting. -/
def CountSetting.SameIn (first second : WorkerCounts) : CountSetting → Prop
  | .workers _ => first.workers = second.workers
  | .testExecution _ => first.testExecution = second.testExecution
  | .mutantExecution _ => first.mutantExecution = second.mutantExecution

theorem CountSetting.Describe.unique {settings : List CountSetting} {first second : WorkerCounts}
    (describes : Describe settings first) (describesToo : Describe settings second)
    : first = second := by
  have same (setting : CountSetting) (member : setting ∈ defaults)
      : setting.SameIn first second := by
    obtain ⟨held, named, holds, holdsToo⟩ := describes.agree describesToo member
    cases setting <;> cases held <;> simp_all [key, HoldsIn, SameIn]
  cases first
  cases second
  simpa [defaults, SameIn] using same

/-- Both records have the same value in the place of a setting. -/
def RunSetting.SameIn (first second : RunSettings) : RunSetting → Prop
  | .failFast _ => first.failFast = second.failFast
  | .dryRun _ => first.dryRun = second.dryRun
  | .sandbox _ => first.sandbox = second.sandbox
  | .timeoutMultiplier _ => first.timeoutMultiplier = second.timeoutMultiplier
  | .minTimeout _ => first.minTimeout = second.minTimeout
  | .testTimeout _ => first.testTimeout = second.testTimeout
  | .showProgress _ => first.showProgress = second.showProgress

theorem RunSetting.Describe.unique {settings : List RunSetting} {first second : RunSettings}
    (describes : Describe settings first) (describesToo : Describe settings second)
    : first = second := by
  have same (setting : RunSetting) (member : setting ∈ defaults)
      : setting.SameIn first second := by
    obtain ⟨held, named, holds, holdsToo⟩ := describes.agree describesToo member
    cases setting <;> cases held <;> simp_all [key, HoldsIn, SameIn]
  cases first
  cases second
  simpa [defaults, SameIn] using same

/-- A file means one configuration. -/
theorem SettingsFile.Describes.unique {file : SettingsFile} {first second : Configuration}
    (describes : file.Describes first) (describesToo : file.Describes second)
    : first = second :=
  congrArg₂ Configuration.mk (describes.counts.unique describesToo.counts)
    (describes.run.unique describesToo.run)

-----------------------------------------------------------------------------------------
-- Names that mean nothing
-----------------------------------------------------------------------------------------

/-- Names in a document that mean nothing: that of a section, or that of a setting in a section. -/
inductive Misnamed (entries : List (String × Value)) : Prop
  | ofSection {name : String} {value : Value} (member : (name, value) ∈ entries)
    (unknown : ∀ given : SettingsSection, given.name ≠ name)
  | ofCount {inner : List (String × Value)} {name : String} {value : Value}
    (member : ("parallelization", .table inner) ∈ entries) (inside : (name, value) ∈ inner)
    (unknown : ∀ setting : CountSetting, setting.key ≠ name)
  | ofRun {inner : List (String × Value)} {name : String} {value : Value}
    (member : ("execution", .table inner) ∈ entries) (inside : (name, value) ∈ inner)
    (unknown : ∀ setting : RunSetting, setting.key ≠ name)

theorem not_mem_names_of_unknown {σ : Type} {key : σ → String} {settings : List σ}
    {names : List String} (same : names = settings.map key) {name : String}
    (unknown : ∀ setting, key setting ≠ name)
    : name ∉ names := by
  rw [same]
  intro known
  obtain ⟨setting, -, named⟩ := List.mem_map.mp known
  exact unknown setting named

/-- A document in which a name means nothing is refused. -/
theorem decoder_of_misnamed {entries : List (String × Value)} (misnamed : Misnamed entries)
    (cores : Nat)
    : ∃ error, Configuration.decoder cores .toml (.table entries) = .error error := by
  change ∃ error, (Configuration.fields cores).ofEntries .toml entries = .error error
  cases misnamed with
  | ofSection member unknown =>
      have sections
          : (Configuration.fields cores).names
            = [.counts (.empty _), .run (.empty _)].map SettingsSection.name :=
        rfl
      exact Decoder.Fields.ofEntries_error rfl member fun known =>
        absurd known (not_mem_names_of_unknown sections unknown)
  | @ofCount inner name value member inside unknown =>
      have keys : WorkerCounts.fields.names = CountSetting.defaults.map CountSetting.key := rfl
      have refused : ∃ error, WorkerCounts.fields.ofEntries .toml inner = .error error :=
        Decoder.Fields.ofEntries_error rfl inside fun known =>
          absurd known (not_mem_names_of_unknown keys unknown)
      obtain ⟨error, fails⟩ := refused
      refine Decoder.Fields.ofEntries_error rfl member fun _ record => ⟨error, ?_⟩
      simp [Configuration.fields, WorkerCounts.decoder, Decoder.record, fails, bind, Except.bind]
  | @ofRun inner name value member inside unknown =>
      have keys : RunSettings.fields.names = RunSetting.defaults.map RunSetting.key := rfl
      have refused : ∃ error, RunSettings.fields.ofEntries .toml inner = .error error :=
        Decoder.Fields.ofEntries_error rfl inside fun known =>
          absurd known (not_mem_names_of_unknown keys unknown)
      obtain ⟨error, fails⟩ := refused
      refine Decoder.Fields.ofEntries_error rfl member fun _ record => ⟨error, ?_⟩
      simp [Configuration.fields, RunSettings.decoder, Decoder.record, fails, bind, Except.bind]

end MutationTesting
