import Mathlib.Algebra.Group.Int.Defs
import MutationTesting.Proofs.Configuration.Settings
import MutationTesting.Proofs.Document.TomlDocuments
import MutationTesting.Proofs.Text.LossyReading

/-! Files of settings. Loading a file gives what the file means, however it is written, with zeros
replaced; a name that means nothing makes it fail. Settings can be written to a file, and loading it
gives them back.
-/

namespace MutationTesting

open Document

-----------------------------------------------------------------------------------------
-- Files as text
-----------------------------------------------------------------------------------------

namespace Document

/-- Documents have room for whole numbers with 63 bits. -/
def Value.Fits (value : Value) : Prop := ∀ number, value = .integer number → number < 2 ^ 63

theorem Value.fits_integer {number : Nat} : Value.Fits (.integer number) ↔ number < 2 ^ 63 := by
  constructor
  · intro fits
    have bound := fits number rfl
    omega
  · rintro small other ⟨⟩
    omega

theorem Value.fits_bool (flag : Bool) : Value.Fits (.bool flag) := by rintro number ⟨⟩

namespace Toml

/-- The document that the bytes of a file spell. -/
def ofBytes? (bytes : List UInt8) : Option (List (String × Value)) :=
  (Utf8.decode? bytes).bind read?

/-- What is written for a flag, a number or a short text. -/
def literalOf : Value → String
  | .bool value => toString value
  | .integer number => toString number
  | .text text => "\"" ++ text ++ "\""
  | _ => ""

theorem spells_flag (value : Bool) : Spells (literalOf (.bool value)).toList (.bool value) := by
  cases value with
  | false => exact spells_false
  | true => exact spells_true

theorem spells_integer {number : Nat} (fits : Value.Fits (.integer number))
    : Spells (literalOf (.integer number)).toList (.integer number) := by
  have letters : (literalOf (.integer number)).toList = Nat.toDigits 10 number := by
    change (toString number).toList = _
    rw [Nat.toString_eq_ofList_toDigits, String.toList_ofList]
  rw [letters]
  exact spells_number (Value.fits_integer.mp fits)

theorem spells_quoted {text : String} (something : text.toList ≠ [])
    (basic : ∀ c ∈ text.toList, isBasic c = true)
    : Spells (literalOf (.text text)).toList (.text text) := by
  have letters : (literalOf (.text text)).toList = '"' :: text.toList ++ ['"'] := by
    simp [literalOf]
  rw [letters]
  exact spells_text something basic

theorem bare_of_all {name : String}
    (letters : (!name.toList.isEmpty && name.toList.all isBare) = true)
    : Bare name := by
  rw [Bool.and_eq_true, List.all_eq_true] at letters
  exact ⟨by simpa using letters.1, letters.2⟩

end Toml

end Document

-----------------------------------------------------------------------------------------
-- Settings as text
-----------------------------------------------------------------------------------------

theorem CountSetting.bare (setting : CountSetting) : Toml.Bare setting.key := by
  cases setting <;> exact Toml.bare_of_all (by simp only [key]; decide)

theorem CountSetting.spells (setting : CountSetting) (fits : setting.value.Fits)
    : Toml.Spells (Toml.literalOf setting.value).toList setting.value := by
  cases setting <;> exact Toml.spells_integer fits

theorem RunSetting.bare (setting : RunSetting) : Toml.Bare setting.key := by
  cases setting <;> exact Toml.bare_of_all (by simp only [key]; decide)

theorem RunSetting.spells (setting : RunSetting) (fits : setting.value.Fits)
    : Toml.Spells (Toml.literalOf setting.value).toList setting.value := by
  cases setting with
  | failFast flag | dryRun flag | showProgress flag => exact Toml.spells_flag flag
  | sandbox kind =>
      cases kind <;> exact Toml.spells_quoted (List.cons_ne_nil _ _) (List.all_eq_true.mp rfl)
  | timeoutMultiplier | minTimeout | testTimeout => exact Toml.spells_integer fits

namespace SettingsSection

/-- A section as it is written. -/
def block (given : SettingsSection) : Toml.Block where
  name := given.name
  entries :=
    given.entries.map fun entry =>
      { name := entry.1, text := Toml.literalOf entry.2, value := entry.2 }

/-- All numbers of a section fit into a document. -/
def Fits (given : SettingsSection) : Prop := ∀ entry ∈ given.entries, entry.2.Fits

theorem fits_counts {settings : Listing CountSetting.key}
    (each : ∀ setting ∈ settings.items, setting.value.Fits)
    : (SettingsSection.counts settings).Fits :=
  List.forall_mem_map.mpr each

theorem fits_run {settings : Listing RunSetting.key}
    (each : ∀ setting ∈ settings.items, setting.value.Fits)
    : (SettingsSection.run settings).Fits :=
  List.forall_mem_map.mpr each

theorem bare (given : SettingsSection) : Toml.Bare given.name := by
  cases given <;> exact Toml.bare_of_all (by simp only [name]; decide)

theorem block_sound {given : SettingsSection} (fits : given.Fits) : given.block.Sound where
  bare := given.bare
  entries := by
    intro written member
    obtain ⟨entry, there, rfl⟩ := List.mem_map.mp member
    have small := fits entry there
    cases given with
    | counts settings =>
        obtain ⟨setting, -, rfl⟩ := List.mem_map.mp there
        exact ⟨setting.bare, setting.spells small⟩
    | run settings =>
        obtain ⟨setting, -, rfl⟩ := List.mem_map.mp there
        exact ⟨setting.bare, setting.spells small⟩
  once := by
    cases given with
    | counts settings => simpa [block, entries, Function.comp_def] using settings.once
    | run settings => simpa [block, entries, Function.comp_def] using settings.once

theorem value_block (given : SettingsSection) : given.block.value = given.value := by
  simp [block, Toml.Block.value, value, Function.comp_def]

end SettingsSection

namespace SettingsFile

/-- A file as it is written, with its sections and their settings in order. -/
def text (file : SettingsFile) : String := Toml.written (file.items.map SettingsSection.block)

def Fits (file : SettingsFile) : Prop := ∀ given ∈ file.items, given.Fits

/-- A file is read as it was written. -/
theorem read?_text (file : SettingsFile) (fits : file.Fits)
    : Toml.read? file.text = some file.entries := by
  have sound : ∀ block ∈ file.items.map SettingsSection.block, block.Sound := by
    intro block member
    obtain ⟨given, there, rfl⟩ := List.mem_map.mp member
    exact SettingsSection.block_sound (fits given there)
  have once : ((file.items.map SettingsSection.block).map Toml.Block.name).Nodup := by
    rw [List.map_map]
    exact file.once
  rw [text, Toml.read?_written sound once, List.map_map]
  exact congrArg some (List.map_congr_left fun given _ =>
    congrArg (Prod.mk given.name) given.value_block)

/-- An empty section of worker counts says nothing, wherever it is added. -/
theorem Describes.of_perm {file other : SettingsFile} {configuration : Configuration}
    (describes : file.Describes configuration)
    (added : other.items.Perm (.counts (.empty _) :: file.items))
    : other.Describes configuration where
  counts :=
    describes.counts.of_mem_iff fun setting => by
      have same := (added.flatMap_right SettingsSection.countSettings).mem_iff (a := setting)
      exact same.symm
  run :=
    describes.run.of_mem_iff fun setting => by
      have same := (added.flatMap_right SettingsSection.runSettings).mem_iff (a := setting)
      exact same.symm

end SettingsFile

-----------------------------------------------------------------------------------------
-- Configurations as files
-----------------------------------------------------------------------------------------

/-- A count that fits is kept when it becomes a machine word. -/
theorem toNat_ofNat_of_fits {count : Nat} (fits : count < 2 ^ 63)
    : (UInt64.ofNat count).toNat = count :=
  UInt64.toNat_ofNat_of_lt (Nat.lt_trans fits (by decide))

namespace WorkerCounts

/-- All counts fit into a document. -/
structure Fits (counts : WorkerCounts) : Prop where
  workers : counts.workers < 2 ^ 63
  testExecution : counts.testExecution < 2 ^ 63
  mutantExecution : counts.mutantExecution < 2 ^ 63

/-- The settings that give all counts. -/
def settings (counts : WorkerCounts) : Listing CountSetting.key where
  items :=
    [
      .workers (.ofNat counts.workers),
      .testExecution (.ofNat counts.testExecution),
      .mutantExecution (.ofNat counts.mutantExecution)
    ]
  once := by simp [CountSetting.key]

variable {counts : WorkerCounts}

theorem Fits.describe (fits : counts.Fits)
    : CountSetting.Describe counts.settings.items counts where
  given := by
    simp only [settings, List.forall_mem_cons]
    exact ⟨(toNat_ofNat_of_fits fits.workers).symm, (toNat_ofNat_of_fits fits.testExecution).symm,
      (toNat_ofNat_of_fits fits.mutantExecution).symm, List.forall_mem_nil _⟩
  absent := by simp [settings, CountSetting.defaults, CountSetting.key]

theorem Fits.written (fits : counts.Fits) : (SettingsSection.counts counts.settings).Fits := by
  have number {count : Nat} (small : count < 2 ^ 63)
      : Value.Fits (.integer (UInt64.ofNat count).toNat) := by
    rw [toNat_ofNat_of_fits small]
    exact Value.fits_integer.mpr small
  apply SettingsSection.fits_counts
  simp only [settings, List.forall_mem_cons]
  exact ⟨number fits.workers, number fits.testExecution, number fits.mutantExecution,
    List.forall_mem_nil _⟩

theorem Fits.value (fits : counts.Fits)
    : (SettingsSection.counts counts.settings).value = counts.toValue := by
  have number {count : Nat} (small : count < 2 ^ 63)
      : Value.integer (UInt64.ofNat count).toNat = .integer count :=
    congrArg (fun count : Nat => Value.integer count) (toNat_ofNat_of_fits small)
  have workers := number fits.workers
  have testExecution := number fits.testExecution
  have mutantExecution := number fits.mutantExecution
  simp only [toValue, ← workers, ← testExecution, ← mutantExecution]
  rfl

end WorkerCounts

namespace RunSettings

/-- All numbers fit into a document. -/
structure Fits (run : RunSettings) : Prop where
  minTimeout : run.minTimeout.toNat < 2 ^ 63
  testTimeout : run.testTimeout.toNat < 2 ^ 63

/-- The settings that give all of a run. -/
def settings (run : RunSettings) : Listing RunSetting.key where
  items :=
    [
      .failFast run.failFast,
      .dryRun run.dryRun,
      .sandbox run.sandbox,
      .timeoutMultiplier run.timeoutMultiplier,
      .minTimeout run.minTimeout,
      .testTimeout run.testTimeout,
      .showProgress run.showProgress
    ]
  once := by simp [RunSetting.key]

variable {run : RunSettings}

theorem describe_settings (run : RunSettings) : RunSetting.Describe run.settings.items run where
  given := by simp [settings, RunSetting.HoldsIn]
  absent := by simp [settings, RunSetting.defaults, RunSetting.key]

theorem Fits.written (fits : run.Fits) : (SettingsSection.run run.settings).Fits := by
  have factor : run.timeoutMultiplier.toNat < 2 ^ 63 :=
    Nat.lt_trans run.timeoutMultiplier.toNat_lt (by decide)
  have kind : (RunSetting.sandbox run.sandbox).value.Fits := by
    cases run.sandbox <;> rintro number ⟨⟩
  apply SettingsSection.fits_run
  simp only [settings, List.forall_mem_cons]
  exact ⟨Value.fits_bool _, Value.fits_bool _, kind, Value.fits_integer.mpr factor,
    Value.fits_integer.mpr fits.minTimeout, Value.fits_integer.mpr fits.testTimeout,
    Value.fits_bool _, List.forall_mem_nil _⟩

theorem value_settings (run : RunSettings)
    : (SettingsSection.run run.settings).value = run.toValue := by
  have kind : (RunSetting.sandbox run.sandbox).value = run.sandbox.toValue := by
    cases run.sandbox <;> rfl
  simp only [toValue, ← kind]
  rfl

end RunSettings

namespace Configuration

/-- All numbers of a configuration fit into a document. -/
structure Fits (configuration : Configuration) : Prop where
  counts : configuration.counts.Fits
  run : configuration.run.Fits

/-- The file that gives all settings of a configuration. -/
def file (configuration : Configuration) : SettingsFile where
  items := [.counts configuration.counts.settings, .run configuration.run.settings]
  once := by simp [SettingsSection.name]

variable {configuration : Configuration}

theorem Fits.file (fits : configuration.Fits) : configuration.file.Fits := by
  simp [SettingsFile.Fits, Configuration.file, fits.counts.written, fits.run.written]

/-- The file of a configuration means that configuration. -/
theorem Fits.describes (fits : configuration.Fits)
    : configuration.file.Describes configuration := by
  refine ⟨?_, ?_⟩
  · simpa [Configuration.file, SettingsFile.countSettings, SettingsSection.countSettings]
      using fits.counts.describe
  · simpa [Configuration.file, SettingsFile.runSettings, SettingsSection.runSettings]
      using configuration.run.describe_settings

/-- The file of a configuration has the values that the configuration is encoded by. -/
theorem Fits.toValue_eq (fits : configuration.Fits)
    : configuration.toValue = .table configuration.file.entries := by
  simp [toValue, SettingsFile.entries, Configuration.file, fits.counts.value,
    configuration.run.value_settings, SettingsSection.name]

-----------------------------------------------------------------------------------------
-- Loading files
-----------------------------------------------------------------------------------------

variable {bytes others : List UInt8}

/-- Loading depends on the document that the bytes of a file spell. -/
theorem load_of_spelled {entries : List (String × Value)}
    (spelled : Toml.ofBytes? bytes = some entries) (cores : Nat)
    : load (some bytes) cores
      = match decoder cores .toml (.table entries) with
        | .error error => .error (.malformed (some error))
        | .ok configuration => .ok (configuration.normalize cores) := by
  obtain ⟨text, decoded, read⟩ := Option.bind_eq_some_iff.mp spelled
  cases answer : decoder cores .toml (.table entries) with
  | error error => simp only [load, Option.bind_some, decoded, ofText, read, answer]
  | ok configuration => simp only [load, Option.bind_some, decoded, ofText, read, answer]

/-- A file means a configuration, and loading it gives that configuration without zeros. -/
theorem exists_load {file : SettingsFile} (spelled : Toml.ofBytes? bytes = some file.entries)
    (cores : Nat)
    : ∃ meant,
        file.Describes meant ∧ load (some bytes) cores = .ok (meant.normalize cores) := by
  obtain ⟨read, meant, decoded, describes, same⟩ := file.decoder_entries cores
  refine ⟨meant, describes, ?_⟩
  rw [load_of_spelled spelled, decoded]
  exact congrArg Except.ok same

theorem load_of_describes {file : SettingsFile} {configuration : Configuration}
    (spelled : Toml.ofBytes? bytes = some file.entries) (describes : file.Describes configuration)
    (cores : Nat)
    : load (some bytes) cores = .ok (configuration.normalize cores) := by
  obtain ⟨meant, own, loaded⟩ := exists_load spelled cores
  rw [loaded, own.unique describes]

theorem load_of_misnamed {entries : List (String × Value)}
    (spelled : Toml.ofBytes? bytes = some entries) (misnamed : Misnamed entries) (cores : Nat)
    : ∃ error, load (some bytes) cores = .error (.malformed (some error)) := by
  obtain ⟨error, refused⟩ := decoder_of_misnamed misnamed cores
  refine ⟨error, ?_⟩
  rw [load_of_spelled spelled, refused]

/-- Files mean defaults and what they say. Whatever document of the two sections a file spells, with
any of their settings in any order, loading it gives the one configuration in which the settings
that are given hold and all others have their defaults, with zeros replaced. An empty section of
worker counts changes nothing, and the name of no section or no setting makes loading fail.
Documents can be written so that they are spelled; and a file that spells what a configuration is
encoded by is loaded as that configuration with zeros replaced, which leaves nothing to be replaced
again.
-/
theorem load_meaning (cores : Nat)
    : (∀ (file : SettingsFile) (bytes : List UInt8),
        Toml.ofBytes? bytes = some file.entries
        → ∃ meant,
            (∀ configuration, file.Describes configuration ↔ configuration = meant)
            ∧ load (some bytes) cores = .ok (meant.normalize cores))
      ∧ (∀ (file other : SettingsFile) (bytes others : List UInt8),
          Toml.ofBytes? bytes = some file.entries
          → Toml.ofBytes? others = some other.entries
          → other.items.Perm (.counts (.empty _) :: file.items)
          → load (some others) cores = load (some bytes) cores)
      ∧ (∀ (entries : List (String × Value)) (bytes : List UInt8),
          Toml.ofBytes? bytes = some entries
          → Misnamed entries
          → ∃ error, load (some bytes) cores = .error (.malformed (some error)))
      ∧ (∀ file : SettingsFile,
          file.Fits → Toml.ofBytes? (Utf8.encode file.text) = some file.entries)
      ∧ (∀ configuration : Configuration,
          configuration.Fits
          → .table configuration.file.entries = configuration.toValue
            ∧ Toml.ofBytes? (Utf8.encode configuration.file.text) = some configuration.file.entries
            ∧ ∀ bytes,
                Toml.ofBytes? bytes = some configuration.file.entries
                → load (some bytes) cores = .ok (configuration.normalize cores))
      ∧ ∀ configuration : Configuration,
          (configuration.normalize cores).normalize cores = configuration.normalize cores := by
  have written (file : SettingsFile) (fits : file.Fits)
      : Toml.ofBytes? (Utf8.encode file.text) = some file.entries := by
    rw [Toml.ofBytes?, Utf8.decode?_encode, Option.bind_some]
    exact file.read?_text fits
  refine ⟨fun file bytes spelled => ?_, fun file other bytes others spelled spelledToo added => ?_,
    fun entries bytes spelled misnamed => load_of_misnamed spelled misnamed cores, written,
    fun configuration fits => ?_, fun configuration => configuration.normalize_normalize cores⟩
  · obtain ⟨meant, describes, loaded⟩ := exists_load spelled cores
    refine ⟨meant, fun configuration => ⟨fun own => own.unique describes, ?_⟩, loaded⟩
    rintro rfl
    exact describes
  · obtain ⟨meant, describes, loaded⟩ := exists_load spelled cores
    rw [loaded]
    exact load_of_describes spelledToo (describes.of_perm added) cores
  · refine ⟨fits.toValue_eq.symm, written _ fits.file, fun bytes spelled => ?_⟩
    exact load_of_describes spelled fits.describes cores

/-- A file with a single setting, and one with a name that means nothing. -/
theorem sample_load_meaning
    : let said : List UInt8 := Utf8.encode "[execution]\nfail-fast = true\n"
      let misspelled : List UInt8 := Utf8.encode "[execution]\nfail-quickly = true\n"
      load (some said) 4
      = .ok
          {
            counts := { workers := 4, testExecution := 4, mutantExecution := 4 }
            run := { failFast := true }
          }
      ∧ ∃ error, load (some misspelled) 4 = .error (.malformed (some error)) := by
  intro said misspelled
  obtain ⟨means, -, refuses, written, -, -⟩ := load_meaning 4
  let file : SettingsFile :=
    {
      items := [.run { items := [.failFast true], once := by simp }]
      once := by simp
    }
  have fits : file.Fits := by
    simp [file, SettingsFile.Fits, SettingsSection.Fits, SettingsSection.entries, RunSetting.value,
      Value.fits_bool]
  have text : file.text = "[execution]\nfail-fast = true\n" := by decide
  have spelled : Toml.ofBytes? said = some file.entries := by
    have own := written file fits
    rwa [text] at own
  constructor
  · obtain ⟨meant, only, loaded⟩ := means file said spelled
    have describes : file.Describes { counts := {}, run := { failFast := true } } := by
      constructor <;> constructor <;>
        simp [file, SettingsFile.countSettings, SettingsFile.runSettings,
          SettingsSection.countSettings, SettingsSection.runSettings, CountSetting.defaults,
          CountSetting.HoldsIn, RunSetting.defaults, RunSetting.HoldsIn, RunSetting.key]
    rw [loaded, ← (only _).mp describes]
    rfl
  · let entry : Toml.Entry := { name := "fail-quickly", text := "true", value := .bool true }
    let block : Toml.Block := { name := "execution", entries := [entry] }
    have sound : ∀ other ∈ [block], other.Sound := by
      have inside : entry.Sound := ⟨Toml.bare_of_all (by decide), Toml.spells_true⟩
      refine List.forall_mem_singleton.mpr ⟨Toml.bare_of_all (by decide), ?_, by simp [block]⟩
      exact List.forall_mem_singleton.mpr inside
    have spelledToo : Toml.ofBytes? misspelled = some [(block.name, block.value)] := by
      have text : Toml.written [block] = "[execution]\nfail-quickly = true\n" := by decide
      have read := Toml.read?_written sound (by simp)
      rw [text] at read
      rw [Toml.ofBytes?, Utf8.decode?_encode, Option.bind_some]
      exact read
    have misnamed : Misnamed [(block.name, block.value)] := by
      refine .ofRun (List.mem_singleton.mpr rfl) (List.mem_singleton.mpr rfl) fun setting => ?_
      cases setting <;> simp [RunSetting.key, entry]
    exact refuses _ misspelled spelledToo misnamed

end Configuration

end MutationTesting
