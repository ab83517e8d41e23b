import Concordance.Proofs.Config.Paths
import Concordance.Proofs.ContentLog
import Concordance.Store.Basic

/-!
# The files of an open store

The log of an open store is a file, and the paths of the index files do not lead to it: otherwise an
index file would have been found when the store was opened. As long as no directory is made or
removed this stays so, and the root directory is found again when the store is reopened.
-/
namespace Concordance

open Disk (Keeps sizeLimit)

namespace Config

variable (config : Config)

/-- What the names of the files begin with. -/
def stems : List String := ["strings", "term_string_offsets", "string_offsets_link_hashes"]

theorem isStem_of_mem {stem : String} (member : stem ∈ stems) : Path.IsStem stem := by
  simp only [stems, List.mem_cons, List.not_mem_nil, or_false] at member
  rcases member with rfl | rfl | rfl
  · exact ⟨⟨'s', _, rfl, by decide⟩, Path.free_of_all (by decide)⟩
  · exact ⟨⟨'t', _, rfl, by decide⟩, Path.free_of_all (by decide)⟩
  · exact ⟨⟨'s', _, rfl, by decide⟩, Path.free_of_all (by decide)⟩

/-- No stem begins with another one. -/
theorem stem_eq_of_prefix {stem other : String} (member : stem ∈ stems)
    (other_member : other ∈ stems) (begins : stem.toList <+: other.toList) : stem = other := by
  have apart : ∀ stem ∈ stems, ∀ other ∈ stems, stem.toList <+: other.toList → stem = other := by
    decide
  exact apart stem member other other_member begins

theorem strings_mem : "strings" ∈ stems := by decide

theorem terms_mem : "term_string_offsets" ∈ stems := by decide

theorem links_mem : "string_offsets_link_hashes" ∈ stems := by decide

end Config

/-- The log of `config` is a file with these bytes, and the paths of the index files lead
elsewhere. -/
structure Files (config : Config) (disk : Disk) (log : Bytes) : Prop where
  valid : config.validate = .ok ()
  rooted : config.path ≠ ""
  named : Path.isNamed config.logPath = true
  contains : disk.Contains config.logPath log
  bounded : log.length ≤ sizeLimit
  apart : ∀ stem ∈ Config.stems, stem ≠ "strings" → ∀ place,
    disk.resolve (config.pathOf stem) = .ok place → place ≠ Path.locate config.logPath

namespace Files

variable {config : Config} {disk after : Disk} {log : Bytes}

/-- The index files are as far from each other as they are from the log. -/
theorem ne_of_resolve (files : Files config disk log) {stem other : String}
    (member : stem ∈ Config.stems) (other_member : other ∈ Config.stems) (differ : stem ≠ other)
    (indexes : stem ≠ "strings") {place : Location}
    (resolved : disk.resolve (config.pathOf stem) = .ok place) :
    place ≠ Path.locate (config.pathOf other) := by
  obtain rfl := (Disk.resolve_eq_ok.mp resolved).2.2
  intro same
  have all := config.locate_pathOf_eq (Config.isStem_of_mem member)
    (Config.isStem_of_mem other_member) differ same (Config.isStem_of_mem Config.strings_mem)
  exact files.apart stem member indexes _ resolved all

/-- Changes elsewhere leave the log alone. -/
theorem keeps {changed : List Location} (files : Files config disk log)
    (kept : Keeps changed disk after) (away : Path.locate config.logPath ∉ changed) :
    Files config after log where
  valid := files.valid
  rooted := files.rooted
  named := files.named
  contains := (kept.contains_iff fun place resolved => by
    rw [(Disk.resolve_eq_ok.mp resolved).2.2]
    exact away).mpr files.contains
  bounded := files.bounded
  apart stem member indexes place resolved :=
    files.apart stem member indexes place (kept.resolve_eq_ok.mp resolved)

theorem withFaults (files : Files config disk log) (faults : List (Option Fault)) :
    Files config { disk with faults } log :=
  files.keeps (Disk.keeps_withFaults [] disk faults) List.not_mem_nil

theorem afterRequest (files : Files config disk log) : Files config disk.afterRequest log :=
  files.withFaults _

/-- The log may change where it is. -/
theorem grow {longer : Bytes} (files : Files config disk log)
    (kept : Keeps [Path.locate config.logPath] disk after)
    (contains : after.Contains config.logPath longer) (bounded : longer.length ≤ sizeLimit) :
    Files config after longer where
  valid := files.valid
  rooted := files.rooted
  named := files.named
  contains := contains
  bounded := bounded
  apart stem member indexes place resolved :=
    files.apart stem member indexes place (kept.resolve_eq_ok.mp resolved)

end Files

/-! ### The root directory -/

/-- The names of a path that can be entered are short enough, the last one included. -/
theorem isOverlong_of_entered {disk : Disk} {root : String} {place : Location}
    (entered : (Path.names root).foldlM disk.enter [] = .ok place) :
    Disk.isOverlong root = false ∧
      ∃ place, (Path.names root).dropLast.foldlM disk.enter [] = .ok place := by
  cases ending : (Path.names root).getLast? with
  | none =>
    have nameless := List.getLast?_eq_none_iff.mp ending
    rw [nameless]
    exact ⟨by simp [Disk.isOverlong, nameless], [], rfl⟩
  | some name =>
    obtain ⟨front, split⟩ := List.getLast?_eq_some_iff.mp ending
    rw [split] at entered
    obtain ⟨place, before, enters⟩ := Disk.foldlM_append_eq_ok.mp entered
    obtain ⟨next, entered, _⟩ := Disk.foldlM_cons_eq_ok.mp enters
    have size := (Disk.enter_eq_ok.mp entered).1
    refine ⟨?_, place, by rw [split, List.dropLast_concat, before]⟩
    simp [Disk.isOverlong, ending, Nat.not_lt.mpr size]

/-- The way to a file leads through its directory. -/
theorem isDirectory_of_join {disk : Disk} {root name : String} (rooted : root ≠ "")
    (inside : Path.names name ≠ []) (walked : disk.walk (Path.join root name) = .ok ()) :
    disk.isDirectory root = true := by
  obtain ⟨clean, _, fits, last, entered⟩ := Disk.walk_eq_ok.mp walked
  obtain ⟨more, extended⟩ : ∃ more, Path.join root name = root ++ more := by
    unfold Path.join
    split
    · exact ⟨name, rfl⟩
    · exact ⟨"/" ++ name, String.append_assoc ..⟩
  rw [Path.names_join, List.dropLast_append_of_ne_nil inside] at entered
  obtain ⟨place, reached, _⟩ := Disk.foldlM_append_eq_ok.mp entered
  obtain ⟨rfl, reaches⟩ := disk.reaches_root.foldlM reached
  have found : disk.entry? (Path.locate root) = some .directory := reaches _ (List.prefix_refl _)
  obtain ⟨short, before⟩ := isOverlong_of_entered reached
  -- the root is a part of the longer path, which can be walked
  rw [extended] at clean fits
  have walks : disk.walk root = .ok () := by
    refine Disk.walk_eq_ok.mpr ⟨fun nul => clean ?_, rooted, ?_, before⟩
    · rw [String.toList_append]
      exact List.mem_append_left _ nul
    · have sizes : Text.size (root ++ more) = Text.size root + Text.size more :=
        String.utf8ByteSize_append
      omega
  have resolved : disk.resolve root = .ok (Path.locate root) :=
    Disk.resolve_eq_ok.mpr ⟨walks, short, rfl⟩
  have directory : disk.find root = .ok .directory :=
    Disk.find_eq_ok.mpr ⟨resolved, found, fun _ => rfl⟩
  rw [Disk.isDirectory, directory]

theorem Files.isDirectory_root {config : Config} {disk : Disk} {log : Bytes}
    (files : Files config disk log) : disk.isDirectory config.path = true := by
  have walked := (Disk.resolve_eq_ok.mp (Disk.contains_iff.mp files.contains).1).1
  refine isDirectory_of_join files.rooted ?_ walked
  rw [config.fileName_eq, Path.names_stem (Config.isStem_of_mem Config.strings_mem)]
  exact List.cons_ne_nil _ _

/-! ### Opening -/

namespace Store

/-- The store of a configuration over a log of the given size, with nothing linked. -/
def unlinked (config : Config) (log : Bytes) : Store where
  config := config
  log := ⟨config.logPath, UInt64.ofNat log.length⟩
  terms := TermIndex.empty
  links := LinkIndex.empty

/-- A store in the working directory. -/
def sampleConfig : Config := ⟨".", 8, "", Tokenizer.standard⟩

/-- A store that is opened has a log, and nothing is linked as long as no index has been read. -/
theorem openEmpty_ok {config : Config} {disk after : Disk} {store : Store}
    (opened : openEmpty config disk = (.ok store, after)) :
    config.validate = .ok () ∧ config.path ≠ "" ∧ Path.isNamed config.logPath = true ∧
      ∃ log, after.Contains config.logPath log ∧ store = unlinked config log := by
  unfold openEmpty at opened
  split at opened
  · simp at opened
  · next valid =>
    split at opened
    · simp at opened
    · next rooted_disk root =>
      have rooted : config.path ≠ "" := by
        rintro empty
        simp [ensureRoot, empty] at root
      split at opened
      · simp at opened
      · next log log_disk log_opened =>
        obtain ⟨same, rfl⟩ := Prod.mk.inj opened
        cases same
        obtain ⟨path, next⟩ := log
        obtain ⟨rfl, named, bytes, contains, expected, _⟩ := ContentLog.openAt_ok log_opened
        obtain rfl : next = UInt64.ofNat bytes.length := expected
        exact ⟨valid, rooted, named, bytes, contains, rfl⟩

/-- A store whose log is there is opened as soon as the disk grants it. -/
theorem openEmpty_of_files {config : Config} {disk : Disk} {log : Bytes}
    (files : Files config disk log) :
    openEmpty config disk = (.ok (unlinked config log), disk.afterRequest) ∧
        disk.nextFault = none ∨
      ∃ error, openEmpty config disk = (.error error, disk.afterRequest) ∧
        disk.nextFault ≠ none := by
  have root : ensureRoot config.path disk = (.ok (), disk) := by
    rw [ensureRoot, if_neg (by simpa using files.rooted), if_pos files.isDirectory_root]
  unfold openEmpty
  rw [files.valid, root]
  dsimp only
  cases fate : disk.nextFault with
  | none =>
    have opened := Disk.openFile_of_contains
      (by decide : Disk.OpenMode.appendOrCreate ≠ .createEmpty) files.contains fate
    have size := Disk.sizeAt_of_holds (Disk.contains_iff.mp files.contains).2.2
    have same : disk.afterRequest.sizeAt (Path.locate config.logPath) =
        disk.sizeAt (Path.locate config.logPath) := rfl
    left
    rw [ContentLog.openAt, opened]
    dsimp only
    rw [same, size]
    exact ⟨rfl, rfl⟩
  | some fault =>
    right
    refine ⟨.write (.openFile config.logPath) fault.cause, ?_, by simp⟩
    rw [ContentLog.openAt, Disk.openFile, fate]

/-- The path of an index file that is not found does not lead to the log, or the log would be found
there. -/
theorem ne_of_missing {config : Config} {disk : Disk} {log : Bytes} {stem : String}
    {place : Location} (contains : disk.Contains config.logPath log) (member : stem ∈ Config.stems)
    (missing : disk.pathExists (config.pathOf stem) = false)
    (resolved : disk.resolve (config.pathOf stem) = .ok place) :
    place ≠ Path.locate config.logPath := by
  obtain ⟨_, unslashed, entry, found, _⟩ := Disk.contains_iff.mp contains
  rintro same
  obtain rfl := (Disk.resolve_eq_ok.mp resolved).2.2
  have plain : Path.isSlashed (config.pathOf stem) = false := by
    rw [config.logPath_eq, config.isSlashed_pathOf (Config.isStem_of_mem Config.strings_mem)]
      at unslashed
    rw [config.isSlashed_pathOf (Config.isStem_of_mem member), unslashed]
  exact Disk.pathExists_eq_false_iff.mp missing entry
    (Disk.find_eq_ok.mpr ⟨resolved, by rw [same, found], by simp [plain]⟩)

/-- If no index file is found by the side of the log, none of their paths leads to it. -/
theorem files_of_openEmpty {config : Config} {disk after : Disk} {store : Store}
    (opened : openEmpty config disk = (.ok store, after))
    (fresh : (indexFiles config).anyExist after = false)
    (bounded : ∀ log, after.Contains config.logPath log → log.length ≤ sizeLimit) :
    ∃ log, Files config after log ∧ store = unlinked config log := by
  obtain ⟨valid, rooted, named, log, contains, rfl⟩ := openEmpty_ok opened
  refine ⟨log, ⟨valid, rooted, named, contains, bounded log contains, ?_⟩, rfl⟩
  intro stem member indexes place resolved
  obtain ⟨no_terms, no_links⟩ := Bool.or_eq_false_iff.mp fresh
  refine ne_of_missing contains member ?_ resolved
  simp only [Config.stems, List.mem_cons, List.not_mem_nil, or_false] at member
  rcases member with rfl | rfl | rfl
  · exact absurd rfl indexes
  · exact no_terms
  · exact no_links

end Store

end Concordance
