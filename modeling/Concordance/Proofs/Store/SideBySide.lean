import Concordance.Proofs.Path.Extension
import Concordance.Proofs.Store.Failing
import Mathlib.Data.List.Nodup

/-!
# Files side by side

Whatever the extension is, as long as it leads to no other directory, the files of a store and what
is written beside the index files have five different names in one directory. Saving changes only
the places of the index files and of what is written beside them, linking only that of the log. So
neither changes what the other one writes, in whatever state the store is and whatever comes of it.
-/
namespace Concordance

open Disk (Keeps SameAt)
open Concordance.Path (Names locate temporary temporaryName)

/-! ### The names of the files -/

namespace Config

variable (config : Config)

/-- All paths that are written to. -/
def writtenPaths : List String :=
  [config.logPath, config.termPath, temporary config.termPath, config.linkPath,
    temporary config.linkPath]

/-- The stems of the names that are written to, and what stands behind the name of the file. -/
def written : List (String × String) :=
  [("strings", ""), ("term_string_offsets", ""), ("term_string_offsets", ".tmp"),
    ("string_offsets_link_hashes", ""), ("string_offsets_link_hashes", ".tmp")]

/-- The name with the given stem and with something behind it. -/
def writtenName (parts : String × String) : String := config.fileName parts.1 ++ parts.2

theorem stem_mem_of_written {parts : String × String} (member : parts ∈ written) :
    parts.1 ∈ stems := by
  have all : ∀ parts ∈ written, parts.1 ∈ stems := by decide
  exact all parts member

/-- No name that is written to is another one. -/
theorem writtenName_injective {parts other : String × String} (member : parts ∈ written)
    (other_member : other ∈ written) (same : config.writtenName parts = config.writtenName other) :
    parts = other := by
  simp only [writtenName, fileName_eq] at same
  have chars := congrArg String.toList same
  simp only [String.toList_append, List.append_assoc] at chars
  -- both stems begin the same name, so they are one stem
  have stem : parts.1 = other.1 := by
    have first := stem_mem_of_written member
    have second := stem_mem_of_written other_member
    rcases List.append_eq_append_iff.mp chars with ⟨more, longer, _⟩ | ⟨more, longer, _⟩
    · exact stem_eq_of_prefix first second ⟨more, longer.symm⟩
    · exact Eq.symm <| stem_eq_of_prefix second first ⟨more, longer.symm⟩
  rw [stem] at same
  exact Prod.ext stem ((String.append_right_inj _).mp same)

/-- The extension does not lead to another directory. -/
def IsPlain : Prop := '/' ∉ config.extension.toList

variable {config}

theorem IsPlain.free (plain : config.IsPlain) {more : String}
    (free : ∀ char ∈ more.toList, (char == '/') = false) :
    ∀ char ∈ (config.ending ++ more).toList, (char == '/') = false := by
  intro char member
  rw [String.toList_append] at member
  rcases List.mem_append.mp member with inside | behind
  · unfold ending at inside
    split at inside
    · simp at inside
    · rw [String.toList_append] at inside
      rcases List.mem_append.mp inside with dot | extended
      · exact Path.free_of_all (by decide) char dot
      · exact beq_eq_false_iff_ne.mpr fun slash => plain (slash ▸ extended)
  · exact free char behind

/-- Every name that is written to is that of a file in the directory. -/
theorem names_written (plain : config.IsPlain) {parts : String × String}
    (member : parts ∈ written) :
    Names config.path (config.writtenName parts)
      (Path.join config.path (config.writtenName parts)) := by
  have behind : ∀ parts ∈ written, parts.2.toList.all (· != '/') = true := by decide
  rw [writtenName, fileName_eq, String.append_assoc]
  exact Path.names_of_stem (isStem_of_mem (stem_mem_of_written member))
    (plain.free (Path.free_of_all (behind parts member))) config.path

theorem temporary_pathOf (plain : config.IsPlain) {stem : String} (member : stem ∈ stems) :
    temporary (config.pathOf stem) =
      Path.join config.path (temporaryName (config.fileName stem)) := by
  have free : ∀ char ∈ (config.ending ++ "").toList, (char == '/') = false :=
    plain.free (by simp)
  rw [String.append_empty] at free
  rw [pathOf, fileName_eq]
  exact Path.temporary_join (isStem_of_mem member) free config.path

theorem writtenPaths_eq (plain : config.IsPlain) :
    config.writtenPaths =
      written.map fun parts => Path.join config.path (config.writtenName parts) := by
  have bare (stem : String) : config.fileName stem = config.fileName stem ++ "" :=
    String.append_empty.symm
  have beside {stem : String} (member : stem ∈ stems) :
      temporary (config.pathOf stem) =
        Path.join config.path (config.fileName stem ++ ".tmp") := by
    rw [temporary_pathOf plain member, Path.temporaryName_eq]
  have file (stem : String) :
      config.pathOf stem = Path.join config.path (config.fileName stem ++ "") := by
    rw [String.append_empty, pathOf]
  simp only [written, writtenName, List.map_cons, List.map_nil, ← file, ← beside terms_mem,
    ← beside links_mem]
  rfl

/-- The files of a store and those that are written beside them. -/
structure SideBySide (config : Config) : Prop where
  /-- All of them have their names in the directory of the store. -/
  inside : ∀ path ∈ config.writtenPaths, ∃ name, Names config.path name path
  /-- No two of them have the same path. -/
  different : config.writtenPaths.Nodup
  /-- No two of their paths lead to the same place. -/
  apart : (config.writtenPaths.map locate).Nodup
  /-- What is written beside a file is named as if the extension of the file had been replaced. -/
  beside : ∀ stem ∈ stems, temporary (config.pathOf stem) =
    Path.join config.path (temporaryName (config.fileName stem))

theorem sideBySide (plain : config.IsPlain) : config.SideBySide := by
  have apart : (config.writtenPaths.map locate).Nodup := by
    rw [writtenPaths_eq plain, List.map_map]
    -- the places have the directory in common, so they differ as the names do
    refine List.Nodup.map_on (fun parts member other other_member same => ?_) (by decide)
    simp only [Function.comp_apply, (names_written plain member).place,
      (names_written plain other_member).place] at same
    have last := List.head_eq_of_cons_eq (List.append_cancel_left same)
    exact config.writtenName_injective member other_member last
  refine ⟨fun path member => ?_, apart.of_map locate, apart, fun _ => temporary_pathOf plain⟩
  rw [writtenPaths_eq plain] at member
  obtain ⟨parts, part, rfl⟩ := List.mem_map.mp member
  exact ⟨_, names_written plain part⟩

/-- The places that saving may change. -/
def savedPlaces (config : Config) : List Location :=
  [locate (temporary config.termPath), locate config.termPath,
    locate (temporary config.linkPath), locate config.linkPath]

theorem SideBySide.log_not_saved (files : config.SideBySide) :
    locate config.logPath ∉ config.savedPlaces := by
  have apart := files.apart
  simp only [writtenPaths, List.map_cons, List.map_nil, List.nodup_cons, List.mem_cons,
    List.not_mem_nil, or_false, not_or] at apart
  simp only [savedPlaces, List.mem_cons, List.not_mem_nil, or_false, not_or]
  obtain ⟨⟨terms, beside_terms, links, beside_links⟩, _⟩ := apart
  exact ⟨beside_terms, terms, beside_links, links⟩

theorem SideBySide.indexes_not_logged (files : config.SideBySide) :
    locate config.termPath ∉ [locate config.logPath] ∧
      locate config.linkPath ∉ [locate config.logPath] := by
  have away := files.log_not_saved
  simp only [savedPlaces, List.mem_cons, List.not_mem_nil, or_false, not_or] at away
  exact ⟨fun same => away.2.1 (List.mem_singleton.mp same).symm,
    fun same => away.2.2.2 (List.mem_singleton.mp same).symm⟩

end Config

/-! ### What a call changes -/

/-- The path leads to what it led to, and what is there is what was there. -/
structure Disk.Untouched (path : String) (disk after : Disk) : Prop where
  entry : after.entry? (locate path) = disk.entry? (locate path)
  found : SameAt path disk after

theorem Disk.Untouched.of_keeps {changed : List Location} {disk after : Disk} {path : String}
    (kept : Keeps changed disk after) (away : locate path ∉ changed) :
    Disk.Untouched path disk after where
  entry := kept.elsewhere _ away
  found _ := kept.find_eq_ok fun _ resolved => by
    rw [(Disk.resolve_eq_ok.mp resolved).2.2]
    exact away

/-- Replacing a file changes only its place and that beside it. -/
theorem IndexFile.keeps_replaceFile {path : String} {fields : List Field} {disk after : Disk}
    {result : Except StoreError Unit}
    (replaced : replaceFile path fields disk = (result, after)) :
    Keeps [locate (temporary path), locate path] disk after := by
  rcases replaceFile_spec replaced with ⟨_, kept⟩ | ⟨_, _, kept, _⟩
  · exact kept.mono (List.nil_subset _)
  · exact kept

/-- An append changes only the log. -/
theorem ContentLog.keeps_append {log log' : ContentLog} {content : Bytes} {disk after : Disk}
    {result : Except StoreError Offset}
    (appended : log.append content disk = (result, log', after)) :
    Keeps [locate log.path] disk after ∧ log'.path = log.path := by
  unfold append at appended
  split at appended
  · next refused =>
    cases appended
    exact ⟨Disk.keeps_openFile refused, rfl⟩
  · next place middle opened =>
    have kept := Disk.keeps_openFile opened
    obtain ⟨rfl, _, _, _, bytes, holds, _⟩ := Disk.openFile_ok opened
    dsimp only at appended
    split at appended
    · next written =>
      cases appended
      exact ⟨kept.trans (writeRecord_spec written holds).1, rfl⟩
    · next written =>
      cases appended
      exact ⟨kept.trans (writeRecord_spec written holds).1, rfl⟩

namespace Store

variable {store after : Store} {disk disk' : Disk}

theorem keeps_save {result : Except StoreError Unit}
    (written : store.save disk = (result, disk')) :
    Keeps store.config.savedPlaces disk disk' := by
  unfold save indexFiles IndexFiles.save at written
  dsimp only at written
  split at written
  · next failed =>
    cases written
    exact (IndexFile.keeps_replaceFile failed).mono (by simp [Config.savedPlaces])
  · next replaced =>
    have terms := IndexFile.keeps_replaceFile replaced
    have links := IndexFile.keeps_replaceFile written
    exact (terms.mono (by simp [Config.savedPlaces])).trans
      (links.mono (by simp [Config.savedPlaces]))

theorem keeps_link {id : LinkId} {string : String} {result : Except StoreError Offset}
    (linked : store.link id string disk = (result, after, disk')) :
    Keeps [locate store.log.path] disk disk' ∧ after.config = store.config ∧
      after.log.path = store.log.path := by
  -- a link writes only if it appends
  cases attempt_of_link linked with
  | reused => exact ⟨.refl .., rfl, rfl⟩
  | unread => exact ⟨.refl .., rfl, rfl⟩
  | broken append =>
    obtain ⟨kept, path⟩ := ContentLog.keeps_append append
    exact ⟨kept, rfl, path⟩
  | appended append =>
    obtain ⟨kept, path⟩ := ContentLog.keeps_append append
    exact ⟨kept, rfl, path⟩

/-! ### Every state of a store -/

/-- Every store that calls can lead to, whatever has become of them and whatever else has happened
to the disk in between. -/
inductive Arises : Store → Prop
  | openedEmpty {config : Config} {disk disk' : Disk} {store : Store}
      (opened : openEmpty config disk = (.ok store, disk')) : Arises store
  | openedSaved {config : Config} {disk disk' : Disk} {store : Store}
      (opened : openSaved config disk = (.ok store, disk')) : Arises store
  | loaded {store after : Store} {disk : Disk} {result : Except StoreError Unit}
      (earlier : Arises store) (loaded : store.load disk = (result, after)) : Arises after
  | linked {store after : Store} {id : LinkId} {string : String} {disk disk' : Disk}
      {result : Except StoreError Offset} (earlier : Arises store)
      (linked : store.link id string disk = (result, after, disk')) : Arises after

theorem path_of_load {result : Except StoreError Unit}
    (loaded : store.load disk = (result, after)) :
    after.config = store.config ∧ after.log.path = store.log.path := by
  have refreshed {log : ContentLog} (read : store.log.refresh disk = .ok log) :
      log.path = store.log.path := by
    unfold ContentLog.refresh at read
    split at read
    · cases read
    · cases read
      rfl
  unfold load at loaded
  split at loaded
  · cases loaded
    exact ⟨rfl, rfl⟩
  · split at loaded
    · cases loaded
      exact ⟨rfl, rfl⟩
    · next log read =>
      split at loaded
      · cases loaded
        exact ⟨rfl, refreshed read⟩
      · cases loaded
        exact ⟨rfl, refreshed read⟩

/-- The log of a store stays where its configuration has it. -/
theorem Arises.path (arises : store.Arises) : store.log.path = store.config.logPath := by
  have fresh {config : Config} {disk disk' : Disk} {store : Store}
      (opened : openEmpty config disk = (.ok store, disk')) :
      store.log.path = store.config.logPath := by
    obtain ⟨_, _, _, log, _, rfl⟩ := openEmpty_ok opened
    rfl
  -- no call changes the configuration or the path of the log
  induction arises with
  | openedEmpty opened => exact fresh opened
  | openedSaved opened =>
    unfold openSaved at opened
    split at opened
    · cases opened
    · next empty =>
      split at opened
      · split at opened
        · cases opened
        · next loaded =>
          cases opened
          obtain ⟨config, path⟩ := path_of_load loaded
          rw [path, config, fresh empty]
      · cases opened
        exact fresh empty
  | loaded _ loaded ih =>
    obtain ⟨config, path⟩ := path_of_load loaded
    rw [path, config, ih]
  | linked _ linked ih =>
    obtain ⟨_, config, path⟩ := keeps_link linked
    rw [path, config, ih]

/-- What the calls on a store write, whatever comes of them. -/
structure Separates (store : Store) (disk : Disk) : Prop where
  /-- Saving writes index files only. -/
  saves : Keeps store.config.savedPlaces disk (store.save disk).2
  log : Disk.Untouched store.config.logPath disk (store.save disk).2
  /-- Linking writes the log only. -/
  links : ∀ id string, Keeps [locate store.config.logPath] disk (store.link id string disk).2.2
  termFile : ∀ id string,
    Disk.Untouched store.config.termPath disk (store.link id string disk).2.2
  linkFile : ∀ id string,
    Disk.Untouched store.config.linkPath disk (store.link id string disk).2.2

/-- A plain extension keeps the files of a store side by side, and no call on a store with such a
configuration writes a file that is not its own. -/
theorem files_apart (config : Config) (plain : config.IsPlain) :
    config.SideBySide ∧
      ∀ store : Store, store.Arises → store.config = config → ∀ disk, store.Separates disk := by
  have files := Config.sideBySide plain
  refine ⟨files, ?_⟩
  rintro store arises rfl disk
  have saves : Keeps store.config.savedPlaces disk (store.save disk).2 := keeps_save rfl
  have links (id : LinkId) (string : String) :
      Keeps [locate store.config.logPath] disk (store.link id string disk).2.2 := by
    rw [← arises.path]
    exact (keeps_link rfl).1
  obtain ⟨terms, index⟩ := files.indexes_not_logged
  exact {
    saves := saves
    log := .of_keeps saves files.log_not_saved
    links := links
    termFile := fun id string => .of_keeps (links id string) terms
    linkFile := fun id string => .of_keeps (links id string) index }

/-- A configuration with an extension that has a dot of its own. -/
def dottedConfig : Config := ⟨".", 8, "tmp.", Tokenizer.standard⟩

/-- A save that breaks off while the term index is written leaves the log alone. -/
theorem files_apart_of_dotted :
    dottedConfig.IsPlain ∧
      dottedConfig.writtenPaths =
        ["./strings.tmp.", "./term_string_offsets.tmp.", "./term_string_offsets.tmp..tmp",
          "./string_offsets_link_hashes.tmp.", "./string_offsets_link_hashes.tmp..tmp"] ∧
      dottedConfig.SideBySide ∧
      ∃ store disk, openEmpty dottedConfig Disk.empty = (.ok store, disk) ∧
        (store.save { disk with faults := [none, some ⟨.noSpace, 3⟩] }).1 =
          .error (.write (.flush "./term_string_offsets.tmp..tmp") .noSpace) ∧
        store.Separates { disk with faults := [none, some ⟨.noSpace, 3⟩] } := by
  have plain : dottedConfig.IsPlain := by
    unfold Config.IsPlain
    decide
  have opened : openEmpty dottedConfig Disk.empty =
      (.ok (unlinked dottedConfig []), (openEmpty dottedConfig Disk.empty).2) :=
    Prod.ext rfl rfl
  obtain ⟨files, separates⟩ := files_apart dottedConfig plain
  refine ⟨plain, by decide +kernel, files, _, _, opened, by decide +kernel, ?_⟩
  exact separates _ (.openedEmpty opened) rfl _

end Store

end Concordance
