import Concordance.Proofs.Store.Answers
import Concordance.Proofs.Store.Replacing

/-!
# What opening leaves behind

Opening a store makes directories and a log where there were none, and this stays if it fails later
on. Whatever was there before is there afterwards. So a store that is already open does not notice
when another one is opened, nor when it cannot be, and it finds its index files as they were, unless
something has been made where one of them is missing.
-/
namespace Concordance

namespace Disk

/-- All that was there is still there. -/
structure Extends (before after : Disk) : Prop where
  kept : ∀ place entry, before.entry? place = some entry → after.entry? place = some entry

namespace Extends

variable {before after : Disk} {path : String}

theorem of_entries (same : ∀ place, after.entry? place = before.entry? place) :
    Extends before after where
  kept place entry found := by rw [same, found]

theorem trans {last : Disk} (first : Extends before after) (second : Extends after last) :
    Extends before last where
  kept place entry found := second.kept place entry (first.kept place entry found)

theorem refl (disk : Disk) : Extends disk disk :=
  of_entries fun _ => rfl

theorem put {disk : Disk} {place : Location} (missing : disk.entry? place = none) (entry : Entry) :
    Extends disk (disk.put place entry) where
  kept other old found := by
    have file : disk.entry? place ≠ some .directory := by simp [missing]
    have elsewhere : other ≠ place := by
      rintro rfl
      simp [missing] at found
    rw [entry?_put disk (ne_root file), if_neg elsewhere, found]

/-- A way through directories is still one. -/
theorem foldlM_eq_ok (grown : Extends before after) {place last : Location} {names : List String}
    (walked : names.foldlM before.enter place = .ok last) :
    names.foldlM after.enter place = .ok last := by
  induction names generalizing place with
  | nil => exact walked
  | cons name rest ih =>
    obtain ⟨next, entered, walks⟩ := foldlM_cons_eq_ok.mp walked
    obtain ⟨size, rfl, found⟩ := enter_eq_ok.mp entered
    exact foldlM_cons_eq_ok.mpr
      ⟨_, enter_eq_ok.mpr ⟨size, rfl, grown.kept _ _ found⟩, ih walks⟩

theorem resolve_eq_ok (grown : Extends before after) {place : Location}
    (resolved : before.resolve path = .ok place) : after.resolve path = .ok place := by
  obtain ⟨walked, short, rfl⟩ := Disk.resolve_eq_ok.mp resolved
  obtain ⟨clean, filled, fits, last, entered⟩ := walk_eq_ok.mp walked
  exact Disk.resolve_eq_ok.mpr
    ⟨walk_eq_ok.mpr ⟨clean, filled, fits, last, grown.foldlM_eq_ok entered⟩, short, rfl⟩

theorem find_eq_ok (grown : Extends before after) {entry : Entry}
    (hit : before.find path = .ok entry) : after.find path = .ok entry := by
  obtain ⟨resolved, found, plain⟩ := Disk.find_eq_ok.mp hit
  exact Disk.find_eq_ok.mpr ⟨grown.resolve_eq_ok resolved, grown.kept _ _ found, plain⟩

theorem contains (grown : Extends before after) {bytes : Bytes}
    (contains : before.Contains path bytes) : after.Contains path bytes := by
  obtain ⟨entry, found, contents⟩ := contains
  exact ⟨entry, grown.find_eq_ok found, contents⟩

/-- A path leads to what it led to, as long as it leads nowhere if it led nowhere. -/
theorem sameAt (grown : Extends before after)
    (same : after.pathExists path = before.pathExists path) : SameAt path before after := by
  intro entry
  cases there : before.pathExists path with
  | false =>
    rw [there] at same
    exact iff_of_false (pathExists_eq_false_iff.mp same entry)
      (pathExists_eq_false_iff.mp there entry)
  | true =>
    unfold pathExists at there
    split at there
    · next old found =>
      rw [found, grown.find_eq_ok found]
    · simp at there

/-- A log is read as before. -/
theorem reader_eq {log : ContentLog} {bytes : Bytes} (grown : Extends before after)
    (contains : before.Contains log.path bytes) : log.reader after = log.reader before := by
  have size := sizeAt_of_holds (contains_iff.mp contains).2.2
  have size' := sizeAt_of_holds (contains_iff.mp (grown.contains contains)).2.2
  obtain ⟨entry, found, _⟩ := contains
  rw [ContentLog.reader, ContentLog.reader, found, grown.find_eq_ok found, size, size']

end Extends

/-! ### Requests that only add -/

variable {disk after : Disk} {path : String}

/-- Directories are made where nothing is. -/
theorem extends_makeDirectoriesFrom {result : Except Cause Unit} {place : Location} {made : Bool}
    {names : List String} (run : disk.makeDirectoriesFrom place made names = (result, after)) :
    Extends disk after := by
  induction names generalizing disk place made with
  | nil =>
    cases run
    exact .refl _
  | cons name rest ih =>
    unfold makeDirectoriesFrom at run
    split at run
    · cases run
      exact .refl _
    · dsimp only at run
      split at run
      · exact ih run
      · split at run
        · cases run
          exact .refl _
        · cases run
          exact .refl _
      · next missing =>
        split at run
        · cases run
          exact .refl _
        · exact (Extends.put missing .directory).trans (ih run)

theorem extends_makeDirectories {result : Except Cause Unit}
    (run : disk.makeDirectories path = (result, after)) : Extends disk after := by
  unfold makeDirectories at run
  split at run
  · cases run
    exact .refl _
  · split at run
    · cases run
      exact .refl _
    · exact extends_makeDirectoriesFrom run

/-- A file that is opened to be appended to is made where nothing is. -/
theorem extends_openFile {mode : OpenMode} {result : Except Cause Location}
    (keeps : mode ≠ .createEmpty) (run : disk.openFile path mode = (result, after)) :
    Extends disk after := by
  cases openFile_cases run with
  | refused => exact .of_entries fun _ => rfl
  | taken => exact .of_entries fun _ => rfl
  | @emptied number made _ _ _ reason =>
    rcases reason with empties | ⟨_, missing⟩
    · exact absurd empties keeps
    · have missing : disk.afterRequest.entry? (Path.locate path) = none := missing
      have put := Extends.put missing (.file number .empty)
      exact ⟨put.kept⟩

end Disk

theorem ContentLog.extends_openAt {disk after : Disk} {path : String}
    {result : Except StoreError ContentLog} (run : openAt path disk = (result, after)) :
    Disk.Extends disk after := by
  unfold openAt at run
  split at run
  · next opened =>
    cases run
    exact Disk.extends_openFile (by simp) opened
  · next opened =>
    cases run
    exact Disk.extends_openFile (by simp) opened

variable {config : Config} {disk after : Disk} {log : Bytes} {archive : Archive} {store : Store}

namespace Store

theorem extends_ensureRoot {path : String} {result : Except StoreError Unit}
    (run : ensureRoot path disk = (result, after)) : Disk.Extends disk after := by
  unfold ensureRoot at run
  split at run
  · cases run
    exact .refl _
  · split at run
    · cases run
      exact .refl _
    · split at run
      · next made =>
        cases run
        exact Disk.extends_makeDirectories made
      · next made =>
        cases run
        exact Disk.extends_makeDirectories made

theorem extends_openEmpty {result : Except StoreError Store}
    (run : openEmpty config disk = (result, after)) : Disk.Extends disk after := by
  unfold openEmpty at run
  split at run
  · cases run
    exact .refl _
  · split at run
    · next ensured =>
      cases run
      exact extends_ensureRoot ensured
    · next ensured =>
      split at run
      · next opened =>
        cases run
        exact (extends_ensureRoot ensured).trans (ContentLog.extends_openAt opened)
      · next opened =>
        cases run
        exact (extends_ensureRoot ensured).trans (ContentLog.extends_openAt opened)

/-- Opening a store, with any configuration and whatever comes of it, removes and changes
nothing. -/
theorem extends_openSaved {result : Except StoreError Store}
    (run : openSaved config disk = (result, after)) : Disk.Extends disk after := by
  -- the index files are only read, so all is done when the log has been opened
  unfold openSaved at run
  split at run
  · next opened =>
    cases run
    exact extends_openEmpty opened
  · next opened =>
    split at run
    · split at run
      · cases run
        exact extends_openEmpty opened
      · cases run
        exact extends_openEmpty opened
    · cases run
      exact extends_openEmpty opened

/-- A store whose log is read as before answers as before. -/
theorem sameAnswers_of_reader (same : store.log.reader after = store.log.reader disk) :
    SameAnswers store disk store after := by
  have strings (offset : Offset) :
      store.log.readString after offset = store.log.readString disk offset := by
    rw [ContentLog.readString, ContentLog.readString, same]
  have verified (query : String) (how : Matching) :
      store.verifiedCandidates after query how = store.verifiedCandidates disk query how := by
    rw [verifiedCandidates, verifiedCandidates, same]
  exact {
    offsetOf? := fun _ => rfl
    ownersOf := fun _ => rfl
    stringFor := fun id => by
      rw [stringFor, stringFor, getString, getString]
      simp only [strings]
    offsetsFor := fun _ => rfl
    offsetsForStart := fun _ => rfl
    identifiersFor := fun query how => by rw [identifiersFor, identifiersFor, verified]
    stringsFor := fun query => by rw [stringsFor, stringsFor, verified]
    identifiersForTerms := fun _ _ => rfl
    stringsForTerms := fun terms mode => by rw [stringsForTerms, stringsForTerms, same] }

/-- A store that is open answers as before when any other one has been opened, or has not. -/
theorem sameAnswers_of_openSaved {other : Config} {result : Except StoreError Store}
    (coherent : Coherent config disk log archive store)
    (run : openSaved other disk = (result, after)) : SameAnswers store disk store after := by
  have contains := coherent.files.contains
  rw [← coherent.path] at contains
  exact sameAnswers_of_reader ((extends_openSaved run).reader_eq contains)

end Store

/-! ### The files of another store -/

/-- Nothing has been made where an index file is missing, and nothing has gone where one is. -/
structure Undisturbed (config : Config) (before after : Disk) : Prop where
  terms : after.pathExists config.termPath = before.pathExists config.termPath
  links : after.pathExists config.linkPath = before.pathExists config.linkPath

/-- The files of a store are still its files. -/
theorem Files.extend (files : Files config disk log) (grown : Disk.Extends disk after)
    (undisturbed : Undisturbed config disk after) : Files config after log where
  valid := files.valid
  rooted := files.rooted
  named := files.named
  contains := grown.contains files.contains
  bounded := files.bounded
  apart stem member indexes place resolved := by
    have same : after.pathExists (config.pathOf stem) = disk.pathExists (config.pathOf stem) := by
      simp only [Config.stems, List.mem_cons, List.not_mem_nil, or_false] at member
      rcases member with rfl | rfl | rfl
      · exact absurd rfl indexes
      · exact undisturbed.terms
      · exact undisturbed.links
    cases there : after.pathExists (config.pathOf stem) with
    | false =>
      exact Store.ne_of_missing (grown.contains files.contains) member there resolved
    | true =>
      -- what is found now was found before, at the same place
      rw [same] at there
      unfold Disk.pathExists at there
      split at there
      · next entry found =>
        have before := (Disk.find_eq_ok.mp found).1
        rw [(Disk.resolve_eq_ok.mp resolved).2.2]
        exact files.apart stem member indexes _ before
      · simp at there

end Concordance
