import Concordance.Proofs.Store.Behind
import Concordance.Proofs.Store.Sharing

/-!
# Links that succeed

Linking a string that is archived never fails. Any other string has to be appended, and what becomes
of that is up to the disk: an append is granted as long as the disk fails for no reason of its own,
the log is not the device that takes no byte, and the record does not lead past the greatest size.
So if one log has taken a record, a log that is no longer takes it as well.
-/
namespace Concordance

open Disk (Keeps sizeLimit)

namespace Disk

variable {disk after : Disk} {place : Location} {path : String} {bytes data : Bytes}
  {position : Nat}

/-! ### Requests -/

/-- Opening a file for appending changes no file. -/
theorem disk_of_openFile_append {result : Except Cause Location}
    (opened : disk.openFile path .append = (result, after)) : after = disk.afterRequest := by
  cases openFile_cases opened with
  | refused => rfl
  | taken => rfl
  | emptied _ _ _ reason => simp at reason

theorem find_full_iff (contains : disk.Contains path bytes) :
    disk.find path = .ok .full ↔ disk.entry? (Path.locate path) = some .full := by
  obtain ⟨resolved, unslashed, _⟩ := contains_iff.mp contains
  simp [find_eq_ok, resolved, unslashed]

/-- Writing makes no device of a file and no file of a device. -/
theorem extend_full_iff {result : Except Cause Unit}
    (extended : disk.extend place position data = (result, after))
    (holds : disk.Holds place bytes) :
    after.entry? place = some .full ↔ disk.entry? place = some .full := by
  by_cases empty : data = []
  · rw [extend, if_pos empty] at extended
    cases extended
    exact Iff.rfl
  · obtain ⟨entry, found, contents⟩ := id holds
    cases entry with
    | directory => simp [Entry.contents] at contents
    | full =>
      obtain ⟨_, rfl⟩ := extend_full empty extended found
      exact Iff.rfl
    | file number body =>
      obtain ⟨more, _, _, _, rfl | ⟨_, rfl⟩⟩ := extend_file empty extended found
      · have put := entry?_put disk.afterRequest (ne_root holds.file)
          (.file number (body.append more)) place
        rw [put, if_pos rfl, found]
        simp
      · exact Iff.rfl

/-- A file for which the data is not too long takes it. -/
theorem extend_granted (holds : disk.Holds place bytes) (file : disk.entry? place ≠ some .full)
    (granted : disk.faults = []) (before : position ≤ bytes.length)
    (room : bytes.length + data.length ≤ sizeLimit) :
    ∃ after, disk.extend place position data = (.ok (), after) ∧ after.faults = [] := by
  by_cases empty : data = []
  · exact ⟨disk, by rw [extend, if_pos empty], granted⟩
  · obtain ⟨entry, found, contents⟩ := holds
    cases entry with
    | directory => simp [Entry.contents] at contents
    | full => exact absurd found file
    | file number body =>
      obtain rfl : body.toList = bytes := Except.ok.inj contents
      rw [FileBody.length_toList] at before room
      have fate : disk.nextFault = none := by rw [nextFault, granted]; rfl
      have later : disk.afterRequest.faults = [] := by rw [afterRequest, granted]; rfl
      refine ⟨disk.afterRequest.put place (.file number (body.append data)), ?_, later⟩
      rw [extend, if_neg empty, fate, found]
      dsimp only
      rw [if_neg (by omega), if_pos (by omega)]

end Disk

namespace ContentLog

variable {log log' : ContentLog} {disk after : Disk} {place : Location} {bytes content : Bytes}

theorem writeRecord_full_iff {result : Except StoreError Unit}
    (written : writeRecord disk place content = (result, after))
    (holds : disk.Holds place bytes) :
    after.entry? place = some .full ↔ disk.entry? place = some .full := by
  unfold writeRecord at written
  split at written
  · next failed =>
    cases written
    exact Disk.extend_full_iff failed holds
  · next sized =>
    obtain ⟨_, more, _, _, now, _⟩ := Disk.extend_spec sized holds
    have first := Disk.extend_full_iff sized holds
    split at written
    · next failed =>
      cases written
      exact (Disk.extend_full_iff failed now).trans first
    · next filled =>
      cases written
      exact (Disk.extend_full_iff filled now).trans first

theorem writeRecord_granted (holds : disk.Holds place bytes)
    (file : disk.entry? place ≠ some .full) (granted : disk.faults = [])
    (room : bytes.length + (logRecord content).length ≤ sizeLimit) :
    ∃ after, writeRecord disk place content = (.ok (), after) := by
  rw [length_logRecord] at room
  have size := Word.length_toBytes (UInt64.ofNat content.length)
  have header : bytes.length + (Word.toBytes (UInt64.ofNat content.length)).length ≤ sizeLimit := by
    omega
  obtain ⟨sized_disk, sized, granted'⟩ :=
    Disk.extend_granted holds file granted (Nat.zero_le _) header
  obtain ⟨_, more, _, complete, now, _⟩ := Disk.extend_spec sized holds
  obtain rfl := complete.mp rfl
  have file' := mt (Disk.extend_full_iff sized holds).mp file
  have rest : (bytes ++ Word.toBytes (UInt64.ofNat content.length)).length + content.length ≤
      sizeLimit := by
    rw [List.length_append]
    omega
  obtain ⟨filled_disk, filled, _⟩ :=
    Disk.extend_granted now file' granted' (Nat.le_of_eq (Disk.sizeAt_of_holds now)) rest
  refine ⟨filled_disk, ?_⟩
  unfold writeRecord
  rw [sized]
  dsimp only
  rw [filled]

/-- The device takes no record. -/
theorem not_full_of_writeRecord (written : writeRecord disk place content = (.ok (), after)) :
    disk.entry? place ≠ some .full := by
  intro full
  unfold writeRecord at written
  have header : Word.toBytes (UInt64.ofNat content.length) ≠ [] :=
    List.ne_nil_of_length_pos (by rw [Word.length_toBytes]; exact Nat.succ_pos _)
  split at written
  · simp at written
  · next sized => exact (Disk.extend_full header sized full).1 rfl

/-- An append is refused when the log is opened, and nothing has been written, or there is a log and
the append comes to what writing the record comes to. -/
theorem append_cases {result : Except StoreError Offset}
    (appended : log.append content disk = (result, log', after)) :
    (log' = log ∧ after = disk.afterRequest ∧
      ∃ cause, result = .error (.write (.openFile log.path) cause)) ∨
    (∃ bytes, disk.Contains log.path bytes) ∧
      writeRecord disk.afterRequest (Path.locate log.path) content =
        (result.map fun _ => (), after) := by
  unfold append at appended
  split at appended
  · next refused =>
    cases appended
    exact .inl ⟨rfl, Disk.disk_of_openFile_append refused, _, rfl⟩
  · next place opened_disk opened =>
    obtain rfl := Disk.disk_of_openFile_append opened
    obtain ⟨rfl, resolved, unslashed, _, bytes, _, state⟩ := Disk.openFile_ok opened
    have held : disk.Holds (Path.locate log.path) bytes := by simpa using state
    refine .inr ⟨⟨bytes, Disk.contains_iff.mpr ⟨resolved, unslashed, held⟩⟩, ?_⟩
    dsimp only at appended
    split at appended
    · next written =>
      cases appended
      exact written
    · next written =>
      cases appended
      exact written

/-- An append makes no device of the log and no log of a device. -/
theorem append_full_iff {result : Except StoreError Offset}
    (appended : log.append content disk = (result, log', after))
    (contains : disk.Contains log.path bytes) :
    after.entry? (Path.locate log.path) = some .full ↔
      disk.entry? (Path.locate log.path) = some .full := by
  rcases append_cases appended with ⟨_, rfl, _⟩ | ⟨_, written⟩
  · exact Iff.rfl
  · have holds : disk.afterRequest.Holds (Path.locate log.path) bytes :=
      (Disk.contains_iff.mp contains).2.2
    have same := writeRecord_full_iff written holds
    exact same

/-- A log that has taken a record is no device. -/
theorem not_full_of_append {offset : Offset}
    (appended : log.append content disk = (.ok offset, log', after)) :
    disk.entry? (Path.locate log.path) ≠ some .full := by
  rcases append_cases appended with ⟨_, _, _, failed⟩ | ⟨_, written⟩
  · cases failed
  · have file := not_full_of_writeRecord written
    exact file

theorem append_granted (contains : disk.Contains log.path bytes)
    (file : disk.entry? (Path.locate log.path) ≠ some .full) (granted : disk.faults = [])
    (room : bytes.length + (logRecord content).length ≤ sizeLimit) :
    ∃ offset log' after, log.append content disk = (.ok offset, log', after) := by
  have fate : disk.nextFault = none := by rw [Disk.nextFault, granted]; rfl
  have later : disk.afterRequest.faults = [] := by rw [Disk.afterRequest, granted]; rfl
  have opened : disk.openFile log.path .append =
      (.ok (Path.locate log.path), disk.afterRequest) :=
    Disk.openFile_of_contains (by simp) contains fate
  have holds : disk.afterRequest.Holds (Path.locate log.path) bytes :=
    (Disk.contains_iff.mp contains).2.2
  obtain ⟨after, written⟩ := writeRecord_granted holds file later room
  unfold append
  rw [opened]
  dsimp only
  rw [written]
  exact ⟨_, _, _, rfl⟩

end ContentLog

/-! ### Links -/

/-- The log on `disk` is no longer than the log on `other`, and it is no device unless that is one.
So it has room for whatever the other one has room for. -/
structure Roomier (config : Config) (disk other : Disk) : Prop where
  lengths : ∀ log longer, disk.Contains config.logPath log → other.Contains config.logPath longer →
    log.length ≤ longer.length
  file : disk.entry? (Path.locate config.logPath) = some .full →
    other.entry? (Path.locate config.logPath) = some .full

namespace Behind

variable {config : Config} {disk disk' : Disk} {log : Bytes} {archive : Archive}
  {store store' : Store} {id : LinkId} {string : String} (behind : Behind config log archive store)
  (files : Files config disk log)

include behind files

theorem readsFreely_iff :
    store.ReadsFreely disk ↔ ∀ position ≤ log.length, LogReader.isFar position = false := by
  have freely := Store.readsFreely_iff (behind.coherent files)
  exact freely

theorem full_iff {result : Except StoreError Offset}
    (linked : store.link id string disk = (result, store', disk')) :
    disk'.entry? (Path.locate config.logPath) = some .full ↔
      disk.entry? (Path.locate config.logPath) = some .full := by
  have contains := files.contains
  rw [← behind.path] at contains ⊢
  cases behind.link_cases files linked with
  | reused => exact Iff.rfl
  | refused => exact Iff.rfl
  | broken append => exact ContentLog.append_full_iff append contains
  | appended _ append => exact ContentLog.append_full_iff append contains

/-- An archived string is linked without any request. -/
theorem link_of_archived (freely : store.ReadsFreely disk) (archived : string ∈ archive.map (·.2)) :
    ∃ offset store', store.link id string disk = (.ok offset, store', disk) := by
  obtain ⟨_, complete, total⟩ := Store.existing_spec (behind.coherent files).searchable string
  obtain ⟨⟨_, _⟩, member, rfl⟩ := List.mem_map.mp archived
  obtain ⟨_, _, before, _, _, indexed, _⟩ := behind
  have searches := indexed.searched _ member
  obtain ⟨found, search⟩ := total freely
  cases found with
  | none => exact absurd archived (complete search searches)
  | some offset =>
    have hit : store.existing disk (store.termsOf _) _ = .ok (some offset) := search
    refine ⟨offset, { store with links := (store.links.setReference id offset).1 }, ?_⟩
    unfold Store.link
    dsimp only
    rw [hit]

/-- A string that is not archived is not linked if the next request fails. -/
theorem link_of_fault (new : string ∉ archive.map (·.2)) {fault : Fault}
    (fails : disk.nextFault = some fault) :
    ∃ error store' disk', store.link id string disk = (.error error, store', disk') ∧
      disk'.Contains config.logPath log := by
  obtain ⟨sound, _, _⟩ := Store.existing_spec (behind.coherent files).searchable string
  have refused : store.log.append (Text.encode string) disk =
      (.error (.write (.openFile store.log.path) fault.cause), store.log, disk.afterRequest) := by
    unfold ContentLog.append Disk.openFile
    rw [fails]
  have later : disk.afterRequest.Contains config.logPath log := files.contains
  unfold Store.link
  dsimp only
  cases search : store.existing disk (store.termsOf string) string with
  | error error => exact ⟨_, _, _, rfl, files.contains⟩
  | ok found =>
    cases found with
    | some offset => exact absurd (List.mem_map_of_mem (sound offset search).2) new
    | none =>
      rw [refused]
      exact ⟨_, _, _, rfl, later⟩

/-- A string is linked if the log has room for its record. -/
theorem link_of_room (freely : store.ReadsFreely disk)
    (file : disk.entry? (Path.locate config.logPath) ≠ some .full) (granted : disk.faults = [])
    (room : log.length + (logRecord (Text.encode string)).length ≤ sizeLimit) :
    ∃ offset store' disk', store.link id string disk = (.ok offset, store', disk') := by
  obtain ⟨_, _, total⟩ := Store.existing_spec (behind.coherent files).searchable string
  obtain ⟨found, search⟩ := total freely
  have contains := files.contains
  rw [← behind.path] at contains file
  obtain ⟨offset, log', after, appended⟩ :=
    ContentLog.append_granted contains file granted room
  have searched : store.existing disk (store.termsOf string) string = .ok found := search
  unfold Store.link
  dsimp only
  rw [searched]
  cases found with
  | some offset => exact ⟨_, _, _, rfl⟩
  | none =>
    rw [appended]
    exact ⟨_, _, _, rfl⟩

/-- The record of a string that has been linked is there, and the log has grown by it, if at all. -/
theorem log_of_link {offset : Offset}
    (linked : store.link id string disk = (.ok offset, store', disk')) :
    string ∈ archive.map (·.2) ∧ disk' = disk ∨
      Files config disk' (log ++ logRecord (Text.encode string)) ∧
        disk.entry? (Path.locate config.logPath) ≠ some .full := by
  cases behind.link_cases files linked with
  | reused archived => exact .inl ⟨List.mem_map_of_mem archived, rfl⟩
  | appended _ append =>
    obtain ⟨more, files', _, _, _, whole⟩ := behind.appended files append
    obtain ⟨_, rfl, _⟩ := whole _ rfl
    have file := ContentLog.not_full_of_append append
    rw [behind.path] at file
    exact .inr ⟨files', file⟩

end Behind

namespace Roomier

theorem refl (config : Config) (disk : Disk) : Roomier config disk disk where
  lengths log longer has has' := by rw [has.unique has']
  file := id

theorem trans {config : Config} {disk other last : Disk} {log : Bytes}
    (first : Roomier config disk other) (contains : other.Contains config.logPath log)
    (second : Roomier config other last) : Roomier config disk last where
  lengths bytes longer has has' :=
    Nat.le_trans (first.lengths bytes log has contains) (second.lengths log longer contains has')
  file full := second.file (first.file full)

theorem withFaults {config : Config} {disk other : Disk} (roomier : Roomier config disk other)
    (faults : List (Option Fault)) : Roomier config { disk with faults } other :=
  ⟨roomier.lengths, roomier.file⟩

section Twins

variable {config : Config} {disk disk' twinDisk twinDisk' : Disk} {log short : Bytes}
  {archive twinArchive : Archive} {store store' twin twin' : Store} {id : LinkId} {string : String}
  {result : Except StoreError Offset} (roomier : Roomier config twinDisk disk)
  (behind : Behind config log archive store) (files : Files config disk log)
  (behind' : Behind config short twinArchive twin) (files' : Files config twinDisk short)

include roomier behind files behind' files'

/-- A log that is no longer can be read freely as well. -/
theorem readsFreely (freely : store.ReadsFreely disk) : twin.ReadsFreely twinDisk := by
  have shorter := roomier.lengths _ _ files'.contains files.contains
  rw [behind.readsFreely_iff files] at freely
  rw [behind'.readsFreely_iff files']
  intro position inside
  exact freely position (Nat.le_trans inside shorter)

variable (linked : store.link id string disk = (result, store', disk'))

include linked

/-- Linking makes no device of a log, so the lengths of the logs decide. -/
theorem of_links {again : Except StoreError Offset} {shorter longer : Bytes}
    (linked' : twin.link id string twinDisk = (again, twin', twinDisk'))
    (contains' : twinDisk'.Contains config.logPath shorter)
    (contains : disk'.Contains config.logPath longer) (less : shorter.length ≤ longer.length) :
    Roomier config twinDisk' disk' where
  lengths bytes others has has' := by
    rw [has.unique contains', has'.unique contains]
    exact less
  file full := by
    rw [behind.full_iff files linked]
    rw [behind'.full_iff files' linked'] at full
    exact roomier.file full

variable (same : ∀ string, string ∈ twinArchive.map (·.2) ↔ string ∈ archive.map (·.2))
  (freely : store.ReadsFreely disk)

include same freely

/-- What a store links, another one links as well if it has archived the same strings, its log has
room for what the log of the first one has room for, and its disk grants all requests. -/
theorem link_ok (ok : result.isOk = true) (granted : twinDisk.faults = []) :
    ∃ offset twin' twinDisk', twin.link id string twinDisk = (.ok offset, twin', twinDisk') ∧
      Roomier config twinDisk' disk' := by
  have shorter := roomier.lengths _ _ files'.contains files.contains
  have freely' := roomier.readsFreely behind files behind' files' freely
  cases result with
  | error error => cases ok
  | ok offset =>
    rcases behind.log_of_link files linked with ⟨archived, rfl⟩ | ⟨grown, file⟩
    · obtain ⟨offset', twin', linked'⟩ :=
        behind'.link_of_archived files' freely' ((same string).mpr archived)
      exact ⟨offset', twin', twinDisk, linked', roomier⟩
    · -- where there has been room for the record, there is room for it once more
      have longer := Nat.add_le_add_right shorter (logRecord (Text.encode string)).length
      have bounded := grown.bounded
      rw [List.length_append] at bounded
      obtain ⟨offset', twin', twinDisk', linked'⟩ := behind'.link_of_room files' freely'
        (mt roomier.file file) granted (Nat.le_trans longer bounded)
      refine ⟨offset', twin', twinDisk', linked', ?_⟩
      rcases behind'.log_of_link files' linked' with ⟨_, rfl⟩ | ⟨grown', _⟩
      · refine roomier.of_links behind files behind' files' linked linked' files'.contains
          grown.contains ?_
        rw [List.length_append]
        exact Nat.le_trans shorter (Nat.le_add_right ..)
      · refine roomier.of_links behind files behind' files' linked linked' grown'.contains
          grown.contains ?_
        rw [List.length_append, List.length_append]
        exact longer

/-- If the first store has failed, so can the other one. -/
theorem link_error (failed : result.isOk = false) {fault : Fault}
    (fails : twinDisk.nextFault = some fault) :
    ∃ error twin' twinDisk', twin.link id string twinDisk = (.error error, twin', twinDisk') ∧
      Roomier config twinDisk' disk' := by
  have shorter := roomier.lengths _ _ files'.contains files.contains
  have new : string ∉ archive.map (·.2) := by
    intro archived
    obtain ⟨_, _, succeeded⟩ := behind.link_of_archived files freely archived
    rw [succeeded] at linked
    cases linked
    cases failed
  obtain ⟨more, _, after, _⟩ := behind.link files linked
  obtain ⟨error', twin', twinDisk', linked', contains⟩ :=
    behind'.link_of_fault files' (mt (same string).mp new) fails
  refine ⟨error', twin', twinDisk', linked', ?_⟩
  exact roomier.of_links behind files behind' files' linked linked' contains after.contains
    (Nat.le_trans shorter (List.prefix_append log more).length_le)

end Twins

end Roomier

end Concordance
