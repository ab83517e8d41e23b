import Concordance.Proofs.Disk.Requests
import Concordance.IndexFile.Field

/-!
# Files that are left over

A replacement that breaks off can leave a file beside the one that it was to replace. Nobody reads
such a file, and the next replacement empties it before it is written. So a replacement does the
same on two disks that differ in nothing but such files and in the numbers that files were given.
-/
namespace Concordance

/-- An entry, whatever the number of its file. -/
def Entry.unnumbered : Entry → Entry
  | .file _ body => .file 0 body
  | entry => entry

theorem Entry.contents_unnumbered (entry : Entry) : entry.unnumbered.contents = entry.contents := by
  cases entry <;> rfl

namespace Disk

/-- If there is anything at a place, it is a file. -/
def IsLoose (disk : Disk) (place : Location) : Prop :=
  ∀ entry, disk.entry? place = some entry → ∃ number body, entry = .file number body

/-- Two disks differ at most in what files there are at the places `loose`, in the numbers of files
and in what has been removed. -/
structure Alike (loose : List Location) (disk other : Disk) : Prop where
  faults : other.faults = disk.faults
  entries : ∀ place,
    (other.entry? place).map Entry.unnumbered = (disk.entry? place).map Entry.unnumbered ∨
      place ∈ loose ∧ disk.IsLoose place ∧ other.IsLoose place

/-- Both disks have the same file at a place, whatever its number. -/
inductive Shared (place : Location) (disk other : Disk) : Prop
  | file {number number' : Nat} {body : FileBody}
      (here : disk.entry? place = some (.file number body))
      (there : other.entry? place = some (.file number' body))
  | full (here : disk.entry? place = some .full) (there : other.entry? place = some .full)

variable {loose : List Location} {disk other disk' other' : Disk} {place : Location}
  {path : String}

theorem IsLoose.ne_directory (free : disk.IsLoose place) :
    disk.entry? place ≠ some .directory := by
  intro found
  obtain ⟨_, _, file⟩ := free _ found
  cases file

/-! ### Making a file on one disk -/

section Granted

variable (granted : disk.nextFault = none) (unslashed : Path.isSlashed path = false)
  (resolved : disk.resolve path = .ok (Path.locate path))

include granted unslashed resolved

theorem openFile_of_isLoose (free : disk.IsLoose (Path.locate path)) :
    ∃ number made, disk.openFile path .createEmpty = (.ok (Path.locate path),
      { disk.afterRequest.put (Path.locate path) (.file number .empty) with made := made }) := by
  unfold openFile
  rw [granted]
  dsimp only
  rw [if_neg (by simp [unslashed]), resolve_afterRequest, resolved]
  dsimp only
  rw [entry?_afterRequest]
  cases found : disk.entry? (Path.locate path) with
  | none => exact ⟨_, _, rfl⟩
  | some entry =>
    obtain ⟨number, body, rfl⟩ := free entry found
    exact ⟨number, disk.made, by simp [unslashed]; rfl⟩

theorem openFile_of_full (found : disk.entry? (Path.locate path) = some .full) :
    disk.openFile path .createEmpty = (.ok (Path.locate path), disk.afterRequest) := by
  unfold openFile
  rw [granted]
  dsimp only
  rw [if_neg (by simp [unslashed]), resolve_afterRequest, resolved]
  dsimp only
  rw [entry?_afterRequest, found]
  dsimp only
  rw [unslashed, if_neg Bool.false_ne_true]

end Granted

/-- Otherwise no file is made. -/
theorem openFile_refused {mode : OpenMode}
    (reason : disk.nextFault ≠ none ∨ Path.isSlashed path = true ∨
      (∃ cause, disk.resolve path = .error cause) ∨
      disk.entry? (Path.locate path) = some .directory) :
    ∃ cause, disk.openFile path mode = (.error cause, disk.afterRequest) := by
  rcases outcome : disk.openFile path mode with ⟨result, after⟩
  rcases reason with failing | reason
  · obtain ⟨fault, fate⟩ := Option.ne_none_iff_exists'.mp failing
    unfold openFile at outcome
    rw [fate] at outcome
    cases outcome
    exact ⟨_, rfl⟩
  · cases openFile_cases outcome with
    | refused cause => exact ⟨cause, rfl⟩
    | taken resolved unslashed found file _ => simp_all
    | emptied resolved unslashed file _ => simp_all

/-! ### Alike disks -/

namespace Alike

/-- A file that is put where there was nothing. -/
theorem of_put (member : place ∈ loose) (named : place ≠ []) (free : disk.entry? place = none)
    (number : Nat) (body : FileBody) : Alike loose disk (disk.put place (.file number body)) where
  faults := rfl
  entries other := by
    have put := Disk.entry?_put disk named (.file number body) other
    by_cases here : other = place
    · subst here
      refine .inr ⟨member, fun entry found => ?_, fun entry found => ?_⟩
      · rw [free] at found
        cases found
      · rw [put, if_pos rfl] at found
        exact ⟨number, body, (Option.some.inj found).symm⟩
    · rw [put, if_neg here]
      exact .inl rfl

theorem nextFault (alike : Alike loose disk other) : other.nextFault = disk.nextFault := by
  rw [Disk.nextFault, alike.faults, Disk.nextFault]

/-- Disks stay alike if the same is done to a place on both of them. -/
theorem change (alike : Alike loose disk other) (faults : other'.faults = disk'.faults)
    (entries : ∀ place,
      (other'.entry? place).map Entry.unnumbered = (disk'.entry? place).map Entry.unnumbered ∨
        disk'.entry? place = disk.entry? place ∧ other'.entry? place = other.entry? place) :
    Alike loose disk' other' where
  faults := faults
  entries place := by
    rcases entries place with same | ⟨here, there⟩
    · exact .inl same
    · rw [IsLoose, IsLoose, here, there]
      exact alike.entries place

theorem afterRequest (alike : Alike loose disk other) :
    Alike loose disk.afterRequest other.afterRequest :=
  alike.change (congrArg List.tail alike.faults) fun _ => .inr ⟨rfl, rfl⟩

/-- What is at one place on both disks. -/
theorem entry_cases (alike : Alike loose disk other) (place : Location) :
    disk.IsLoose place ∧ other.IsLoose place ∨
      disk.entry? place = some .directory ∧ other.entry? place = some .directory ∨
      disk.entry? place = some .full ∧ other.entry? place = some .full := by
  rcases alike.entries place with same | ⟨_, free, free'⟩
  · cases found : disk.entry? place with
    | none =>
      rw [found, Option.map_none, Option.map_eq_none_iff] at same
      exact .inl ⟨fun _ here => by simp [found] at here, fun _ here => by simp [same] at here⟩
    | some entry =>
      rw [found, Option.map_some, Option.map_eq_some_iff] at same
      obtain ⟨entry', found', same⟩ := same
      cases entry <;> cases entry' <;> simp_all [Entry.unnumbered, IsLoose]
  · exact .inl ⟨free, free'⟩

theorem directory_iff (alike : Alike loose disk other) (place : Location) :
    other.entry? place = some .directory ↔ disk.entry? place = some .directory := by
  rcases alike.entry_cases place with ⟨free, free'⟩ | ⟨found, found'⟩ | ⟨found, found'⟩
  · exact iff_of_false free'.ne_directory free.ne_directory
  · exact iff_of_true found' found
  · simp [found, found']

/-- Both disks resolve a path, to the same place, or neither does. -/
theorem resolve_cases (alike : Alike loose disk other) (path : String) :
    disk.resolve path = .ok (Path.locate path) ∧ other.resolve path = .ok (Path.locate path) ∨
      ∃ cause cause', disk.resolve path = .error cause ∧ other.resolve path = .error cause' := by
  have same {place : Location} : other.resolve path = .ok place ↔ disk.resolve path = .ok place :=
    resolve_eq_ok_congr alike.directory_iff
  cases resolved : disk.resolve path with
  | ok place =>
    obtain rfl := (resolve_eq_ok.mp resolved).2.2
    exact .inl ⟨rfl, same.mpr resolved⟩
  | error cause =>
    cases resolved' : other.resolve path with
    | ok place => simp [same.mp resolved'] at resolved
    | error cause' => exact .inr ⟨cause, cause', rfl, rfl⟩

/-- The same file may be put at one place on both disks. -/
theorem put (alike : Alike loose disk other) (faults : other'.faults = disk'.faults)
    {number number' : Nat} {body : FileBody}
    (here : ∀ elsewhere, disk'.entry? elsewhere =
      if elsewhere = place then some (.file number body) else disk.entry? elsewhere)
    (there : ∀ elsewhere, other'.entry? elsewhere =
      if elsewhere = place then some (.file number' body) else other.entry? elsewhere) :
    Alike loose disk' other' ∧ Shared place disk' other' := by
  constructor
  · apply alike.change faults
    intro elsewhere
    rw [here, there]
    by_cases same : elsewhere = place
    · rw [if_pos same, if_pos same]
      exact .inl rfl
    · rw [if_neg same, if_neg same]
      exact .inr ⟨rfl, rfl⟩
  · exact .file ((here place).trans (if_pos rfl)) ((there place).trans (if_pos rfl))

end Alike

/-! ### Reading on both disks -/

/-- Nothing is found at a path that no file can have if there is no directory. -/
theorem find_error_of_unfit
    (unfit : Path.isNamed path = false ∨ Path.isSlashed path = true)
    (file : disk.entry? (Path.locate path) ≠ some .directory) :
    ∃ cause, disk.find path = .error cause := by
  cases found : disk.find path with
  | error cause => exact ⟨cause, rfl⟩
  | ok entry => exact absurd ((find_eq_ok_of_unfit unfit).mp found).2.1 file

/-- Both disks have the same at a path, or nothing is found there on either, unless the path is that
of a loose file. -/
theorem Alike.find_cases (alike : Alike loose disk other)
    (away : Path.isNamed path = true → Path.isSlashed path = false → Path.locate path ∉ loose) :
    (∃ entry entry', disk.find path = .ok entry ∧ other.find path = .ok entry' ∧
      entry'.unnumbered = entry.unnumbered) ∨
    ∃ cause cause', disk.find path = .error cause ∧ other.find path = .error cause' := by
  rcases alike.entries (Path.locate path) with same | ⟨member, free, free'⟩
  · unfold Disk.find
    rcases alike.resolve_cases path with ⟨resolved, resolved'⟩ | ⟨_, _, failed, failed'⟩
    · rw [resolved, resolved']
      dsimp only
      cases found : disk.entry? (Path.locate path) with
      | none =>
        rw [found, Option.map_none, Option.map_eq_none_iff] at same
        rw [same]
        exact .inr ⟨_, _, rfl, rfl⟩
      | some entry =>
        rw [found, Option.map_some, Option.map_eq_some_iff] at same
        obtain ⟨entry', found', same⟩ := same
        rw [found']
        cases entry <;> cases entry' <;> cases Path.isSlashed path <;>
          simp_all [Entry.unnumbered]
    · rw [failed, failed']
      exact .inr ⟨_, _, rfl, rfl⟩
  · -- a path that leads to a loose place can only be meant for a directory, which is not there
    have unfit : Path.isNamed path = false ∨ Path.isSlashed path = true := by
      by_contra fit
      simp only [not_or, Bool.not_eq_false, Bool.not_eq_true] at fit
      exact away fit.1 fit.2 member
    obtain ⟨cause, missed⟩ := find_error_of_unfit unfit free.ne_directory
    obtain ⟨cause', missed'⟩ := find_error_of_unfit unfit free'.ne_directory
    exact .inr ⟨cause, cause', missed, missed'⟩

/-- Both disks have the same bytes at such a path. -/
theorem Alike.contains_iff (alike : Alike loose disk other)
    (away : Path.isNamed path = true → Path.isSlashed path = false → Path.locate path ∉ loose)
    {bytes : Bytes} : other.Contains path bytes ↔ disk.Contains path bytes := by
  unfold Contains
  rcases alike.find_cases away with ⟨entry, entry', found, found', same⟩ | ⟨_, _, missed, missed'⟩
  · have contents : entry'.contents = entry.contents := by
      rw [← entry'.contents_unnumbered, same, entry.contents_unnumbered]
    rw [found, found']
    simp only [Except.ok.injEq, exists_eq_left', contents]
  · rw [missed, missed']
    simp

/-! ### Requests on both disks -/

/-- A file is made or emptied on both disks, or on neither. -/
theorem Alike.openFile (alike : Alike loose disk other) (path : String) :
    (∃ cause cause', disk.openFile path .createEmpty = (.error cause, disk.afterRequest) ∧
      other.openFile path .createEmpty = (.error cause', other.afterRequest)) ∨
    ∃ after after', disk.openFile path .createEmpty = (.ok (Path.locate path), after) ∧
      other.openFile path .createEmpty = (.ok (Path.locate path), after') ∧
      Alike loose after after' ∧ Shared (Path.locate path) after after' := by
  by_cases refused : disk.nextFault ≠ none ∨ Path.isSlashed path = true ∨
      (∃ cause, disk.resolve path = .error cause) ∨
      disk.entry? (Path.locate path) = some .directory
  · left
    have refused' : other.nextFault ≠ none ∨ Path.isSlashed path = true ∨
        (∃ cause, other.resolve path = .error cause) ∨
        other.entry? (Path.locate path) = some .directory := by
      rw [alike.nextFault, alike.directory_iff]
      refine refused.imp_right (Or.imp_right (Or.imp_left ?_))
      rintro ⟨cause, failed⟩
      rcases alike.resolve_cases path with ⟨resolved, _⟩ | ⟨_, cause', _, failed'⟩
      · simp [resolved] at failed
      · exact ⟨cause', failed'⟩
    obtain ⟨cause, opened⟩ := openFile_refused refused
    obtain ⟨cause', opened'⟩ := openFile_refused refused'
    exact ⟨cause, cause', opened, opened'⟩
  · right
    simp only [not_or, not_exists, ne_eq, not_not, Bool.not_eq_true] at refused
    obtain ⟨granted, unslashed, resolves, file⟩ := refused
    have granted' : other.nextFault = none := alike.nextFault.trans granted
    rcases alike.resolve_cases path with ⟨resolved, resolved'⟩ | ⟨cause, _, failed, _⟩
    · rcases alike.entry_cases (Path.locate path) with
        ⟨free, free'⟩ | ⟨found, _⟩ | ⟨found, found'⟩
      · obtain ⟨number, made, opened⟩ := openFile_of_isLoose granted unslashed resolved free
        obtain ⟨number', made', opened'⟩ := openFile_of_isLoose granted' unslashed resolved' free'
        have here := entry?_put disk.afterRequest (ne_root free.ne_directory) (.file number .empty)
        have there :=
          entry?_put other.afterRequest (ne_root free'.ne_directory) (.file number' .empty)
        exact ⟨_, _, opened, opened',
          alike.afterRequest.put alike.afterRequest.faults here there⟩
      · exact absurd found file
      · exact ⟨_, _, openFile_of_full granted unslashed resolved found,
          openFile_of_full granted' unslashed resolved' found', alike.afterRequest,
          .full found found'⟩
    · exact absurd failed (resolves cause)

/-- What is shared has one size. -/
theorem Shared.sizeAt (shared : Shared place disk other) :
    other.sizeAt place = disk.sizeAt place := by
  unfold Disk.sizeAt
  cases shared with
  | file here there => rw [here, there]
  | full here there => rw [here, there]

/-- What is shared is extended on both disks in the same way. -/
theorem Alike.extend (alike : Alike loose disk other) (shared : Shared place disk other)
    (data : Bytes) :
    ∃ result after after', disk.extend place (disk.sizeAt place) data = (result, after) ∧
      other.extend place (other.sizeAt place) data = (result, after') ∧
      Alike loose after after' ∧ Shared place after after' := by
  rw [shared.sizeAt]
  by_cases empty : data = []
  · rw [Disk.extend, Disk.extend, if_pos empty, if_pos empty]
    exact ⟨_, _, _, rfl, rfl, alike, shared⟩
  · rw [Disk.extend, Disk.extend, if_neg empty, if_neg empty, alike.nextFault]
    have next := alike.afterRequest
    cases shared with
    | full here there =>
      rw [here, there]
      cases disk.nextFault <;> exact ⟨_, _, _, rfl, rfl, next, .full here there⟩
    | @file number number' body here there =>
      rw [here, there]
      -- whatever is put at the place is put there on both disks
      have file : disk.entry? place ≠ some .directory := by simp [here]
      have put (body : FileBody) : Alike loose (disk.afterRequest.put place (.file number body))
            (other.afterRequest.put place (.file number' body)) ∧
          Shared place (disk.afterRequest.put place (.file number body))
            (other.afterRequest.put place (.file number' body)) :=
        next.put next.faults (entry?_put disk.afterRequest (ne_root file) _)
          (entry?_put other.afterRequest (ne_root file) _)
      have kept : Shared place disk.afterRequest other.afterRequest := .file here there
      cases disk.nextFault with
      | some fault => exact ⟨_, _, _, rfl, rfl, put _⟩
      | none =>
        dsimp only
        split
        · exact ⟨_, _, _, rfl, rfl, next, kept⟩
        · split
          · exact ⟨_, _, _, rfl, rfl, put _⟩
          · split
            · exact ⟨_, _, _, rfl, rfl, next, kept⟩
            · exact ⟨_, _, _, rfl, rfl, put _⟩

theorem Alike.sync (alike : Alike loose disk other) (shared : Shared place disk other) :
    ∃ result after after', disk.sync place = (result, after) ∧
      other.sync place = (result, after') ∧
      Alike loose after after' ∧ Shared place after after' := by
  have next := alike.afterRequest
  rw [Disk.sync, Disk.sync, alike.nextFault]
  cases shared with
  | full here there =>
    rw [here, there]
    cases disk.nextFault <;> exact ⟨_, _, _, rfl, rfl, next, .full here there⟩
  | file here there =>
    rw [here, there]
    cases disk.nextFault <;> exact ⟨_, _, _, rfl, rfl, next, .file here there⟩

theorem Shared.exists_entries (shared : Shared place disk other) :
    ∃ entry entry', disk.entry? place = some entry ∧ other.entry? place = some entry' ∧
      entry'.unnumbered = entry.unnumbered ∧ disk.entry? place ≠ some .directory := by
  cases shared with
  | file here there => exact ⟨_, _, here, there, rfl, by simp [here]⟩
  | full here there => exact ⟨_, _, here, there, rfl, by simp [here]⟩

theorem faults_unlink (disk : Disk) (place : Location) :
    (disk.unlink place).faults = disk.faults := by
  unfold Disk.unlink
  split <;> rfl

/-- What is shared may be moved on both disks. -/
theorem Alike.move (alike : Alike loose disk other) {origin goal : Location} {entry entry' : Entry}
    (same : entry'.unnumbered = entry.unnumbered) (origin_named : origin ≠ [])
    (goal_named : goal ≠ []) :
    Alike loose (((disk.unlink goal).remove origin).put goal entry)
      (((other.unlink goal).remove origin).put goal entry') := by
  apply alike.change
  · exact (faults_unlink other goal).trans (alike.faults.trans (faults_unlink disk goal).symm)
  · intro place
    rw [entry?_move origin_named goal_named, entry?_move origin_named goal_named]
    by_cases here : place = goal
    · rw [if_pos here, if_pos here]
      exact .inl (congrArg some same)
    · rw [if_neg here, if_neg here]
      by_cases gone : place = origin
      · rw [if_pos gone, if_pos gone]
        exact .inl rfl
      · rw [if_neg gone, if_neg gone]
        exact .inr ⟨rfl, rfl⟩

/-- What is shared is renamed on both disks, or on neither. -/
theorem Alike.rename (alike : Alike loose disk other) {source : String}
    (shared : Shared (Path.locate source) disk other) (target : String) :
    (∃ cause cause', disk.rename source target = (.error cause, disk.afterRequest) ∧
      other.rename source target = (.error cause', other.afterRequest)) ∨
    ∃ after after', disk.rename source target = (.ok (), after) ∧
      other.rename source target = (.ok (), after') ∧ Alike loose after after' := by
  obtain ⟨entry, entry', here, there, same, file⟩ := shared.exists_entries
  have next := alike.afterRequest
  rw [← entry?_afterRequest] at here there
  unfold Disk.rename
  rw [alike.nextFault]
  cases disk.nextFault with
  | some fault => exact .inl ⟨_, _, rfl, rfl⟩
  | none =>
    dsimp only
    simp only [resolve_afterRequest]
    rcases alike.resolve_cases source with ⟨origin, origin'⟩ | ⟨_, _, failed, failed'⟩
    · rcases alike.resolve_cases target with ⟨goal, goal'⟩ | ⟨_, _, failed, failed'⟩
      · rw [origin, origin', goal, goal']
        dsimp only
        rw [here, there]
        dsimp only
        split
        · exact .inl ⟨_, _, rfl, rfl⟩
        · split
          · exact .inl ⟨_, _, rfl, rfl⟩
          · by_cases directory : disk.afterRequest.entry? (Path.locate target) = some .directory
            · rw [if_pos directory, if_pos ((next.directory_iff _).mpr directory)]
              exact .inl ⟨_, _, rfl, rfl⟩
            · right
              rw [if_neg directory, if_neg ((next.directory_iff _).not.mpr directory)]
              split
              · exact ⟨_, _, rfl, rfl, next⟩
              · exact ⟨_, _, rfl, rfl, next.move same (ne_root file) (ne_root directory)⟩
      · rw [origin, origin', failed, failed']
        exact .inl ⟨_, _, rfl, rfl⟩
    · rw [failed, failed']
      exact .inl ⟨_, _, rfl, rfl⟩

end Disk

namespace IndexFile

open Disk (Alike Shared)

variable {loose : List Location} {disk other : Disk} {place : Location}

/-! ### Replacing a file on both disks -/

theorem emptied_alike (alike : Alike loose disk other) (shared : Shared place disk other)
    (buffered : Array UInt8) (size : Nat) :
    ∃ outcome waiting middle middle',
      (if capacity < buffered.size + size then
        ((disk.extend place (disk.sizeAt place) buffered.toList).1, #[],
          (disk.extend place (disk.sizeAt place) buffered.toList).2)
      else ((.ok (), buffered, disk) : Except Cause Unit × Array UInt8 × Disk)) =
        (outcome, waiting, middle) ∧
      (if capacity < buffered.size + size then
        ((other.extend place (other.sizeAt place) buffered.toList).1, #[],
          (other.extend place (other.sizeAt place) buffered.toList).2)
      else ((.ok (), buffered, other) : Except Cause Unit × Array UInt8 × Disk)) =
        (outcome, waiting, middle') ∧
      Alike loose middle middle' ∧ Shared place middle middle' := by
  split
  · obtain ⟨outcome, middle, middle', here, there, alike, shared⟩ :=
      alike.extend shared buffered.toList
    rw [here, there]
    exact ⟨_, _, _, _, rfl, rfl, alike, shared⟩
  · exact ⟨_, _, _, _, rfl, rfl, alike, shared⟩

theorem writeField_alike (alike : Alike loose disk other) (shared : Shared place disk other)
    (buffered : Array UInt8) (field : Field) :
    ∃ result after after', writeField place buffered field disk = (result, after) ∧
      writeField place buffered field other = (result, after') ∧
      Alike loose after after' ∧ Shared place after after' := by
  unfold writeField
  dsimp only
  split
  · exact ⟨_, _, _, rfl, rfl, alike, shared⟩
  · obtain ⟨outcome, waiting, middle, middle', here, there, alike, shared⟩ :=
      emptied_alike alike shared buffered field.bytes.length
    rw [here, there]
    cases outcome with
    | error cause => exact ⟨_, _, _, rfl, rfl, alike, shared⟩
    | ok _ =>
      dsimp only
      split
      · obtain ⟨written, after, after', here, there, alike, shared⟩ :=
          alike.extend shared field.bytes
        rw [here, there]
        cases written <;> exact ⟨_, _, _, rfl, rfl, alike, shared⟩
      · exact ⟨_, _, _, rfl, rfl, alike, shared⟩

theorem writeFields_alike (alike : Alike loose disk other) (shared : Shared place disk other)
    (buffered : Array UInt8) (fields : List Field) :
    ∃ result after after', writeFields place buffered fields disk = (result, after) ∧
      writeFields place buffered fields other = (result, after') ∧
      Alike loose after after' ∧ Shared place after after' := by
  induction fields generalizing buffered disk other with
  | nil => exact ⟨_, _, _, rfl, rfl, alike, shared⟩
  | cons field rest ih =>
    obtain ⟨written, middle, middle', here, there, alike, shared⟩ :=
      writeField_alike alike shared buffered field
    rw [writeFields, writeFields, here, there]
    cases written with
    | error error => exact ⟨_, _, _, rfl, rfl, alike, shared⟩
    | ok waiting => exact ih alike shared waiting

end IndexFile

/-- Two attempts come to the same. If they fail they fail at the same step; which cause is found
there may depend on what is in the way of a path. -/
inductive SameOutcome {α : Type} : Except StoreError α → Except StoreError α → Prop
  | same (result : Except StoreError α) : SameOutcome result result
  | write (step : Step) (cause cause' : Cause) :
      SameOutcome (.error (.write step cause)) (.error (.write step cause'))
  | read (step : Step) (cause cause' : Cause) :
      SameOutcome (.error (.read step cause)) (.error (.read step cause'))

namespace IndexFile

open Disk (Alike Shared)

variable {loose : List Location} {disk other : Disk}

/-- A replacement comes to the same on both disks, and they stay alike. -/
theorem replaceFile_alike (alike : Alike loose disk other) (path : String) (fields : List Field) :
    SameOutcome (replaceFile path fields disk).1 (replaceFile path fields other).1 ∧
      Alike loose (replaceFile path fields disk).2 (replaceFile path fields other).2 := by
  unfold replaceFile
  dsimp only
  rcases alike.openFile (Path.temporary path) with
    ⟨_, _, here, there⟩ | ⟨opened, opened', here, there, alike, shared⟩
  · rw [here, there]
    exact ⟨.write .., alike.afterRequest⟩
  · rw [here, there]
    dsimp only
    obtain ⟨written, filled, filled', here, there, alike, shared⟩ :=
      writeFields_alike alike shared #[] fields
    rw [here, there]
    cases written with
    | error error => exact ⟨.same _, alike⟩
    | ok buffered =>
      dsimp only
      obtain ⟨emptied, flushed, flushed', here, there, alike, shared⟩ :=
        alike.extend shared buffered.toList
      rw [here, there]
      cases emptied with
      | error cause => exact ⟨.same _, alike⟩
      | ok _ =>
        dsimp only
        obtain ⟨safe, synced, synced', here, there, alike, shared⟩ := alike.sync shared
        rw [here, there]
        cases safe with
        | error cause => exact ⟨.same _, alike⟩
        | ok _ =>
          dsimp only
          rcases alike.rename shared path with
            ⟨_, _, here, there⟩ | ⟨_, _, here, there, alike⟩
          · rw [here, there]
            exact ⟨.write .., alike.afterRequest⟩
          · rw [here, there]
            exact ⟨.same _, alike⟩

end IndexFile

end Concordance
