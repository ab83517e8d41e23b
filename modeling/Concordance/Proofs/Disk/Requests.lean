import Concordance.Proofs.Disk.Places
import Mathlib.Data.List.TakeDrop

/-!
# What requests do to files

Each request is described by the bytes of the one file that it is about, whether it succeeds or
fails: opening may make the file or empty it, writing adds some of the bytes that it was given, and
renaming moves them. Everything else on the disk stays.
-/
namespace Concordance.Disk

/-! ### The bytes of a file -/

/-- There is a file at `place`, and it has these bytes. -/
def Holds (disk : Disk) (place : Location) (bytes : Bytes) : Prop :=
  ∃ entry, disk.entry? place = some entry ∧ entry.contents = .ok bytes

/-- `path` leads to a file with these bytes. -/
def Contains (disk : Disk) (path : String) (bytes : Bytes) : Prop :=
  ∃ entry, disk.find path = .ok entry ∧ entry.contents = .ok bytes

variable {disk after : Disk} {place : Location} {path : String} {bytes : Bytes}

theorem Holds.unique {other : Bytes} (left : disk.Holds place bytes)
    (right : disk.Holds place other) : bytes = other := by
  obtain ⟨entry, found, contents⟩ := left
  obtain ⟨entry', found', contents'⟩ := right
  obtain rfl : entry = entry' := Option.some.inj (found.symm.trans found')
  exact Except.ok.inj (contents.symm.trans contents')

theorem Holds.file (holds : disk.Holds place bytes) : disk.entry? place ≠ some .directory := by
  obtain ⟨entry, found, contents⟩ := holds
  rw [found]
  rintro same
  obtain rfl := Option.some.inj same
  simp [Entry.contents] at contents

theorem Holds.congr (same : after.entry? place = disk.entry? place) :
    after.Holds place bytes ↔ disk.Holds place bytes := by
  rw [Holds, Holds, same]

/-- The size of a file is a word. -/
theorem size_lt {size : Nat} (bounded : size ≤ sizeLimit) : size < UInt64.size :=
  Nat.lt_of_le_of_lt bounded (by decide)

theorem sizeAt_of_holds (holds : disk.Holds place bytes) : disk.sizeAt place = bytes.length := by
  obtain ⟨entry, found, contents⟩ := holds
  cases entry with
  | file number body =>
    cases contents
    simp [sizeAt, found]
  | directory => simp [Entry.contents] at contents
  | full =>
    cases contents
    simp [sizeAt, found]

theorem contains_iff :
    disk.Contains path bytes ↔
      disk.resolve path = .ok (Path.locate path) ∧ Path.isSlashed path = false ∧
        disk.Holds (Path.locate path) bytes := by
  simp only [Contains, Holds, find_eq_ok]
  constructor
  · rintro ⟨entry, ⟨resolved, found, file⟩, contents⟩
    refine ⟨resolved, ?_, entry, found, contents⟩
    by_contra slashed
    obtain rfl := file (by simpa using slashed)
    simp [Entry.contents] at contents
  · rintro ⟨resolved, unslashed, entry, found, contents⟩
    exact ⟨entry, ⟨resolved, found, by simp [unslashed]⟩, contents⟩

theorem Contains.unique {other : Bytes} (left : disk.Contains path bytes)
    (right : disk.Contains path other) : bytes = other :=
  (contains_iff.mp left).2.2.unique (contains_iff.mp right).2.2

theorem pathExists_eq_false_iff :
    disk.pathExists path = false ↔ ∀ entry, disk.find path ≠ .ok entry := by
  unfold pathExists
  cases disk.find path <;> simp

theorem pathExists_congr
    (same : ∀ entry, after.find path = .ok entry ↔ disk.find path = .ok entry) :
    after.pathExists path = disk.pathExists path := by
  rw [Bool.eq_iff_iff, ← not_iff_not, Bool.not_eq_true, Bool.not_eq_true, pathExists_eq_false_iff,
    pathExists_eq_false_iff]
  exact forall_congr' fun entry => not_congr (same entry)

theorem contains_congr
    (same : ∀ entry, after.find path = .ok entry ↔ disk.find path = .ok entry) :
    after.Contains path bytes ↔ disk.Contains path bytes := by
  simp only [Contains, same]

theorem Keeps.contains_iff {changed : List Location} (kept : Keeps changed disk after)
    (away : ∀ place, disk.resolve path = .ok place → place ∉ changed) :
    after.Contains path bytes ↔ disk.Contains path bytes := by
  simp only [Contains, kept.find_eq_ok away]

/-- What will become of requests has no part in what is on the disk. -/
theorem keeps_withFaults (changed : List Location) (disk : Disk) (faults : List (Option Fault)) :
    Keeps changed disk { disk with faults } :=
  .of_entries fun _ => rfl

/-- A request that fails for a reason of its own changes nothing but the fates to come. -/
theorem keeps_afterRequest (changed : List Location) (disk : Disk) :
    Keeps changed disk disk.afterRequest :=
  keeps_withFaults ..

@[simp]
theorem resolve_afterRequest (disk : Disk) (path : String) :
    disk.afterRequest.resolve path = disk.resolve path := rfl

/-! ### Opening -/

/-- What can come of opening a file for writing. -/
inductive Opening (disk : Disk) (path : String) (mode : OpenMode) :
    Except Cause Location → Disk → Prop
  | refused (cause : Cause) : Opening disk path mode (.error cause) disk.afterRequest
  /-- What is there is opened as it is. -/
  | taken {entry : Entry} (resolved : disk.resolve path = .ok (Path.locate path))
      (unslashed : Path.isSlashed path = false)
      (found : disk.entry? (Path.locate path) = some entry) (file : entry ≠ .directory)
      (keeps : mode = .createEmpty → entry = .full) :
      Opening disk path mode (.ok (Path.locate path)) disk.afterRequest
  /-- An empty file is put there. -/
  | emptied {number made : Nat} (resolved : disk.resolve path = .ok (Path.locate path))
      (unslashed : Path.isSlashed path = false)
      (file : disk.entry? (Path.locate path) ≠ some .directory)
      (reason : mode = .createEmpty ∨
        mode = .appendOrCreate ∧ disk.entry? (Path.locate path) = none) :
      Opening disk path mode (.ok (Path.locate path))
        { disk.afterRequest.put (Path.locate path) (.file number .empty) with made := made }

theorem openFile_cases {mode : OpenMode} {result : Except Cause Location}
    (opened : disk.openFile path mode = (result, after)) : Opening disk path mode result after := by
  unfold openFile at opened
  split at opened
  · -- the fate of the request is to fail
    cases opened
    exact .refused _
  · dsimp only at opened
    split at opened
    · -- a slash at the end asks for a directory
      split at opened
      · cases opened
        exact .refused _
      · cases opened
        exact .refused _
    · next unslashed =>
      split at opened
      · cases opened
        exact .refused _
      · next resolved =>
        obtain rfl := (resolve_eq_ok.mp resolved).2.2
        rw [resolve_afterRequest] at resolved
        rw [entry?_afterRequest] at opened
        split at opened
        · cases opened
          exact .refused _
        · next number body found =>
          split at opened
          · cases opened
            exact .refused _
          · next plain =>
            have plain := Bool.eq_false_iff.mpr plain
            split at opened
            · next empties =>
              cases opened
              exact .emptied resolved plain (by simp [found]) (.inl empties)
            · next keeps =>
              cases opened
              exact .taken resolved plain found (by simp) fun empties => absurd empties keeps
        · next found =>
          split at opened
          · cases opened
            exact .refused _
          · next plain =>
            cases opened
            exact .taken resolved (Bool.eq_false_iff.mpr plain) found (by simp) fun _ => rfl
        · next missing =>
          split at opened
          · cases opened
            exact .refused _
          · next makes =>
            cases opened
            have plain : Path.isSlashed path = false := by simpa [makes] using unslashed
            refine .emptied resolved plain (by simp [missing]) ?_
            cases mode with
            | append => exact absurd rfl makes
            | appendOrCreate => exact .inr ⟨rfl, missing⟩
            | createEmpty => exact .inl rfl

/-- Opening a file for writing changes at most the place that the path leads to. -/
theorem keeps_openFile {mode : OpenMode} {result : Except Cause Location}
    (opened : disk.openFile path mode = (result, after)) : Keeps [Path.locate path] disk after := by
  cases openFile_cases opened with
  | refused => exact keeps_afterRequest ..
  | taken => exact keeps_afterRequest ..
  | @emptied number made _ _ file _ =>
    have other : disk.afterRequest.entry? (Path.locate path) ≠ some .directory := file
    have put : Keeps [Path.locate path] disk.afterRequest
        (disk.afterRequest.put (Path.locate path) (.file number .empty)) :=
      .put other (by simp)
    exact (keeps_afterRequest ..).trans ⟨put.elsewhere, put.directory⟩

/-- A file that is opened has a name of its own. It holds what it held, or nothing if it has been
made or emptied. -/
theorem openFile_ok {mode : OpenMode} (opened : disk.openFile path mode = (.ok place, after)) :
    place = Path.locate path ∧ disk.resolve path = .ok place ∧ Path.isSlashed path = false ∧
      Path.isNamed path = true ∧
      ∃ bytes, after.Holds place bytes ∧
        (mode = .createEmpty ∧ bytes = [] ∨ mode ≠ .createEmpty ∧ disk.Holds place bytes ∨
          mode = .appendOrCreate ∧ bytes = [] ∧ disk.entry? place = none) := by
  -- a path whose last name is no name of its own would lead to a directory
  have named (resolved : disk.resolve path = .ok (Path.locate path))
      (file : disk.entry? (Path.locate path) ≠ some .directory) : Path.isNamed path = true := by
    by_contra unnamed
    exact file (directory_of_unnamed (resolve_eq_ok.mp resolved).1 (by simpa using unnamed))
  cases openFile_cases opened with
  | @taken entry resolved plain found file keeps =>
    refine ⟨rfl, resolved, plain, named resolved (by simp [found, file]), ?_⟩
    cases entry with
    | directory => exact absurd rfl file
    | file number body =>
      have other : mode ≠ .createEmpty := fun empties => by simpa using keeps empties
      exact ⟨body.toList, ⟨_, found, rfl⟩, .inr (.inl ⟨other, _, found, rfl⟩)⟩
    | full =>
      -- the device is empty before and after
      refine ⟨[], ⟨_, found, rfl⟩, ?_⟩
      by_cases empties : mode = .createEmpty
      · exact .inl ⟨empties, rfl⟩
      · exact .inr (.inl ⟨empties, _, found, rfl⟩)
  | @emptied number made resolved plain file reason =>
    have found := (entry?_put disk.afterRequest (ne_root file) (.file number .empty)
      (Path.locate path)).trans (if_pos rfl)
    refine ⟨rfl, resolved, plain, named resolved file, [], ⟨_, found, rfl⟩, ?_⟩
    -- the file is empty because it has been emptied or because it is new
    rcases reason with empties | ⟨creates, missing⟩
    · exact .inl ⟨empties, rfl⟩
    · exact .inr (.inr ⟨creates, rfl, missing⟩)

/-- A file that is there is opened as it is, unless the request is refused. -/
theorem openFile_of_contains {mode : OpenMode} (keeps : mode ≠ .createEmpty)
    (contains : disk.Contains path bytes) (granted : disk.nextFault = none) :
    disk.openFile path mode = (.ok (Path.locate path), disk.afterRequest) := by
  obtain ⟨resolved, unslashed, entry, found, contents⟩ := contains_iff.mp contains
  unfold openFile
  rw [granted]
  dsimp only
  rw [if_neg (by simp [unslashed]), resolve_afterRequest, resolved]
  dsimp only
  rw [entry?_afterRequest, found]
  cases entry with
  | file number body => simp [unslashed, keeps]
  | directory => simp [Entry.contents] at contents
  | full => simp [unslashed]

/-! ### Writing -/

theorem holds_put_file {number : Nat} {body : FileBody}
    (found : disk.entry? place = some (.file number body)) (written : FileBody) :
    (disk.afterRequest.put place (.file number written)).Holds place written.toList := by
  have file : disk.entry? place ≠ some .directory := by simp [found]
  exact ⟨_, (entry?_put disk.afterRequest (ne_root file) _ place).trans (if_pos rfl), rfl⟩

theorem keeps_put_file {number : Nat} {body : FileBody}
    (found : disk.entry? place = some (.file number body)) (written : FileBody) :
    Keeps [place] disk (disk.afterRequest.put place (.file number written)) := by
  have file : disk.afterRequest.entry? place ≠ some .directory := by simp [found]
  have put : Keeps [place] disk.afterRequest
      (disk.afterRequest.put place (.file number written)) := .put file (by simp)
  exact (keeps_afterRequest ..).trans put

/-- A device that takes no byte refuses every request. -/
theorem extend_full {position : Nat} {data : Bytes} {result : Except Cause Unit}
    (some : data ≠ []) (extended : disk.extend place position data = (result, after))
    (found : disk.entry? place = Option.some .full) :
    result ≠ .ok () ∧ after = disk.afterRequest := by
  rw [extend, if_neg some, found] at extended
  cases fate : disk.nextFault with
  | none =>
    rw [fate] at extended
    cases extended
    exact ⟨by simp, rfl⟩
  | some fault =>
    rw [fate] at extended
    cases extended
    exact ⟨by simp, rfl⟩

/-- A file takes a part of the data, for which it has room. -/
theorem extend_file {position : Nat} {data : Bytes} {result : Except Cause Unit} {number : Nat}
    {body : FileBody} (some : data ≠ [])
    (extended : disk.extend place position data = (result, after))
    (found : disk.entry? place = Option.some (.file number body)) :
    ∃ more, more <+: data ∧ (result = .ok () ↔ more = data) ∧
      more.length ≤ sizeLimit - body.size ∧
      (after = disk.afterRequest.put place (.file number (body.append more)) ∨
        more = [] ∧ after = disk.afterRequest) := by
  have filled := List.length_pos_iff.mpr some
  rw [extend, if_neg some, found] at extended
  cases fate : disk.nextFault with
  | some fault =>
    rw [fate] at extended
    dsimp only at extended
    cases extended
    refine ⟨_, List.take_prefix .., ?_, ?_, .inl rfl⟩
    · -- a request that fails never takes all of the data
      rw [List.take_eq_self_iff]
      apply iff_of_false
      · simp
      · omega
    · rw [List.length_take]
      omega
  | none =>
    rw [fate] at extended
    dsimp only at extended
    split at extended
    · cases extended
      exact ⟨[], List.nil_prefix, by simp [Ne.symm some], Nat.zero_le _, .inr ⟨rfl, rfl⟩⟩
    · split at extended
      · next fits =>
        cases extended
        exact ⟨data, List.prefix_refl _, by simp, fits, .inl rfl⟩
      · next larger =>
        -- the data does not fit: the file takes what it has room for, if it has any
        split at extended
        · cases extended
          exact ⟨[], List.nil_prefix, by simp [Ne.symm some], Nat.zero_le _, .inr ⟨rfl, rfl⟩⟩
        · cases extended
          refine ⟨_, List.take_prefix .., ?_, List.length_take_le .., .inl rfl⟩
          rw [List.take_eq_self_iff]
          apply iff_of_false
          · simp
          · omega

/-- Writing adds a part of the data to the file, all of it exactly if the request succeeds. No file
grows past the greatest size. -/
theorem extend_spec {position : Nat} {data : Bytes} {result : Except Cause Unit}
    (extended : disk.extend place position data = (result, after))
    (holds : disk.Holds place bytes) :
    Keeps [place] disk after ∧
      ∃ more, more <+: data ∧ (result = .ok () ↔ more = data) ∧
        after.Holds place (bytes ++ more) ∧
        (bytes.length ≤ sizeLimit → (bytes ++ more).length ≤ sizeLimit) := by
  by_cases empty : data = []
  · rw [extend, if_pos empty] at extended
    cases extended
    exact ⟨.refl .., [], List.nil_prefix, by simp [empty], by rwa [List.append_nil], by simp⟩
  · obtain ⟨entry, found, contents⟩ := id holds
    cases entry with
    | directory => simp [Entry.contents] at contents
    | full =>
      obtain ⟨failed, rfl⟩ := extend_full empty extended found
      refine ⟨keeps_afterRequest .., [], List.nil_prefix, ?_, ?_, by simp⟩
      · exact iff_of_false failed (Ne.symm empty)
      · rw [List.append_nil]
        exact holds
    | file number body =>
      obtain rfl : body.toList = bytes := Except.ok.inj contents
      -- either the file has been written again, or nothing has been taken
      obtain ⟨more, part, complete, room, rfl | ⟨rfl, rfl⟩⟩ := extend_file empty extended found
      · refine ⟨keeps_put_file found _, more, part, complete, ?_, ?_⟩
        · rw [← FileBody.toList_append]
          exact holds_put_file found _
        · intro bounded
          rw [FileBody.length_toList] at bounded
          rw [List.length_append, FileBody.length_toList]
          omega
      · refine ⟨keeps_afterRequest .., [], part, complete, ?_, by simp⟩
        rw [List.append_nil]
        exact holds

theorem keeps_sync {result : Except Cause Unit} (synced : disk.sync place = (result, after)) :
    Keeps [] disk after := by
  unfold sync at synced
  split at synced
  · cases synced
    exact keeps_afterRequest ..
  · cases synced
    exact keeps_afterRequest ..
  · cases synced
    exact keeps_afterRequest ..

/-! ### Renaming -/

/-- What is found after an entry has been moved over another one. -/
theorem entry?_move {origin goal : Location} (origin_named : origin ≠ []) (goal_named : goal ≠ [])
    (entry : Entry) (other : Location) :
    Disk.entry? (((disk.unlink goal).remove origin).put goal entry) other =
      if other = goal then some entry else if other = origin then none else disk.entry? other := by
  rw [entry?_put _ goal_named, entry?_remove _ origin_named, entry?_unlink _ goal_named]
  by_cases target : other = goal
  · rw [if_pos target, if_pos target]
  · rw [if_neg target, if_neg target, if_neg target]

theorem keeps_move {origin goal : Location} (origin_file : disk.entry? origin ≠ some .directory)
    (goal_file : disk.entry? goal ≠ some .directory) {entry : Entry} (file : entry ≠ .directory) :
    Keeps [origin, goal] disk (((disk.unlink goal).remove origin).put goal entry) where
  elsewhere other away := by
    simp only [List.mem_cons, List.not_mem_nil, or_false, not_or] at away
    rw [entry?_move (ne_root origin_file) (ne_root goal_file), if_neg away.2, if_neg away.1]
  directory other := by
    rw [entry?_move (ne_root origin_file) (ne_root goal_file)]
    split
    · next target => simp [target, file, goal_file]
    · split
      · next source => simp [source, origin_file]
      · exact Iff.rfl

/-- What can come of renaming. -/
inductive Renaming (disk : Disk) (source target : String) : Except Cause Unit → Disk → Prop
  | refused (cause : Cause) : Renaming disk source target (.error cause) disk.afterRequest
  /-- Both paths lead to one entry, which stays. -/
  | same (resolved : disk.resolve target = .ok (Path.locate target))
      (unslashed : Path.isSlashed target = false)
      (together : Path.locate source = Path.locate target) :
      Renaming disk source target (.ok ()) disk.afterRequest
  /-- The entry takes the place of another one. -/
  | moved {entry : Entry} (resolved : disk.resolve target = .ok (Path.locate target))
      (unslashed : Path.isSlashed target = false)
      (found : disk.entry? (Path.locate source) = some entry)
      (file : disk.entry? (Path.locate target) ≠ some .directory) :
      Renaming disk source target (.ok ())
        (((disk.afterRequest.unlink (Path.locate target)).remove (Path.locate source)).put
          (Path.locate target) entry)

theorem rename_cases {source target : String} {result : Except Cause Unit}
    (renamed : disk.rename source target = (result, after)) :
    Renaming disk source target result after := by
  unfold rename at renamed
  split at renamed
  · cases renamed
    exact .refused _
  · dsimp only at renamed
    split at renamed
    · cases renamed
      exact .refused _
    · cases renamed
      exact .refused _
    · next origin goal origin_found goal_found =>
      obtain rfl := (resolve_eq_ok.mp origin_found).2.2
      obtain rfl := (resolve_eq_ok.mp goal_found).2.2
      rw [resolve_afterRequest] at goal_found
      split at renamed
      · cases renamed
        exact .refused _
      · rw [entry?_afterRequest] at renamed
        split at renamed
        · cases renamed
          exact .refused _
        · next entry found =>
          split at renamed
          · cases renamed
            exact .refused _
          · next unslashed =>
            have plain : Path.isSlashed target = false := Bool.eq_false_iff.mpr unslashed
            split at renamed
            · cases renamed
              exact .refused _
            · next target_file =>
              split at renamed
              · next together =>
                cases renamed
                exact .same goal_found plain together
              · cases renamed
                exact .moved goal_found plain found target_file

/-- Renaming a file either fails and leaves everything alone, or the target has its bytes. -/
theorem rename_spec {source target : String} {result : Except Cause Unit}
    (renamed : disk.rename source target = (result, after))
    (holds : disk.Holds (Path.locate source) bytes) :
    Keeps [Path.locate source, Path.locate target] disk after ∧
      (result = .ok () → after.Contains target bytes) ∧
      (result ≠ .ok () → Keeps [] disk after) := by
  cases rename_cases renamed with
  | refused cause =>
    exact ⟨keeps_afterRequest .., by simp, fun _ => keeps_afterRequest ..⟩
  | same resolved unslashed together =>
    refine ⟨keeps_afterRequest .., fun _ => ?_, fun failed => absurd rfl failed⟩
    rw [together] at holds
    exact contains_iff.mpr ⟨resolved, unslashed, holds⟩
  | @moved other resolved unslashed found target_file =>
    have source_file : disk.entry? (Path.locate source) ≠ some .directory := holds.file
    obtain ⟨entry, there, contents⟩ := holds
    obtain rfl : entry = other := Option.some.inj (there.symm.trans found)
    have file : entry ≠ .directory := by
      rintro rfl
      exact source_file found
    have moved : Keeps [Path.locate source, Path.locate target] disk.afterRequest
        (((disk.afterRequest.unlink (Path.locate target)).remove
          (Path.locate source)).put (Path.locate target) entry) :=
      @keeps_move disk.afterRequest _ _ source_file target_file _ file
    refine ⟨(keeps_afterRequest ..).trans moved, fun _ => ?_, fun failed => absurd rfl failed⟩
    refine contains_iff.mpr ⟨moved.resolve_eq_ok.mpr resolved, unslashed, entry, ?_, contents⟩
    -- the place of the target has what the source had
    rw [entry?_move (ne_root source_file) (ne_root target_file), if_pos rfl]

end Concordance.Disk
