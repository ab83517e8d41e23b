import Concordance.IndexFile.Field
import Concordance.Proofs.Disk.Requests

/-!
# Replacing a file

However the fields are spread over the buffer and the file, together they are what has been written
so far. So the file that takes the place of the old one has all fields, and as long as it has not
taken that place only the file beside it has changed. Fields that do not fit into a file are never
all written.
-/
namespace Concordance.IndexFile

open Disk (Keeps sizeLimit)

variable {disk after : Disk} {place : Location} {bytes : Bytes}

/-- Emptying the buffer keeps the bytes together, and nothing is waiting before a field that fills
the buffer by itself. -/
theorem emptied_spec {buffered waiting : Array UInt8} {size : Nat} {outcome : Except Cause Unit}
    {middle : Disk}
    (emptied : (if capacity < buffered.size + size then
        ((disk.extend place (disk.sizeAt place) buffered.toList).1, #[],
          (disk.extend place (disk.sizeAt place) buffered.toList).2)
      else (.ok (), buffered, disk)) = (outcome, waiting, middle))
    (full : capacity ≤ buffered.size + size) (holds : disk.Holds place bytes) :
    Keeps [place] disk middle ∧
      ∃ present, middle.Holds place present ∧
        (bytes.length ≤ sizeLimit → present.length ≤ sizeLimit) ∧
        (outcome = .ok () → present ++ waiting.toList = bytes ++ buffered.toList) ∧
        (capacity ≤ size → waiting = #[]) := by
  split at emptied
  · cases emptied
    obtain ⟨kept, more, _, complete, now, bounded⟩ := Disk.extend_spec rfl holds
    exact ⟨kept, _, now, bounded, fun succeeded => by simp [complete.mp succeeded], fun _ => rfl⟩
  · cases emptied
    refine ⟨.refl .., bytes, holds, id, fun _ => rfl, fun large => ?_⟩
    exact Array.eq_empty_of_size_eq_zero (by omega)

/-- What is in the file and what waits in the buffer are, together, what was there and the field. -/
theorem writeField_spec {buffered : Array UInt8} {field : Field}
    {result : Except StoreError (Array UInt8)}
    (written : writeField place buffered field disk = (result, after))
    (holds : disk.Holds place bytes) :
    Keeps [place] disk after ∧
      ∃ present, after.Holds place present ∧
        (bytes.length ≤ sizeLimit → present.length ≤ sizeLimit) ∧
        ∀ waiting, result = .ok waiting →
          present ++ waiting.toList = bytes ++ buffered.toList ++ field.bytes := by
  unfold writeField at written
  dsimp only at written
  split at written
  · cases written
    refine ⟨.refl .., bytes, holds, id, fun waiting same => ?_⟩
    cases same
    simp
  · next full =>
    generalize emptied : (if capacity < buffered.size + field.bytes.length then
        ((disk.extend place (disk.sizeAt place) buffered.toList).1, #[],
          (disk.extend place (disk.sizeAt place) buffered.toList).2)
      else ((.ok (), buffered, disk) : Except Cause Unit × Array UInt8 × Disk)) = first at written
    obtain ⟨outcome, waiting, middle⟩ := first
    obtain ⟨kept, present, now, bounded, together, empty⟩ :=
      emptied_spec emptied (Nat.not_lt.mp full) holds
    dsimp only at written
    cases outcome with
    | error cause =>
      cases written
      exact ⟨kept, present, now, bounded, by simp⟩
    | ok _ =>
      have joined := together rfl
      dsimp only at written
      split at written
      · next large =>
        -- the field goes to the file at once, behind what the buffer held
        split at written
        · next extended =>
          cases written
          obtain ⟨kept_on, more, _, _, then_, still⟩ := Disk.extend_spec extended now
          exact ⟨kept.trans kept_on, _, then_, still ∘ bounded, by simp⟩
        · next extended =>
          cases written
          obtain ⟨kept_on, more, _, complete, then_, still⟩ := Disk.extend_spec extended now
          obtain rfl := complete.mp rfl
          refine ⟨kept.trans kept_on, _, then_, still ∘ bounded, fun waiting same => ?_⟩
          cases same
          rw [empty large, List.append_nil] at joined
          rw [empty large, List.append_nil, joined]
      · cases written
        refine ⟨kept, present, now, bounded, fun waiting same => ?_⟩
        cases same
        simp [← joined]

theorem writeFields_spec {buffered : Array UInt8} {fields : List Field}
    {result : Except StoreError (Array UInt8)}
    (written : writeFields place buffered fields disk = (result, after))
    (holds : disk.Holds place bytes) :
    Keeps [place] disk after ∧
      ∃ present, after.Holds place present ∧
        (bytes.length ≤ sizeLimit → present.length ≤ sizeLimit) ∧
        ∀ waiting, result = .ok waiting →
          present ++ waiting.toList = bytes ++ buffered.toList ++ encode fields := by
  induction fields generalizing buffered disk bytes with
  | nil =>
    cases written
    refine ⟨.refl .., bytes, holds, id, fun waiting same => ?_⟩
    cases same
    simp [encode]
  | cons field rest ih =>
    rw [writeFields] at written
    split at written
    · next failed =>
      cases written
      obtain ⟨kept, present, now, bounded, _⟩ := writeField_spec failed holds
      exact ⟨kept, present, now, bounded, by simp⟩
    · next waiting middle first =>
      obtain ⟨kept, present, now, bounded, together⟩ := writeField_spec first holds
      -- what is waiting now goes before the fields that are still to come
      obtain ⟨kept_on, present', then_, still, complete⟩ := ih written now
      refine ⟨kept.trans kept_on, present', then_, still ∘ bounded, fun last succeeded => ?_⟩
      rw [complete last succeeded, together waiting rfl, encode, encode, List.flatMap_cons,
        List.append_assoc]

/-- A replacement that fails leaves the file alone, and one that succeeds gives it all fields. -/
theorem replaceFile_spec {path : String} {fields : List Field} {result : Except StoreError Unit}
    (replaced : replaceFile path fields disk = (result, after)) :
    (result ≠ .ok () ∧ Keeps [] disk after) ∨
      (Path.isNamed (Path.temporary path) = true ∧
        (result = .ok () →
          after.Contains path (encode fields) ∧ (encode fields).length ≤ sizeLimit) ∧
        Keeps [Path.locate (Path.temporary path), Path.locate path] disk after ∧
        (result ≠ .ok () → Keeps [Path.locate (Path.temporary path)] disk after)) := by
  unfold replaceFile at replaced
  dsimp only at replaced
  split at replaced
  · next refused =>
    cases replaced
    left
    cases Disk.openFile_cases refused with
    | refused => exact ⟨by simp, Disk.keeps_afterRequest ..⟩
  · next place middle opened =>
    right
    obtain ⟨rfl, _, _, named, bytes, holds, empty⟩ := Disk.openFile_ok opened
    obtain rfl : bytes = [] := by simpa using empty
    have made := Disk.keeps_openFile opened
    refine ⟨named, ?_⟩
    -- as long as the file is only written, no other place has changed
    have writing {error : StoreError}
        (kept : Keeps [Path.locate (Path.temporary path)] disk after) :
        ((.error error : Except StoreError Unit) = .ok () →
            after.Contains path (encode fields) ∧ (encode fields).length ≤ sizeLimit) ∧
          Keeps [Path.locate (Path.temporary path), Path.locate path] disk after ∧
          ((.error error : Except StoreError Unit) ≠ .ok () →
            Keeps [Path.locate (Path.temporary path)] disk after) :=
      ⟨by simp, kept.mono (by simp), fun _ => kept⟩
    split at replaced
    · next failed =>
      cases replaced
      exact writing (made.trans (writeFields_spec failed holds).1)
    · next buffered filled written =>
      obtain ⟨kept, present, now, bounded, together⟩ := writeFields_spec written holds
      have kept := made.trans kept
      split at replaced
      · next failed =>
        cases replaced
        exact writing (kept.trans (Disk.extend_spec failed now).1)
      · next flushed_disk flushed =>
        obtain ⟨kept_on, more, _, complete, whole, still⟩ := Disk.extend_spec flushed now
        obtain rfl := complete.mp rfl
        have kept := kept.trans kept_on
        have small := still (bounded (Nat.zero_le _))
        -- the file beside the old one has all fields now
        rw [together buffered rfl] at whole small
        split at replaced
        · next failed =>
          cases replaced
          exact writing (kept.trans ((Disk.keeps_sync failed).mono (List.nil_subset _)))
        · next synced_disk synced =>
          have safe := Disk.keeps_sync synced
          have kept := kept.trans (safe.mono (List.nil_subset _))
          have whole := (Disk.Holds.congr (safe.elsewhere _ (List.not_mem_nil))).mpr whole
          split at replaced
          · next failed =>
            -- the new file keeps its temporary name
            cases replaced
            obtain ⟨_, _, unchanged⟩ := Disk.rename_spec failed whole
            exact writing (kept.trans ((unchanged (by simp)).mono (List.nil_subset _)))
          · next renamed =>
            cases replaced
            obtain ⟨moved, contains, _⟩ := Disk.rename_spec renamed whole
            exact ⟨fun _ => ⟨contains rfl, small⟩, (kept.mono (by simp)).trans moved,
              fun failed => absurd rfl failed⟩

end Concordance.IndexFile
