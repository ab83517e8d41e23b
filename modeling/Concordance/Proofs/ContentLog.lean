import Concordance.ContentLog
import Concordance.Proofs.Disk.Requests

/-!
# Records of the log

A record is found at an offset if its bytes stand there, and since the log only grows it is found
there ever after. An append that succeeds adds one record at the end; one that fails adds a part of
a record, which no offset leads to. Reading a record gives its content, unless the disk refuses the
window that it is read through.
-/
namespace Concordance

open Disk (Keeps sizeLimit)

/-- The bytes of the record with the given content. -/
def logRecord (content : Bytes) : Bytes :=
  Word.toBytes (UInt64.ofNat content.length) ++ content

/-- The log has a record with this content at `offset`. -/
def HasRecord (log : Bytes) (offset : Offset) (content : Bytes) : Prop :=
  logRecord content <+: log.drop offset.toNat

@[simp]
theorem length_logRecord (content : Bytes) :
    (logRecord content).length = Word.width + content.length := by
  rw [logRecord, List.length_append, Word.length_toBytes]

theorem logRecord_ne_nil (content : Bytes) : logRecord content ≠ [] :=
  List.ne_nil_of_length_pos (by rw [length_logRecord, Word.width]; omega)

namespace HasRecord

variable {log : Bytes} {offset : Offset} {content : Bytes}

theorem end_le (has : HasRecord log offset content) :
    offset.toNat + Word.width + content.length ≤ log.length := by
  have shorter := has.length_le
  rw [length_logRecord, List.length_drop] at shorter
  have width : 0 < Word.width := Nat.succ_pos _
  omega

/-- A record stays where it is when the log grows. -/
theorem mono {longer : Bytes} (has : HasRecord log offset content) (grown : log <+: longer) :
    HasRecord longer offset content := by
  obtain ⟨more, rfl⟩ := grown
  have inside := has.end_le
  rw [HasRecord, List.drop_append_of_le_length (by omega)]
  exact has.trans (List.prefix_append ..)

/-- The record that begins where the log ended. -/
theorem append (log content : Bytes) (fits : log.length < UInt64.size) :
    HasRecord (log ++ logRecord content) (UInt64.ofNat log.length) content := by
  have start : (log ++ logRecord content).drop (UInt64.ofNat log.length).toNat =
      logRecord content := by
    rw [UInt64.toNat_ofNat_of_lt' fits, List.drop_left]
  exact ⟨[], by rw [start, List.append_nil]⟩

theorem header (has : HasRecord log offset content) :
    (log.drop offset.toNat).take Word.width = Word.toBytes (UInt64.ofNat content.length) := by
  obtain ⟨rest, split⟩ := has
  rw [← split, logRecord, List.append_assoc, List.take_left' (Word.length_toBytes _)]

theorem payload (has : HasRecord log offset content) :
    (log.drop (offset.toNat + Word.width)).take content.length = content := by
  obtain ⟨rest, split⟩ := has
  rw [← List.drop_drop, ← split, logRecord, List.append_assoc,
    List.drop_left' (Word.length_toBytes _), List.take_left]

theorem length_lt (has : HasRecord log offset content) (bounded : log.length ≤ sizeLimit) :
    content.length < UInt64.size := by
  have inside := has.end_le
  exact Disk.size_lt (by omega)

/-- An offset has one content. -/
theorem unique {other : Bytes} (left : HasRecord log offset content)
    (right : HasRecord log offset other) (bounded : log.length ≤ sizeLimit) : content = other := by
  have sizes := congrArg UInt64.toNat (Word.toBytes_injective (left.header.symm.trans right.header))
  rw [UInt64.toNat_ofNat_of_lt' (left.length_lt bounded),
    UInt64.toNat_ofNat_of_lt' (right.length_lt bounded)] at sizes
  rw [← left.payload, sizes, right.payload]

end HasRecord

/-! ### Opening -/

namespace ContentLog

variable {path : String} {disk after : Disk}

/-- A log that is opened is there afterwards, as it was or empty if it was not there, and the next
record is expected where it ends. -/
theorem openAt_ok {log : ContentLog} (opened : openAt path disk = (.ok log, after)) :
    log.path = path ∧ Path.isNamed path = true ∧
      ∃ bytes, after.Contains path bytes ∧ log.nextOffset = UInt64.ofNat bytes.length ∧
        (disk.Contains path bytes ∨ bytes = [] ∧ ∀ other, ¬disk.Contains path other) := by
  unfold openAt at opened
  split at opened
  · simp at opened
  · next place file_disk file_opened =>
    cases opened
    have kept := Disk.keeps_openFile file_opened
    obtain ⟨rfl, resolved, unslashed, named, bytes, holds, reason⟩ := Disk.openFile_ok file_opened
    refine ⟨rfl, named, bytes, ?_, by rw [Disk.sizeAt_of_holds holds], ?_⟩
    · exact Disk.contains_iff.mpr ⟨kept.resolve_eq_ok.mpr resolved, unslashed, holds⟩
    · rcases reason with ⟨empties, _⟩ | ⟨_, held⟩ | ⟨_, rfl, missing⟩
      · cases empties
      · exact .inl (Disk.contains_iff.mpr ⟨resolved, unslashed, held⟩)
      · refine .inr ⟨rfl, fun other contains => ?_⟩
        obtain ⟨_, _, entry, found, _⟩ := Disk.contains_iff.mp contains
        simp [missing] at found

/-- A log that cannot be opened stays what it is. -/
theorem openAt_error {error : StoreError} (opened : openAt path disk = (.error error, after)) :
    after = disk.afterRequest := by
  unfold openAt at opened
  split at opened
  · next refused =>
    cases opened
    cases Disk.openFile_cases refused with
    | refused => rfl
  · simp at opened

end ContentLog

/-! ### Appending -/

namespace ContentLog

/-- Writing a record adds a part of it, all of it exactly if this succeeds. -/
theorem writeRecord_spec {disk after : Disk} {place : Location} {bytes content : Bytes}
    {result : Except StoreError Unit}
    (written : writeRecord disk place content = (result, after))
    (holds : disk.Holds place bytes) :
    Keeps [place] disk after ∧
      (∀ error, result = .error error → error.isWrite = true) ∧
      ∃ more, more <+: logRecord content ∧ (result = .ok () ↔ more = logRecord content) ∧
        after.Holds place (bytes ++ more) ∧
        (bytes.length ≤ sizeLimit → (bytes ++ more).length ≤ sizeLimit) := by
  unfold writeRecord at written
  split at written
  · next failed =>
    cases written
    obtain ⟨kept, more, part, complete, now, bounded⟩ := Disk.extend_spec failed holds
    refine ⟨kept, by simp [StoreError.isWrite], more, part.trans (List.prefix_append ..), ?_, now,
      bounded⟩
    refine iff_of_false (by simp) fun whole => ?_
    -- a whole record would begin with the whole size, and the request would have succeeded
    rw [whole, logRecord] at part
    have size := List.IsPrefix.eq_of_length_le part (by simp)
    rw [whole, logRecord, size] at complete
    simp at complete
  · next sized =>
    obtain ⟨kept, more, _, complete, now, bounded⟩ := Disk.extend_spec sized holds
    obtain rfl := complete.mp rfl
    split at written
    · next failed =>
      -- the size is there and a part of the content
      cases written
      obtain ⟨kept_on, more, part, complete, then_, bounded_on⟩ := Disk.extend_spec failed now
      refine ⟨kept.trans kept_on, by simp [StoreError.isWrite],
        Word.toBytes (UInt64.ofNat content.length) ++ more,
        (List.prefix_append_right_inj _).mpr part, ?_, ?_, ?_⟩
      · rw [logRecord, List.append_cancel_left_eq, ← complete]
        simp
      · rw [← List.append_assoc]
        exact then_
      · rw [← List.append_assoc]
        exact fun small => bounded_on (bounded small)
    · next filled =>
      cases written
      obtain ⟨kept_on, more, part, complete, then_, bounded_on⟩ := Disk.extend_spec filled now
      obtain rfl := (complete.mp rfl).symm
      refine ⟨kept.trans kept_on, by simp, logRecord content, List.prefix_refl _, by simp, ?_, ?_⟩
      · rw [logRecord, ← List.append_assoc]
        exact then_
      · rw [logRecord, ← List.append_assoc]
        exact fun small => bounded_on (bounded small)

variable {log : ContentLog} {disk after : Disk} {bytes content : Bytes}

/-- An append adds a part of a record to the log. If it succeeds, this is the whole record, and its
offset is where the log ended; if it fails, it has failed in writing. Unless nothing has been
written because the log could not be opened, the next record is expected where the log ends now. -/
theorem append_spec {result : Except StoreError Offset} {log' : ContentLog}
    (appended : log.append content disk = (result, log', after))
    (contains : disk.Contains log.path bytes) (bounded : bytes.length ≤ sizeLimit) :
    Keeps [Path.locate log.path] disk after ∧ log'.path = log.path ∧
      (∀ error, result = .error error → error.isWrite = true) ∧
      ∃ more, more <+: logRecord content ∧ after.Contains log.path (bytes ++ more) ∧
        (bytes ++ more).length ≤ sizeLimit ∧
        (∀ offset, result = .ok offset →
          offset = UInt64.ofNat bytes.length ∧ more = logRecord content) ∧
        (∀ error, result = .error error → more ≠ logRecord content) ∧
        ((more = [] ∧ log' = log ∧ ∃ cause, result = .error (.write (.openFile log.path) cause)) ∨
          log'.nextOffset = UInt64.ofNat (bytes ++ more).length) := by
  obtain ⟨resolved, unslashed, holds⟩ := Disk.contains_iff.mp contains
  unfold append at appended
  split at appended
  · next refused =>
    cases appended
    cases Disk.openFile_cases refused with
    | refused =>
      refine ⟨Disk.keeps_afterRequest .., rfl, by simp [StoreError.isWrite], [],
        List.nil_prefix, ?_, ?_, by simp, fun _ _ => (logRecord_ne_nil content).symm,
        .inl ⟨rfl, rfl, _, rfl⟩⟩
      · rw [List.append_nil]
        exact contains
      · rw [List.append_nil]
        exact bounded
  · next place opened_disk opened =>
    have kept := Disk.keeps_openFile opened
    obtain ⟨rfl, _, _, _, before, now, state⟩ := Disk.openFile_ok opened
    -- opening for appending leaves what is there
    have same : disk.Holds (Path.locate log.path) before := by simpa using state
    obtain rfl := holds.unique same
    dsimp only at appended
    have size := Disk.sizeAt_of_holds now
    split at appended
    · next written =>
      -- the whole record is there, and the next offset is computed from its size
      cases appended
      obtain ⟨kept_on, _, more, _, complete, then_, small⟩ := writeRecord_spec written now
      obtain rfl := complete.mp rfl
      have all := kept.trans kept_on
      refine ⟨all, rfl, by simp, logRecord content, List.prefix_refl _, ?_, small bounded, ?_,
        by simp, .inr ?_⟩
      · exact Disk.contains_iff.mpr ⟨all.resolve_eq_ok.mpr resolved, unslashed, then_⟩
      · intro offset same
        rw [size] at same
        exact ⟨(Except.ok.inj same).symm, rfl⟩
      · rw [size, List.length_append, length_logRecord, UInt64.ofNat_add, UInt64.ofNat_add,
          UInt64.add_assoc]
    · next error written_disk written =>
      -- a part of the record may be there, and the disk is asked where the log ends
      cases appended
      obtain ⟨kept_on, failed, more, part, complete, then_, small⟩ := writeRecord_spec written now
      have all := kept.trans kept_on
      refine ⟨all, rfl, fun error same => failed error (by simpa using same), more, part, ?_,
        small bounded, by simp, ?_, .inr ?_⟩
      · exact Disk.contains_iff.mpr ⟨all.resolve_eq_ok.mpr resolved, unslashed, then_⟩
      · intro _ _ whole
        simpa using complete.mpr whole
      · rw [Disk.sizeAt_of_holds then_]

end ContentLog

/-! ### Reading -/

namespace LogReader

/-- Whether a window that begins at `position` reaches past the last offset. -/
def isFar (position : Nat) : Bool := seekLimit ≤ position + windowSize

/-- Before a window that is not too far none is. -/
theorem isFar_eq_false_of_le {position stop : Nat} (before : position ≤ stop)
    (near : stop + windowSize < seekLimit) : isFar position = false := by
  rw [isFar, decide_eq_false_iff_not, Nat.not_le]
  exact Nat.lt_of_le_of_lt (Nat.add_le_add_right before windowSize) near

/-- What comes of reading the size of a record: the first window may be refused. -/
def sizeOutcome (offset : Offset) (content : Bytes) : Except StoreError UInt64 :=
  if isFar offset.toNat then .error (.read .stringSize .invalidArgument)
  else .ok (UInt64.ofNat content.length)

/-- What comes of reading the content of a record: the last window may be refused. -/
def contentOutcome (offset : Offset) (content : Bytes) : Except StoreError Bytes :=
  if isFar (offset.toNat + Intake.lastWindow content.length content.length) then
    .error (.read .stringBytes .invalidArgument)
  else .ok content

/-- What comes of reading a record if its size is accepted. -/
def outcomeIf (offset : Offset) (content : Bytes) (accept : UInt64 → Bool) :
    Except StoreError (Option Bytes) :=
  match sizeOutcome offset content with
  | .error error => .error error
  | .ok size => if accept size then (contentOutcome offset content).map some else .ok none

/-- What comes of reading a record. -/
def outcome (offset : Offset) (content : Bytes) : Except StoreError Bytes :=
  match sizeOutcome offset content with
  | .error error => .error error
  | .ok _ => contentOutcome offset content

/-- The reader was opened on this log. -/
structure Shows (reader : LogReader) (log : Bytes) : Prop where
  contents : reader.source.contents = .ok log
  logEnd : reader.logEnd = UInt64.ofNat log.length
  bounded : log.length ≤ sizeLimit

/-- The disk refuses no window that begins within the log or at its end. -/
def ReadsFreely (reader : LogReader) : Prop :=
  ∀ position ≤ reader.logEnd.toNat, reader.refuses position = false

variable {reader : LogReader} {log content : Bytes} {offset : Offset}

theorem Shows.toNat_logEnd (shows : reader.Shows log) : reader.logEnd.toNat = log.length := by
  rw [shows.logEnd, UInt64.toNat_ofNat_of_lt' (Disk.size_lt shows.bounded)]

/-- Where there is a record, there is a file. -/
theorem Shows.file (shows : reader.Shows log) (has : HasRecord log offset content) :
    ∃ number body, reader.source = .file number body ∧ body.toList = log := by
  have contents := shows.contents
  have inside := has.end_le
  cases source : reader.source with
  | file number body =>
    rw [source] at contents
    exact ⟨number, body, rfl, Except.ok.inj contents⟩
  | directory => simp [source, Entry.contents] at contents
  | full =>
    rw [source] at contents
    -- a device without bytes has no room for a record
    obtain rfl : [] = log := Except.ok.inj contents
    simp [Word.width] at inside

theorem Shows.refuses (shows : reader.Shows log) (has : HasRecord log offset content)
    (position : Nat) : reader.refuses position = isFar position := by
  obtain ⟨number, body, source, _⟩ := shows.file has
  simp [LogReader.refuses, isFar, source]

/-- How long the log is decides whether it can be read freely. -/
theorem Shows.readsFreely_iff (shows : reader.Shows log) :
    reader.ReadsFreely ↔ ∀ position ≤ log.length, isFar position = false := by
  rw [ReadsFreely, shows.toNat_logEnd]
  refine forall₂_congr fun position inside => ?_
  have contents := shows.contents
  cases source : reader.source with
  | file number body => simp [LogReader.refuses, isFar, source]
  | directory => simp [source, Entry.contents] at contents
  | full =>
    rw [source] at contents
    obtain rfl : [] = log := Except.ok.inj contents
    -- the only window of an empty log is its first one
    obtain rfl : position = 0 := Nat.le_zero.mp inside
    simp [LogReader.refuses, isFar, source, seekLimit, windowSize]

theorem recordSize_eq (shows : reader.Shows log) (has : HasRecord log offset content) :
    reader.recordSize offset = sizeOutcome offset content := by
  have refused := shows.refuses has
  have fits := has.length_lt shows.bounded
  have inside := has.end_le
  have bounded := shows.bounded
  obtain ⟨number, body, source, same⟩ := shows.file has
  -- a log is never so long that one of its offsets cannot be looked up
  have near : ¬(seekLimit ≤ offset.toNat ∧ reader.source ≠ .full) := by
    rintro ⟨far, _⟩
    simp only [sizeLimit, seekLimit] at *
    omega
  have header : reader.source.slice offset.toNat Word.width =
      .ok (Word.toBytes (UInt64.ofNat content.length)) := by
    rw [source, Entry.slice, FileBody.slice_eq, same, has.header]
  unfold recordSize sizeOutcome
  rw [if_neg near, refused, header]
  -- what is left to decide is whether the first window is refused
  cases isFar offset.toNat with
  | true => rw [if_pos rfl, if_pos rfl]
  | false =>
    rw [if_neg Bool.false_ne_true, if_neg Bool.false_ne_true]
    dsimp only
    rw [Word.length_toBytes, if_neg (Nat.lt_irrefl _), Word.ofBytes_toBytes,
      UInt64.toNat_ofNat_of_lt' fits, shows.toNat_logEnd, if_pos inside]

theorem eq_of_sizeOutcome {size : UInt64} (sized : sizeOutcome offset content = .ok size) :
    size = UInt64.ofNat content.length := by
  unfold sizeOutcome at sized
  cases far : isFar offset.toNat with
  | true => simp [far] at sized
  | false =>
    rw [far, if_neg Bool.false_ne_true] at sized
    exact (Except.ok.inj sized).symm

theorem eq_of_contentOutcome {bytes : Bytes} (read : contentOutcome offset content = .ok bytes) :
    bytes = content := by
  unfold contentOutcome at read
  cases far : isFar (offset.toNat + Intake.lastWindow content.length content.length) with
  | true => simp [far] at read
  | false =>
    rw [far, if_neg Bool.false_ne_true] at read
    exact (Except.ok.inj read).symm

theorem eq_of_outcomeIf {accept : UInt64 → Bool} {found : Option Bytes}
    (read : outcomeIf offset content accept = .ok found) :
    found = if accept (UInt64.ofNat content.length) then some content else none := by
  unfold outcomeIf at read
  cases sized : sizeOutcome offset content with
  | error error => simp [sized] at read
  | ok size =>
    obtain rfl := eq_of_sizeOutcome sized
    rw [sized] at read
    dsimp only at read
    cases accepted : accept (UInt64.ofNat content.length) with
    | false =>
      rw [accepted, if_neg Bool.false_ne_true] at read
      exact (Except.ok.inj read).symm
    | true =>
      rw [accepted, if_pos rfl] at read
      cases taken : contentOutcome offset content with
      | error error => simp [taken, Except.map] at read
      | ok bytes =>
        obtain rfl := eq_of_contentOutcome taken
        rw [taken] at read
        exact (Except.ok.inj read).symm

theorem payload_eq (shows : reader.Shows log) (has : HasRecord log offset content) :
    reader.payload offset (UInt64.ofNat content.length) = contentOutcome offset content := by
  have refused := shows.refuses has
  have fits := has.length_lt shows.bounded
  obtain ⟨number, body, source, same⟩ := shows.file has
  have payload : reader.source.slice (offset.toNat + Word.width) content.length =
      .ok content := by
    rw [source, Entry.slice, FileBody.slice_eq, same, has.payload]
  unfold LogReader.payload contentOutcome
  rw [UInt64.toNat_ofNat_of_lt' fits, payload]
  dsimp only
  rw [refused, if_pos rfl]

theorem readIf_eq (shows : reader.Shows log) (has : HasRecord log offset content)
    (accept : UInt64 → Bool) : reader.readIf offset accept = outcomeIf offset content accept := by
  unfold readIf outcomeIf
  rw [recordSize_eq shows has]
  cases sized : sizeOutcome offset content with
  | error error => rfl
  | ok size =>
    obtain rfl := eq_of_sizeOutcome sized
    dsimp only
    rw [payload_eq shows has]

theorem read_eq (shows : reader.Shows log) (has : HasRecord log offset content) :
    reader.read offset = outcome offset content := by
  unfold read outcome
  rw [recordSize_eq shows has]
  cases sized : sizeOutcome offset content with
  | error error => rfl
  | ok size =>
    obtain rfl := eq_of_sizeOutcome sized
    exact payload_eq shows has

theorem eq_of_outcome {bytes : Bytes} (read : outcome offset content = .ok bytes) :
    bytes = content := by
  unfold outcome at read
  cases sized : sizeOutcome offset content with
  | error error => simp [sized] at read
  | ok size =>
    rw [sized] at read
    exact eq_of_contentOutcome read

/-- Neither the first window that a record is read through is refused nor the last one. -/
structure IsNear (offset : Offset) (content : Bytes) : Prop where
  first : isFar offset.toNat = false
  last : isFar (offset.toNat + Intake.lastWindow content.length content.length) = false

namespace IsNear

/-- A record is near if it ends a window before the last offset. -/
theorem of_end_lt
    (near : offset.toNat + Word.width + content.length + windowSize < seekLimit) :
    IsNear offset content where
  first := by
    refine isFar_eq_false_of_le ?_ near
    rw [Nat.add_assoc]
    exact Nat.le_add_right ..
  last := by
    refine isFar_eq_false_of_le ?_ near
    rw [Nat.add_assoc]
    exact Nat.add_le_add_left (Intake.lastWindow_le ..) _

/-- All records of a log that can be read freely are near. -/
theorem of_readsFreely (shows : reader.Shows log) (freely : reader.ReadsFreely)
    (has : HasRecord log offset content) : IsNear offset content := by
  have inside := has.end_le
  have free := shows.readsFreely_iff.mp freely
  constructor
  · apply free
    omega
  · -- the last window begins within the record, and so within the log
    have last := Intake.lastWindow_le content.length content.length
    apply free
    omega

variable (near : IsNear offset content)

include near

theorem sizeOutcome_eq : sizeOutcome offset content = .ok (UInt64.ofNat content.length) := by
  rw [sizeOutcome, near.first, if_neg Bool.false_ne_true]

theorem contentOutcome_eq : contentOutcome offset content = .ok content := by
  rw [contentOutcome, near.last, if_neg Bool.false_ne_true]

theorem outcome_eq : outcome offset content = .ok content := by
  unfold outcome
  rw [near.sizeOutcome_eq]
  exact near.contentOutcome_eq

theorem outcomeIf_eq (accept : UInt64 → Bool) :
    outcomeIf offset content accept =
      .ok (if accept (UInt64.ofNat content.length) then some content else none) := by
  unfold outcomeIf
  rw [near.sizeOutcome_eq, near.contentOutcome_eq]
  dsimp only
  cases accept (UInt64.ofNat content.length) <;> rfl

end IsNear

section Freely

variable (shows : reader.Shows log) (freely : reader.ReadsFreely)
  (has : HasRecord log offset content)

include shows freely has

/-- A record that may be read is read as it was written. -/
theorem read_eq_ok : reader.read offset = .ok content := by
  rw [read_eq shows has, (IsNear.of_readsFreely shows freely has).outcome_eq]

theorem readIf_eq_ok (accept : UInt64 → Bool) :
    reader.readIf offset accept =
      .ok (if accept (UInt64.ofNat content.length) then some content else none) := by
  rw [readIf_eq shows has, (IsNear.of_readsFreely shows freely has).outcomeIf_eq]

end Freely

theorem readString_eq_ok {text : String} (shows : reader.Shows log) (freely : reader.ReadsFreely)
    (has : HasRecord log offset (Text.encode text)) : reader.readString offset = .ok text := by
  rw [readString, read_eq_ok shows freely has]
  simp only [textOf, Text.decode?_encode]

/-- The text of a record is the only one that can be read there. -/
theorem eq_of_readString {text read : String} (shows : reader.Shows log)
    (has : HasRecord log offset (Text.encode text)) (same : reader.readString offset = .ok read) :
    read = text := by
  rw [readString, read_eq shows has] at same
  cases taken : outcome offset (Text.encode text) with
  | error error =>
    rw [taken] at same
    cases same
  | ok bytes =>
    rw [taken, eq_of_outcome taken] at same
    simp only [textOf, Text.decode?_encode] at same
    exact (Except.ok.inj same).symm

/-! A record that is there is read unless the disk refuses a window. -/

/-- A window has been refused, so not all of the log can be read freely. -/
structure Denies (reader : LogReader) (error : StoreError) : Prop where
  far : ¬reader.ReadsFreely
  invalid : ∃ step, error = .read step .invalidArgument

section Denied

variable {error : StoreError}

theorem invalid_of_sizeOutcome (failed : sizeOutcome offset content = .error error) :
    ∃ step, error = .read step .invalidArgument := by
  unfold sizeOutcome at failed
  split at failed
  · cases failed
    exact ⟨_, rfl⟩
  · cases failed

theorem invalid_of_contentOutcome (failed : contentOutcome offset content = .error error) :
    ∃ step, error = .read step .invalidArgument := by
  unfold contentOutcome at failed
  split at failed
  · cases failed
    exact ⟨_, rfl⟩
  · cases failed

theorem denies_of_readIf {accept : UInt64 → Bool} (shows : reader.Shows log)
    (has : HasRecord log offset content) (failed : reader.readIf offset accept = .error error) :
    reader.Denies error := by
  constructor
  · intro freely
    rw [readIf_eq_ok shows freely has] at failed
    cases failed
  · rw [readIf_eq shows has] at failed
    unfold outcomeIf at failed
    split at failed
    · next sized =>
      cases failed
      exact invalid_of_sizeOutcome sized
    · split at failed
      · cases taken : contentOutcome offset content with
        | error refused =>
          rw [taken] at failed
          cases failed
          exact invalid_of_contentOutcome taken
        | ok bytes =>
          rw [taken] at failed
          cases failed
      · cases failed

theorem denies_of_readString {text : String} (shows : reader.Shows log)
    (has : HasRecord log offset (Text.encode text))
    (failed : reader.readString offset = .error error) : reader.Denies error := by
  constructor
  · intro freely
    rw [readString_eq_ok shows freely has] at failed
    cases failed
  · rw [readString, read_eq shows has] at failed
    unfold outcome at failed
    cases sized : sizeOutcome offset (Text.encode text) with
    | error refused =>
      rw [sized] at failed
      cases failed
      exact invalid_of_sizeOutcome sized
    | ok size =>
      rw [sized] at failed
      dsimp only at failed
      cases taken : contentOutcome offset (Text.encode text) with
      | error refused =>
        rw [taken] at failed
        cases failed
        exact invalid_of_contentOutcome taken
      | ok bytes =>
        rw [taken, eq_of_contentOutcome taken] at failed
        simp only [textOf, Text.decode?_encode] at failed
        cases failed

end Denied

end LogReader

namespace ContentLog

variable {log : ContentLog} {disk : Disk} {bytes : Bytes}

theorem reader_of_contains (contains : disk.Contains log.path bytes)
    (bounded : bytes.length ≤ sizeLimit) :
    ∃ reader, log.reader disk = .ok reader ∧ reader.Shows bytes := by
  have size := Disk.sizeAt_of_holds (Disk.contains_iff.mp contains).2.2
  obtain ⟨entry, found, contents⟩ := contains
  refine ⟨⟨entry, UInt64.ofNat bytes.length⟩, ?_, contents, rfl, bounded⟩
  rw [reader, found, size]

/-- What comes of reading a record through any handle on its log. -/
theorem read_eq {offset : Offset} {content : Bytes} (contains : disk.Contains log.path bytes)
    (bounded : bytes.length ≤ sizeLimit) (has : HasRecord bytes offset content) :
    log.read disk offset = LogReader.outcome offset content := by
  obtain ⟨reader, opened, shows⟩ := reader_of_contains contains bounded
  rw [read, opened]
  exact LogReader.read_eq shows has

end ContentLog

end Concordance
