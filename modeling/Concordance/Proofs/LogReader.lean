import Concordance.Proofs.ReadBuffer
import Concordance.Proofs.Store.Verifying

/-!
# What a reader can read

A reader remembers how long the log was when it was opened, and the file may be any other when it
is used. A record can be read if its size and its content end within the file and, besides, where
the log ended then, and if the disk refuses no window. What is read are then exactly the bytes
behind the size, and everything else is refused as unreadable. A log that has only grown since can
therefore be read where it could be read before, and nowhere else.
-/
namespace Concordance

open Disk (sizeLimit)

namespace LogReader

variable {reader : LogReader} {number : Nat} {body : FileBody} {offset : Offset} {log : Bytes}

/-- A reader that remembers a log of `logEnd` bytes can read this content in `log`. -/
structure Readable (logEnd : Nat) (log : Bytes) (offset : Offset) (content : Bytes) : Prop where
  header : offset.toNat + Word.width ≤ log.length
  fits : offset.toNat + Word.width + (sizeIn log offset).toNat ≤ min logEnd log.length
  exact : content = contentIn log offset
  near : IsNear offset content

/-- A reader that remembers a log of `logEnd` bytes can read a size in `log` that fits into it. -/
structure Sized (logEnd : Nat) (log : Bytes) (offset : Offset) : Prop where
  header : offset.toNat + Word.width ≤ log.length
  fits : offset.toNat + Word.width + (sizeIn log offset).toNat ≤ logEnd
  near : isFar offset.toNat = false

/-- A part of a log is the same in every longer log. -/
theorem slice_of_prefix {longer : Bytes} (grown : log <+: longer) {start count : Nat}
    (inside : start + count ≤ log.length) :
    (longer.drop start).take count = (log.drop start).take count := by
  obtain ⟨more, rfl⟩ := grown
  rw [List.drop_append_of_le_length (by omega),
    List.take_append_of_le_length (by rw [List.length_drop]; omega)]

/-- A log that grows neither adds nor takes away anything that can be read. -/
theorem readable_iff_of_prefix {longer content : Bytes} (grown : log <+: longer) :
    Readable log.length longer offset content ↔ Readable log.length log offset content := by
  have length := grown.length_le
  have size (header : offset.toNat + Word.width ≤ log.length) :
      sizeIn longer offset = sizeIn log offset := by
    rw [sizeIn, slice_of_prefix grown header, sizeIn]
  have same (fits : offset.toNat + Word.width + (sizeIn log offset).toNat ≤ log.length) :
      contentIn longer offset = contentIn log offset := by
    rw [contentIn, size (by omega), slice_of_prefix grown fits, contentIn]
  constructor
  · rintro ⟨_, fits, exact, near⟩
    have header : offset.toNat + Word.width ≤ log.length := by omega
    rw [size header] at fits
    rw [same (by omega)] at exact
    exact ⟨header, by omega, exact, near⟩
  · rintro ⟨header, fits, exact, near⟩
    rw [← same (by omega)] at exact
    rw [← size header] at fits
    exact ⟨by omega, by omega, exact, near⟩

theorem length_contentIn
    (inside : offset.toNat + Word.width + (sizeIn log offset).toNat ≤ log.length) :
    (contentIn log offset).length = (sizeIn log offset).toNat := by
  rw [contentIn, List.length_take, List.length_drop]
  omega

/-- Which sizes are read. -/
theorem recordSize_eq_ok_iff (file : reader.source = .file number body) {size : UInt64} :
    reader.recordSize offset = .ok size ↔
      size = sizeIn body.toList offset ∧ Sized reader.logEnd.toNat body.toList offset := by
  rw [recordSize_file file]
  constructor
  · intro sized
    split at sized
    · cases sized
    · split at sized
      · cases sized
      · next header taken =>
        obtain ⟨near, inside, rfl⟩ := ReadBuffer.headerIn_eq_ok_iff.mp taken
        split at sized
        · next fits =>
          cases sized
          exact ⟨rfl, inside, fits, near⟩
        · cases sized
  · rintro ⟨rfl, header, fits, near⟩
    have reached : ¬seekLimit ≤ offset.toNat := by
      rw [isFar, decide_eq_false_iff_not] at near
      omega
    rw [if_neg reached, ReadBuffer.headerIn_eq_ok_iff.mpr ⟨near, header, rfl⟩]
    exact if_pos fits

/-- Which contents are read behind a size. -/
theorem payload_eq_ok_iff (file : reader.source = .file number body)
    (header : offset.toNat + Word.width ≤ body.toList.length) {size : UInt64} {content : Bytes} :
    reader.payload offset size = .ok content ↔
      offset.toNat + Word.width + size.toNat ≤ body.toList.length ∧
        content = (body.toList.drop (offset.toNat + Word.width)).take size.toNat ∧
        isFar (offset.toNat + Intake.lastWindow size.toNat size.toNat) = false := by
  have length : ((body.toList.drop (offset.toNat + Word.width)).take size.toNat).length =
      size.toNat ↔ offset.toNat + Word.width + size.toNat ≤ body.toList.length := by
    rw [List.length_take, List.length_drop]
    omega
  unfold payload
  simp only [refuses_file file, file, Entry.slice, FileBody.slice_eq]
  constructor
  · intro taken
    split at taken
    · cases taken
    · next near =>
      split at taken
      · next whole =>
        rw [whole, Bool.not_eq_true] at near
        exact ⟨length.mp whole, (Except.ok.inj taken).symm, near⟩
      · cases taken
  · rintro ⟨inside, rfl, near⟩
    have whole := length.mpr inside
    rw [whole, if_neg (Bool.eq_false_iff.mp near), if_pos rfl]

/-- Which contents are read: only whole ones, and from where they stand. -/
theorem read_eq_ok_iff (file : reader.source = .file number body) {content : Bytes} :
    reader.read offset = .ok content ↔
      Readable reader.logEnd.toNat body.toList offset content := by
  unfold read
  constructor
  · intro taken
    split at taken
    · cases taken
    · next size sized =>
      obtain ⟨rfl, header, fits, first⟩ := (recordSize_eq_ok_iff file).mp sized
      obtain ⟨inside, exact, last⟩ := (payload_eq_ok_iff file header).mp taken
      refine ⟨header, Nat.le_min.mpr ⟨fits, inside⟩, exact, first, ?_⟩
      rwa [exact, ← contentIn, length_contentIn inside]
  · rintro ⟨header, fits, exact, first, last⟩
    obtain ⟨fits, inside⟩ := Nat.le_min.mp fits
    rw [(recordSize_eq_ok_iff file).mpr ⟨rfl, header, fits, first⟩]
    rw [exact, length_contentIn inside] at last
    exact (payload_eq_ok_iff file header).mpr ⟨inside, exact, last⟩

/-- In the log that the reader was opened on these are the records that are near. -/
theorem readable_iff_hasRecord (bounded : log.length ≤ sizeLimit) {content : Bytes} :
    Readable log.length log offset content ↔
      HasRecord log offset content ∧ IsNear offset content := by
  constructor
  · rintro ⟨_, fits, rfl, near⟩
    exact ⟨hasRecord_contentIn (by omega), near⟩
  · rintro ⟨has, near⟩
    have inside := has.end_le
    have size : (sizeIn log offset).toNat = content.length := by
      rw [sizeIn_eq has, UInt64.toNat_ofNat_of_lt' (has.length_lt bounded)]
    refine ⟨by omega, by omega, ?_, near⟩
    rw [contentIn, size, has.payload]

theorem Shows.read_eq_ok_iff (shows : reader.Shows log) {content : Bytes} :
    reader.read offset = .ok content ↔ HasRecord log offset content ∧ IsNear offset content := by
  rw [← readable_iff_hasRecord shows.bounded]
  have contents := shows.contents
  cases source : reader.source with
  | file number body =>
    rw [source] at contents
    obtain rfl := Except.ok.inj contents
    rw [LogReader.read_eq_ok_iff source, shows.toNat_logEnd]
  | directory =>
    rw [source] at contents
    cases contents
  | full =>
    rw [source] at contents
    obtain rfl : [] = log := Except.ok.inj contents
    -- a log without bytes has no record
    have past : ([] : Bytes).length < offset.toNat + Word.width := Nat.add_pos_right _ (by decide)
    refine iff_of_false (fun taken => ?_) fun readable => Nat.not_le.mpr past readable.header
    obtain ⟨error, unsized⟩ := recordSize_eq_error shows (past.trans_le (Nat.le_add_right ..))
    rw [read, unsized] at taken
    cases taken

/-- A content that is wanted in any case is read as `read` reads it. -/
theorem readIf_of_recordSize {size : UInt64} (sized : reader.recordSize offset = .ok size)
    (accept : UInt64 → Bool) :
    reader.readIf offset accept =
      if accept size then (reader.read offset).map some else .ok none := by
  rw [readIf, read, sized]

theorem isRead_of_read {error : StoreError} (failed : reader.read offset = .error error) :
    error.isRead = true := by
  have all : reader.readIf offset (fun _ => true) = .error error := by
    unfold read at failed
    unfold readIf
    split at failed
    · cases failed
      rfl
    · dsimp only
      rw [if_pos rfl, failed]
      rfl
  exact isRead_of_readIf all

/-- Whatever calls have been made before, and whatever the file has become since the reader was
opened, a read gives exactly the content that can be read there, or fails in reading. A read that
may decline a size differs from it only in declining. If the file has only grown, what can be read
is what could be read when the reader was opened. -/
theorem read_exact (file : reader.source = .file number body)
    (remembered : reader.logEnd.toNat ≤ sizeLimit) (offset : Offset) :
    (∀ buffer, (reader.readThrough offset buffer).1 = reader.read offset ∧
      ∀ accept, (reader.readIfThrough offset accept buffer).1 = reader.readIf offset accept) ∧
    (∀ content, reader.read offset = .ok content ↔
      Readable reader.logEnd.toNat body.toList offset content) ∧
    (∀ error, reader.read offset = .error error → error.isRead = true) ∧
    (∀ accept, (Sized reader.logEnd.toNat body.toList offset →
        reader.readIf offset accept =
          if accept (sizeIn body.toList offset) then (reader.read offset).map some
          else .ok none) ∧
      (¬Sized reader.logEnd.toNat body.toList offset →
        ∃ error, reader.readIf offset accept = .error error ∧
          reader.read offset = .error error)) ∧
    ∀ log, reader.logEnd.toNat = log.length → log <+: body.toList → ∀ content,
      reader.read offset = .ok content ↔ Readable log.length log offset content := by
  refine ⟨fun buffer => ⟨readThrough_eq file remembered offset buffer, fun accept =>
    readIfThrough_eq file remembered offset accept buffer⟩, fun content => read_eq_ok_iff file,
    fun error => isRead_of_read, fun accept => ⟨fun sized => ?_, fun unsized => ?_⟩,
    fun log opened grown content => ?_⟩
  · exact readIf_of_recordSize ((recordSize_eq_ok_iff file).mpr ⟨rfl, sized⟩) accept
  · cases failed : reader.recordSize offset with
    | error error => exact ⟨error, by rw [readIf, failed], by rw [read, failed]⟩
    | ok size => exact absurd ((recordSize_eq_ok_iff file).mp failed).2 unsized
  · rw [read_eq_ok_iff file, opened]
    exact readable_iff_of_prefix grown

/-- A log with a record that has been written since the reader was opened. -/
def grownReader : LogReader :=
  ⟨.file 0 ⟨[.written ⟨#[2, 0, 0, 0, 0, 0, 0, 0, 97, 98]⟩,
    .written ⟨#[1, 0, 0, 0, 0, 0, 0, 0, 99]⟩]⟩, 10⟩

/-- The new record is not read, though its bytes are waiting in the buffer. -/
theorem read_exact_of_grown :
    (grownReader.readThrough 0 ⟨19, [1, 0, 0, 0, 0, 0, 0, 0, 99]⟩).1 = .ok [97, 98] ∧
      ∀ content, (grownReader.readThrough 10 ⟨19, [1, 0, 0, 0, 0, 0, 0, 0, 99]⟩).1 ≠
        .ok content := by
  constructor
  · obtain ⟨same, readable, _⟩ := read_exact (show grownReader.source = _ from rfl) (by decide) 0
    rw [(same _).1, readable]
    exact ⟨by decide, by decide, by decide, by decide, by decide +kernel⟩
  · obtain ⟨same, readable, _⟩ := read_exact (show grownReader.source = _ from rfl) (by decide) 10
    intro content
    rw [(same _).1, ne_eq, readable]
    rintro ⟨_, fits, _⟩
    exact absurd fits (by decide)

/-- A reader of a file that is almost as long as a file may be, with a record at its end. -/
def distantReader : LogReader :=
  ⟨.file 0 ⟨[.hole 9223372036854775700, .written ⟨#[2, 0, 0, 0, 0, 0, 0, 0, 97, 98]⟩]⟩,
    9223372036854775710⟩

/-- There a record is complete and within the log, and is refused. -/
theorem read_refused_at_end :
    ∃ body, distantReader.source = .file 0 body ∧
      9223372036854775700 + Word.width ≤ body.toList.length ∧
      9223372036854775700 + Word.width + (sizeIn body.toList 9223372036854775700).toNat ≤
        min distantReader.logEnd.toNat body.toList.length ∧
      distantReader.read 9223372036854775700 = .error (.read .stringSize .invalidArgument) := by
  refine ⟨_, rfl, ?_, ?_, by decide +kernel⟩
  · rw [FileBody.length_toList]
    decide
  · rw [FileBody.length_toList, sizeIn, ← FileBody.slice_eq]
    decide +kernel

end LogReader

end Concordance
