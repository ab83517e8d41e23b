import Concordance.IndexFile.Field
import Concordance.IndexFile.Words
import Concordance.TermIndex

/-!
# Term index file

The file begins with the offset at which the log ended when it was saved. Then comes a record
for each term: its size, its bytes, the number of its offsets and the offsets, all numbers being
words.
-/
namespace Concordance

structure TermRecord where
  term : Bytes
  offsets : List Offset
  deriving DecidableEq, Repr

structure TermFile where
  nextOffset : Offset
  records : List TermRecord
  deriving DecidableEq, Repr

namespace TermRecord

open IndexFile

def fields (record : TermRecord) : List Field :=
  [.word .termSize (UInt64.ofNat record.term.length), ⟨.termBytes, record.term⟩,
    .word .termCount (UInt64.ofNat record.offsets.length)] ++
    record.offsets.map (.word .stringOffset)

/-- Takes a record off the front, or finds that none is left. -/
def take? (bytes : Bytes) : Except StoreError (Option (TermRecord × Bytes)) :=
  match takeFirst .termSize bytes with
  | .error error => .error error
  | .ok none => .ok none
  | .ok (some (size, rest)) =>
    match takeBytes .termBytes size rest with
    | .error error => .error error
    | .ok (term, rest) =>
      match takeWord .termCount rest with
      | .error error => .error error
      | .ok (count, rest) =>
        match takeWords .stringOffset [] count.toNat rest with
        | .error error => .error error
        | .ok (offsets, rest) => .ok (some (⟨term, offsets⟩, rest))

theorem take?_length {bytes rest : Bytes} {record : TermRecord}
    (taken : take? bytes = .ok (some (record, rest))) : rest.length < bytes.length := by
  unfold take? at taken
  split at taken
  · simp at taken
  · simp at taken
  · next first =>
    have afterSize := takeFirst_length first
    split at taken
    · simp at taken
    · next term =>
      have afterTerm := takeBytes_length term
      split at taken
      · simp at taken
      · next count =>
        have afterCount := takeWord_length count
        split at taken
        · simp at taken
        · next offsets =>
          have afterOffsets := takeWords_length offsets
          simp only [Except.ok.injEq, Option.some.injEq, Prod.mk.injEq] at taken
          rw [← taken.2]
          simp only [Word.width] at *
          omega

end TermRecord

namespace TermFile

open IndexFile

/-- The parts of the file, in order. -/
def fields (file : TermFile) : List Field :=
  .word .nextOffset file.nextOffset :: file.records.flatMap TermRecord.fields

/-- Reads the bytes of a file. -/
def decode (bytes : Bytes) : Except StoreError TermFile :=
  match takeWord .nextOffset bytes with
  | .error error => .error error
  | .ok (nextOffset, rest) =>
    match takeAll TermRecord.take? TermRecord.take?_length [] rest with
    | .error error => .error error
    | .ok records => .ok ⟨nextOffset, records⟩

/-- The file that holds an index. -/
def ofIndex (nextOffset : Offset) (index : TermIndex) : TermFile :=
  ⟨nextOffset, index.entries.map fun (term, offsets) => ⟨term, offsets⟩⟩

/-- The index that a file describes: its offsets are added term by term. -/
def index (file : TermFile) : TermIndex :=
  file.records.foldl
    (fun index record => record.offsets.foldl (·.append record.term ·) index)
    TermIndex.empty

end TermFile

end Concordance
