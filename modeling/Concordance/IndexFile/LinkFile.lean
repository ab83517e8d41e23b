import Concordance.IndexFile.Field
import Concordance.IndexFile.Words
import Concordance.LinkIndex

/-!
# Link index file

The file has a record for each offset with an owner: the offset, the number of its owners and
their identifiers, all of them words. Which offset an identifier refers to is not stored; it
follows from the owners.
-/
namespace Concordance

structure LinkRecord where
  offset : Offset
  ids : List LinkId
  deriving DecidableEq, Repr

structure LinkFile where
  records : List LinkRecord
  deriving DecidableEq, Repr

namespace LinkRecord

open IndexFile

def fields (record : LinkRecord) : List Field :=
  [.word .stringOffset record.offset, .word .linkCount (UInt64.ofNat record.ids.length)] ++
    record.ids.map (.word .link)

/-- Takes a record off the front, or finds that none is left. -/
def take? (bytes : Bytes) : Except StoreError (Option (LinkRecord × Bytes)) :=
  match takeFirst .stringOffset bytes with
  | .error error => .error error
  | .ok none => .ok none
  | .ok (some (offset, rest)) =>
    match takeWord .linkCount rest with
    | .error error => .error error
    | .ok (count, rest) =>
      match takeWords .link [] count.toNat rest with
      | .error error => .error error
      | .ok (ids, rest) => .ok (some (⟨offset, ids⟩, rest))

theorem take?_length {bytes rest : Bytes} {record : LinkRecord}
    (taken : take? bytes = .ok (some (record, rest))) : rest.length < bytes.length := by
  unfold take? at taken
  split at taken
  · simp at taken
  · simp at taken
  · next first =>
    have afterOffset := takeFirst_length first
    split at taken
    · simp at taken
    · next count =>
      have afterCount := takeWord_length count
      split at taken
      · simp at taken
      · next ids =>
        have afterIds := takeWords_length ids
        simp only [Except.ok.injEq, Option.some.injEq, Prod.mk.injEq] at taken
        rw [← taken.2]
        simp only [Word.width] at *
        omega

end LinkRecord

namespace LinkFile

open IndexFile

/-- The parts of the file, in order. -/
def fields (file : LinkFile) : List Field :=
  file.records.flatMap LinkRecord.fields

/-- Reads the bytes of a file. -/
def decode (bytes : Bytes) : Except StoreError LinkFile :=
  match takeAll LinkRecord.take? LinkRecord.take?_length [] bytes with
  | .error error => .error error
  | .ok records => .ok ⟨records⟩

/-- The file that holds an index. -/
def ofIndex (index : LinkIndex) : LinkFile :=
  ⟨index.entries.map fun (offset, ids) => ⟨offset, ids⟩⟩

/-- The index that a file describes: its links are set one after the other, so of an identifier
that stands in several records the last one counts. -/
def index (file : LinkFile) : LinkIndex :=
  file.records.foldl (fun index record => index.setReferences record.ids record.offset)
    LinkIndex.empty

end LinkFile

end Concordance
