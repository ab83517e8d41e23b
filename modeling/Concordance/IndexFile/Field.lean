import Concordance.Disk.Basic
import Concordance.Error

/-!
# Writing fields

A file is written field by field through a buffer, which is emptied when a field does not fit
into the space left; a field as large as the buffer goes straight to the file. An error is
reported for the field whose writing met it.
-/
namespace Concordance.IndexFile

/-- Part of a file and what it is. -/
structure Field where
  step : Step
  bytes : Bytes
  deriving DecidableEq, Repr

/-- A word as a field. -/
def Field.word (step : Step) (word : UInt64) : Field := ⟨step, Word.toBytes word⟩

/-- All bytes of a file that is made of `fields`. -/
def encode (fields : List Field) : Bytes := fields.flatMap Field.bytes

/-- The number of bytes that the buffer holds. -/
def capacity : Nat := 8192

/-- Writes one field to the file at `place`, with `buffered` waiting in the buffer, and tells
what is waiting after it. -/
def writeField (place : Location) (buffered : Array UInt8) (field : Field) (disk : Disk) :
    Except StoreError (Array UInt8) × Disk :=
  let size := buffered.size + field.bytes.length
  if size < capacity then (.ok (buffered ++ field.bytes), disk)
  else
    let (emptied, waiting, disk) :=
      -- a field that fills the buffer exactly does not empty it
      if capacity < size then
        let (written, disk) := disk.extend place (disk.sizeAt place) buffered.toList
        (written, #[], disk)
      else (.ok (), buffered, disk)
    match emptied with
    | .error cause => (.error (.write field.step cause), disk)
    | .ok _ =>
      if capacity ≤ field.bytes.length then
        match disk.extend place (disk.sizeAt place) field.bytes with
        | (.error cause, disk) => (.error (.write field.step cause), disk)
        | (.ok _, disk) => (.ok waiting, disk)
      else (.ok (waiting ++ field.bytes), disk)

/-- Writes fields one after the other. -/
def writeFields (place : Location) (buffered : Array UInt8) :
    List Field → Disk → Except StoreError (Array UInt8) × Disk
  | [], disk => (.ok buffered, disk)
  | field :: rest, disk =>
    match writeField place buffered field disk with
    | (.error error, disk) => (.error error, disk)
    | (.ok buffered, disk) => writeFields place buffered rest disk

/-- Writes a whole file beside `path` and then gives it that path, so that at every moment the
path leads to the old file or to the complete new one. -/
def replaceFile (path : String) (fields : List Field) (disk : Disk) :
    Except StoreError Unit × Disk :=
  let sibling := Path.temporary path
  match disk.openFile sibling .createEmpty with
  | (.error cause, disk) => (.error (.write (.create sibling) cause), disk)
  | (.ok place, disk) =>
    match writeFields place #[] fields disk with
    | (.error error, disk) => (.error error, disk)
    | (.ok buffered, disk) =>
      match disk.extend place (disk.sizeAt place) buffered.toList with
      | (.error cause, disk) => (.error (.write (.flush sibling) cause), disk)
      | (.ok _, disk) =>
        -- the new bytes have to be safe before the old ones lose their name
        match disk.sync place with
        | (.error cause, disk) => (.error (.write (.sync sibling) cause), disk)
        | (.ok _, disk) =>
          match disk.rename sibling path with
          | (.error cause, disk) => (.error (.write (.rename path) cause), disk)
          | (.ok _, disk) => (.ok (), disk)

end Concordance.IndexFile
