import Concordance.ContentLog

/-!
# Readers with a buffer

A reader that is used for several calls has a buffer. What a window has brought and no call has
taken stays there until the next call, and by then the log may have changed. Each call goes to the
offset of its record first, and this empties the buffer.

`LogReader.read` and its relatives speak of single calls and only ask where windows begin. Here
every request of a call is made, one after the other, with whatever is in the buffer at the time.
-/
namespace Concordance

structure ReadBuffer where
  /-- Where the next request begins. -/
  position : Nat
  /-- What has arrived and has not been taken. -/
  waiting : Bytes
  deriving DecidableEq, Repr

namespace ReadBuffer

/-- The buffer of a reader that has just been opened. -/
def empty : ReadBuffer := ⟨0, []⟩

/-- Asks for at most `count` bytes. -/
def request (source : Entry) (count : Nat) (buffer : ReadBuffer) :
    Except Cause Bytes × ReadBuffer :=
  if seekLimit ≤ buffer.position + count ∧ source ≠ .full then (.error .invalidArgument, buffer)
  else
    match source.slice buffer.position count with
    | .error cause => (.error cause, buffer)
    | .ok bytes => (.ok bytes, { buffer with position := buffer.position + bytes.length })

/-- Takes at most `wanted` bytes. If nothing is waiting, a window is asked for, or what is wanted
if that is no smaller. -/
def take (source : Entry) (wanted : Nat) (buffer : ReadBuffer) :
    Except Cause Bytes × ReadBuffer :=
  if buffer.waiting ≠ [] then
    (.ok (buffer.waiting.take wanted), { buffer with waiting := buffer.waiting.drop wanted })
  else if windowSize ≤ wanted then buffer.request source wanted
  else
    match buffer.request source windowSize with
    | (.error cause, buffer) => (.error cause, buffer)
    | (.ok window, buffer) =>
      (.ok (window.take wanted), { buffer with waiting := window.drop wanted })

/-- Takes exactly `wanted` bytes. -/
def takeExactly (source : Entry) (wanted : Nat) (buffer : ReadBuffer) :
    Except Cause Bytes × ReadBuffer :=
  if wanted = 0 then (.ok [], buffer)
  else
    match buffer.take source wanted with
    | (.error cause, buffer) => (.error cause, buffer)
    | (.ok bytes, buffer) =>
      if bytes = [] then (.error .endOfFile, buffer)
      else
        match buffer.takeExactly source (wanted - bytes.length) with
        | (.error cause, buffer) => (.error cause, buffer)
        | (.ok rest, buffer) => (.ok (bytes ++ rest), buffer)
termination_by wanted
decreasing_by
  have some := List.length_pos_iff.mpr (by assumption)
  omega

/-- Collects a content of `size` bytes, or what arrives of it, in portions as `Intake` describes
them. -/
def collect (source : Entry) (size : Nat) (collected : Bytes) (room most : Nat)
    (buffer : ReadBuffer) : Except Cause Bytes × ReadBuffer :=
  if size ≤ collected.length then (.ok collected, buffer)
  else
    let room := if collected.length = room then 2 * room else room
    let portion := min (room - collected.length) most
    match buffer.take source (min portion (size - collected.length)) with
    | (.error cause, buffer) => (.error cause, buffer)
    | (.ok bytes, buffer) =>
      if bytes = [] then (.ok collected, buffer)
      else
        let most := if bytes.length = portion ∧ portion = most then 2 * most else most
        buffer.collect source size (collected ++ bytes) room most
termination_by size - collected.length
decreasing_by
  have some := List.length_pos_iff.mpr (by assumption)
  rw [List.length_append]
  omega

end ReadBuffer

namespace LogReader

/-- Goes to `offset`. -/
def seekThrough (reader : LogReader) (offset : Offset) (buffer : ReadBuffer) :
    Except StoreError Unit × ReadBuffer :=
  if seekLimit ≤ offset.toNat ∧ reader.source ≠ .full then
    (.error (.read (.seek offset) .invalidArgument), buffer)
  else (.ok (), ⟨offset.toNat, []⟩)

/-- Reads the size of the content of the record at `offset`. -/
def recordSizeThrough (reader : LogReader) (offset : Offset) (buffer : ReadBuffer) :
    Except StoreError UInt64 × ReadBuffer :=
  match reader.seekThrough offset buffer with
  | (.error error, buffer) => (.error error, buffer)
  | (.ok _, buffer) =>
    match buffer.takeExactly reader.source Word.width with
    | (.error cause, buffer) => (.error (.read .stringSize cause), buffer)
    | (.ok header, buffer) =>
      let size := Word.ofBytes header
      if offset.toNat + Word.width + size.toNat ≤ reader.logEnd.toNat then (.ok size, buffer)
      else (.error (.read (.record offset) (.pastLogEnd size reader.logEnd)), buffer)

/-- Reads the content of a record whose size has just been read. -/
def payloadThrough (reader : LogReader) (size : UInt64) (buffer : ReadBuffer) :
    Except StoreError Bytes × ReadBuffer :=
  match buffer.collect reader.source size.toNat [] 32 windowSize with
  | (.error cause, buffer) => (.error (.read .stringBytes cause), buffer)
  | (.ok bytes, buffer) =>
    if bytes.length = size.toNat then (.ok bytes, buffer)
    else (.error (.read .stringBytes (.shortRead size bytes.length)), buffer)

/-- Reads the content of the record at `offset` if its size is accepted. -/
def readIfThrough (reader : LogReader) (offset : Offset) (accept : UInt64 → Bool)
    (buffer : ReadBuffer) : Except StoreError (Option Bytes) × ReadBuffer :=
  match reader.recordSizeThrough offset buffer with
  | (.error error, buffer) => (.error error, buffer)
  | (.ok size, buffer) =>
    if accept size then
      let (result, buffer) := reader.payloadThrough size buffer
      (result.map some, buffer)
    else (.ok none, buffer)

/-- Reads the content of the record at `offset`. -/
def readThrough (reader : LogReader) (offset : Offset) (buffer : ReadBuffer) :
    Except StoreError Bytes × ReadBuffer :=
  match reader.recordSizeThrough offset buffer with
  | (.error error, buffer) => (.error error, buffer)
  | (.ok size, buffer) => reader.payloadThrough size buffer

end LogReader

end Concordance
