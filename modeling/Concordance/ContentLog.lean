import Concordance.Disk.Basic
import Concordance.Error
import Concordance.ReadAhead

/-!
# Content log

The content log is a file of records, each a word with the size of its content and then the
content. Records are only ever added, at the end of the file as it is at that moment, so the
offset of a record names it for good. If a record cannot be written completely, what was written
of it stays, and the next record begins after it.

A reader remembers how long the log was when it was opened and accepts no record that ends
later.

Whoever opens the log, to begin with it, to append to it or to read from it, asks the open file for
its size. An open file can always be asked for its size, so nothing fails at that point. Only
`refresh` asks for the size of a file that it has not opened, and it can be refused.
-/
namespace Concordance

structure ContentLog where
  path : String
  /-- Where the next record is expected to begin. -/
  nextOffset : Offset
  deriving DecidableEq, Repr

structure LogReader where
  /-- The log as it is now. -/
  source : Entry
  /-- The size of the log when the reader was opened. -/
  logEnd : UInt64
  deriving DecidableEq

namespace LogReader

/-- Whether the disk refuses a window that begins at `position`. The device that is always full
has no positions, so it refuses none. -/
def refuses (reader : LogReader) (position : Nat) : Bool :=
  reader.source != .full && seekLimit ≤ position + windowSize

/-- Reads the size of the content of the record at `offset`. -/
def recordSize (reader : LogReader) (offset : Offset) : Except StoreError UInt64 :=
  if seekLimit ≤ offset.toNat ∧ reader.source ≠ .full then
    .error (.read (.seek offset) .invalidArgument)
  else if reader.refuses offset.toNat then .error (.read .stringSize .invalidArgument)
  else
    match reader.source.slice offset.toNat Word.width with
    | .error cause => .error (.read .stringSize cause)
    | .ok header =>
      if header.length < Word.width then
        -- the file ends within the size, and the rest of it is asked for from there on
        if reader.refuses (offset.toNat + header.length) then
          .error (.read .stringSize .invalidArgument)
        else .error (.read .stringSize .endOfFile)
      else
        let size := Word.ofBytes header
        if offset.toNat + Word.width + size.toNat ≤ reader.logEnd.toNat then .ok size
        else .error (.read (.record offset) (.pastLogEnd size reader.logEnd))

/-- Reads the content of the record at `offset`, which has `size` bytes. -/
def payload (reader : LogReader) (offset : Offset) (size : UInt64) : Except StoreError Bytes :=
  match reader.source.slice (offset.toNat + Word.width) size.toNat with
  | .error cause => .error (.read .stringBytes cause)
  | .ok bytes =>
    if reader.refuses (offset.toNat + Intake.lastWindow size.toNat bytes.length) then
      .error (.read .stringBytes .invalidArgument)
    else if bytes.length = size.toNat then .ok bytes
    else .error (.read .stringBytes (.shortRead size bytes.length))

/-- Reads the content of the record at `offset` if its size is accepted. -/
def readIf (reader : LogReader) (offset : Offset) (accept : UInt64 → Bool) :
    Except StoreError (Option Bytes) :=
  match reader.recordSize offset with
  | .error error => .error error
  | .ok size => if accept size then (reader.payload offset size).map some else .ok none

/-- Reads the content of the record at `offset`. -/
def read (reader : LogReader) (offset : Offset) : Except StoreError Bytes :=
  match reader.recordSize offset with
  | .error error => .error error
  | .ok size => reader.payload offset size

/-- The text of a record. -/
def textOf (offset : Offset) (bytes : Bytes) : Except StoreError String :=
  match Text.decode? bytes with
  | some text => .ok text
  | none => .error (.corrupt (.notText offset))

/-- Reads the content of the record at `offset` as a text. -/
def readString (reader : LogReader) (offset : Offset) : Except StoreError String :=
  match reader.read offset with
  | .error error => .error error
  | .ok bytes => textOf offset bytes

/-- The reader after the disk has changed. -/
def onDisk (reader : LogReader) (disk : Disk) : LogReader :=
  { reader with source := disk.current reader.source }

end LogReader

namespace ContentLog

/-- Opens the log at `path`, making an empty file if there is none. -/
def openAt (path : String) (disk : Disk) : Except StoreError ContentLog × Disk :=
  match disk.openFile path .appendOrCreate with
  | (.error cause, disk) => (.error (.write (.openFile path) cause), disk)
  | (.ok place, disk) => (.ok ⟨path, UInt64.ofNat (disk.sizeAt place)⟩, disk)

/-- Writes a record at the end of the file at `place`. -/
def writeRecord (disk : Disk) (place : Location) (content : Bytes) :
    Except StoreError Unit × Disk :=
  match disk.extend place 0 (Word.toBytes (UInt64.ofNat content.length)) with
  | (.error cause, disk) => (.error (.write .stringSize cause), disk)
  | (.ok _, disk) =>
    match disk.extend place (disk.sizeAt place) content with
    | (.error cause, disk) => (.error (.write .stringBytes cause), disk)
    | (.ok _, disk) => (.ok (), disk)

/-- Appends a record and tells its offset. A record that is cut short is skipped. -/
def append (log : ContentLog) (content : Bytes) (disk : Disk) :
    Except StoreError Offset × ContentLog × Disk :=
  match disk.openFile log.path .append with
  | (.error cause, disk) => (.error (.write (.openFile log.path) cause), log, disk)
  | (.ok place, disk) =>
    let offset := UInt64.ofNat (disk.sizeAt place)
    match writeRecord disk place content with
    | (.ok _, disk) =>
      let next := offset + UInt64.ofNat Word.width + UInt64.ofNat content.length
      (.ok offset, { log with nextOffset := next }, disk)
    | (.error error, disk) =>
      (.error error, { log with nextOffset := UInt64.ofNat (disk.sizeAt place) }, disk)

/-- Takes the end of the file as the place of the next record. -/
def refresh (log : ContentLog) (disk : Disk) : Except StoreError ContentLog :=
  match disk.find log.path with
  | .error cause => .error (.read (.stat log.path) cause)
  | .ok _ =>
    .ok { log with nextOffset := UInt64.ofNat (disk.sizeAt (Path.locate log.path)) }

/-- Opens a reader. -/
def reader (log : ContentLog) (disk : Disk) : Except StoreError LogReader :=
  match disk.find log.path with
  | .error cause => .error (.read (.openFile log.path) cause)
  | .ok entry => .ok ⟨entry, UInt64.ofNat (disk.sizeAt (Path.locate log.path))⟩

/-- Reads the content of the record at `offset`. -/
def read (log : ContentLog) (disk : Disk) (offset : Offset) : Except StoreError Bytes :=
  match log.reader disk with
  | .error error => .error error
  | .ok reader => reader.read offset

/-- Reads the content of the record at `offset` as a text. -/
def readString (log : ContentLog) (disk : Disk) (offset : Offset) : Except StoreError String :=
  match log.reader disk with
  | .error error => .error error
  | .ok reader => reader.readString offset

end ContentLog

end Concordance
