import Concordance.Config
import Concordance.ContentLog
import Concordance.Distinct
import Concordance.IndexFiles
import Concordance.Stats

/-!
# The store

A store links identifiers to strings. The strings are records of the content log. A string
shorter than the threshold is searchable: it is indexed under each of its terms, and linking it
again refers to the record that is already there. The indexes are kept in memory and written on
request; links made since then are forgotten when the store is closed, records are not.
-/
namespace Concordance

structure Store where
  config : Config
  log : ContentLog
  terms : TermIndex
  links : LinkIndex

namespace Store

/-- The files that the indexes of a configuration are saved in. -/
def indexFiles (config : Config) : IndexFiles := ⟨config.termPath, config.linkPath⟩

/-! ### Opening -/

/-- Makes the root directory if it is not there. -/
def ensureRoot (path : String) (disk : Disk) : Except StoreError Unit × Disk :=
  if path.isEmpty then (.error (.invalidPath path none), disk)
  else if disk.isDirectory path then (.ok (), disk)
  else
    match disk.makeDirectories path with
    | (.error cause, disk) => (.error (.invalidPath path (some cause)), disk)
    | (.ok _, disk) => (.ok (), disk)

/-- A store over the content log of a configuration, with nothing linked yet. Saved indexes are
not read. -/
def openEmpty (config : Config) (disk : Disk) : Except StoreError Store × Disk :=
  match config.validate with
  | .error error => (.error error, disk)
  | .ok _ =>
    match ensureRoot config.path disk with
    | (.error error, disk) => (.error error, disk)
    | (.ok _, disk) =>
      match ContentLog.openAt config.logPath disk with
      | (.error error, disk) => (.error error, disk)
      | (.ok log, disk) => (.ok ⟨config, log, TermIndex.empty, LinkIndex.empty⟩, disk)

/-- Whether a record that begins at `offset` would not have its size before `logEnd`. -/
def isBeyond (logEnd offset : Offset) : Bool :=
  logEnd.toNat < offset.toNat + Word.width

/-- What is wrong with saved indexes over a log that ends at `logEnd`, if anything. -/
def corruption? (saved : SavedIndexes) (logEnd : Offset) : Option Corruption :=
  if logEnd < saved.nextOffset then some (.savedPastEnd saved.nextOffset logEnd)
  else
    match saved.terms.entries.find? (·.2.any (isBeyond logEnd)) with
    | some (term, _) => some (.termPastEnd term logEnd)
    | none =>
      match saved.links.entries.find? (isBeyond logEnd ·.1) with
      | some (offset, _) => some (.linkPastEnd offset logEnd)
      | none => none

/-- Replaces the indexes by the saved ones. If these cannot be read, or do not fit the log, the
indexes stay as they are. -/
def load (store : Store) (disk : Disk) : Except StoreError Unit × Store :=
  match (indexFiles store.config).load disk with
  | .error error => (.error error, store)
  | .ok saved =>
    match store.log.refresh disk with
    | .error error => (.error error, store)
    | .ok log =>
      match corruption? saved log.nextOffset with
      | some corruption => (.error (.corrupt corruption), { store with log := log })
      | none => (.ok (), { store with log := log, terms := saved.terms, links := saved.links })

/-- Opens a store with its saved indexes. It is empty only if neither index file is there. -/
def openSaved (config : Config) (disk : Disk) : Except StoreError Store × Disk :=
  match openEmpty config disk with
  | (.error error, disk) => (.error error, disk)
  | (.ok store, disk) =>
    if (indexFiles config).anyExist disk then
      match store.load disk with
      | (.error error, _) => (.error error, disk)
      | (.ok _, store) => (.ok store, disk)
    else (.ok store, disk)

/-- Writes the indexes to their files. -/
def save (store : Store) (disk : Disk) : Except StoreError Unit × Disk :=
  (indexFiles store.config).save ⟨store.log.nextOffset, store.terms, store.links⟩ disk

/-! ### Linking -/

/-- Whether a string is short enough to be searched for. -/
def isSearchable (store : Store) (string : String) : Bool :=
  Text.size string < store.config.threshold.toNat

/-- The terms that a string is indexed under. -/
def termsOf (store : Store) (string : String) : List String :=
  if store.isSearchable string then store.config.tokenizer.split string else []

/-- The first of `candidates` whose record holds exactly `content`. -/
def firstHolding (reader : LogReader) (content : Bytes) :
    (candidates : List Offset) → Except StoreError (Option Offset)
  | [] => .ok none
  | offset :: rest =>
    match reader.readIf offset (· == UInt64.ofNat content.length) with
    | .error error => .error error
    | .ok found =>
      if found = some content then .ok (some offset) else firstHolding reader content rest

/-- The offset of a record that holds `string`, looked up under the string's first term. -/
def findExact (store : Store) (disk : Disk) (firstTerm string : String) :
    Except StoreError (Option Offset) :=
  match distinct (store.terms.offsetsFor firstTerm) with
  | [] => .ok none
  | candidates =>
    match store.log.reader disk with
    | .error error => .error error
    | .ok reader => firstHolding reader (Text.encode string) candidates

/-- The offset of the record to reuse for a string with the given terms, if there is one. -/
def existing (store : Store) (disk : Disk) (terms : List String) (string : String) :
    Except StoreError (Option Offset) :=
  match terms.head? with
  | some first => store.findExact disk first string
  | none => .ok none

/-- Links `id` to `string` and tells the offset it refers to now. -/
def link (store : Store) (id : LinkId) (string : String) (disk : Disk) :
    Except StoreError Offset × Store × Disk :=
  -- a string that is not searchable has no terms, so it is never looked up
  let terms := store.termsOf string
  match store.existing disk terms string with
  | .error error => (.error error, store, disk)
  | .ok (some offset) =>
    (.ok offset, { store with links := (store.links.setReference id offset).1 }, disk)
  | .ok none =>
    match store.log.append (Text.encode string) disk with
    -- the log has moved on, but nothing refers to what was written
    | (.error error, log, disk) => (.error error, { store with log := log }, disk)
    | (.ok offset, log, disk) =>
      (.ok offset,
        { store with
          log := log
          terms := store.terms.indexTerms terms offset
          links := (store.links.setReference id offset).1 },
        disk)

/-! ### Looking up -/

/-- The string that `id` is linked to, or `none` if there is no link. -/
def getString (store : Store) (disk : Disk) (id : LinkId) : Except StoreError (Option String) :=
  match store.links.referenceOf? id with
  | none => .ok none
  | some offset => (store.log.readString disk offset).map some

/-- The string that `id` is linked to. -/
def stringFor (store : Store) (disk : Disk) (id : LinkId) : Except StoreError String :=
  match store.getString disk id with
  | .error error => .error error
  | .ok (some string) => .ok string
  | .ok none => .error (.noString id)

/-- The offset that `id` refers to. -/
def offsetOf? (store : Store) (id : LinkId) : Option Offset := store.links.referenceOf? id

/-- The identifiers that refer to `offset`, in ascending order. -/
def ownersOf (store : Store) (offset : Offset) : List LinkId := store.links.ownersOf offset

def stats (store : Store) : Stats where
  nextOffset := store.log.nextOffset
  termCount := store.terms.size
  linkedIdentifiers := store.links.linkedCount
  storedOffsets := store.links.offsetCount

end Store

end Concordance
