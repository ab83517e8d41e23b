import Concordance.Proofs.LogReader
import Concordance.Proofs.Store.Granted
import Concordance.Proofs.Store.Remembering

/-!
# Links that fail

A string that is linked is first looked for, then its record is written if need be, and only then
the indexes change. So a link that fails leaves the indexes as they are, wherever they come from.
If the string could not be looked for, nothing has happened at all. If its record has not been
written completely, a part of it stays at the end of the log; what could be read before can still be
read, and the next record begins behind that part. When the link is tried again and succeeds, the
identifier has its string, but a log of almost the size that a file can have may refuse to be read.
-/
namespace Concordance

open Disk (sizeLimit)

/-! ### Reading the log that grows -/

namespace ContentLog

variable {log log' : ContentLog} {disk after : Disk} {content : Bytes} {offset : Offset}
  {error : StoreError}

/-- What is read of a log is read of every longer one. -/
theorem read_of_prefix {old new : Bytes} (before : disk.Contains log.path old)
    (now : after.Contains log'.path new) (grown : old <+: new) (bounded : new.length ≤ sizeLimit)
    (taken : log.read disk offset = .ok content) : log'.read after offset = .ok content := by
  obtain ⟨reader, opened, shows⟩ := reader_of_contains before (grown.length_le.trans bounded)
  obtain ⟨later, reopened, shows'⟩ := reader_of_contains now bounded
  rw [read, opened] at taken
  obtain ⟨has, near⟩ := shows.read_eq_ok_iff.mp taken
  rw [read, reopened]
  exact shows'.read_eq_ok_iff.mpr ⟨has.mono grown, near⟩

theorem step_of_writeRecord {place : Location}
    (written : writeRecord disk place content = (.error error, after)) :
    ∃ step cause, error = .write step cause ∧ (step = .stringSize ∨ step = .stringBytes) := by
  unfold writeRecord at written
  split at written
  · cases written
    exact ⟨_, _, rfl, .inl rfl⟩
  · split at written
    · cases written
      exact ⟨_, _, rfl, .inr rfl⟩
    · cases written

/-- What an append that has failed leaves behind. -/
inductive Broken (log : ContentLog) (content : Bytes) (disk : Disk) :
    StoreError → ContentLog → Disk → Prop
  /-- The log could not be opened. -/
  | unopened {cause : Cause} :
      Broken log content disk (.write (.openFile log.path) cause) log disk.afterRequest
  /-- A part of the record has been added, and the next one is expected behind it. -/
  | torn {step : Step} {cause : Cause} {old added : Bytes} {log' : ContentLog} {after : Disk}
      (writing : step = .stringSize ∨ step = .stringBytes)
      (before : disk.Contains log.path old) (part : added <+: logRecord content)
      (cut : added ≠ logRecord content) (now : after.Contains log.path (old ++ added))
      (bounded : (old ++ added).length ≤ sizeLimit) (path : log'.path = log.path)
      (next : log'.nextOffset.toNat = (old ++ added).length) :
      Broken log content disk (.write step cause) log' after

theorem broken_of_append
    (bounded : ∀ bytes, disk.Contains log.path bytes → bytes.length ≤ sizeLimit)
    (appended : log.append content disk = (.error error, log', after)) :
    Broken log content disk error log' after := by
  obtain ⟨rfl, rfl, cause, failed⟩ | ⟨⟨old, before⟩, written⟩ := append_cases appended
  · cases failed
    exact .unopened
  · obtain ⟨step, cause, rfl, writing⟩ := step_of_writeRecord written
    obtain ⟨_, path, _, added, part, now, small, _, cut, unopened | next⟩ :=
      append_spec appended before (bounded old before)
    · -- the step would be another one
      obtain ⟨_, _, _, unopened⟩ := unopened
      cases unopened
      simp at writing
    · refine .torn writing before part (cut _ rfl) now small path ?_
      rw [next, UInt64.toNat_ofNat_of_lt' (Disk.size_lt small)]

end ContentLog

namespace Store

variable {store after again : Store} {disk disk' : Disk} {id : LinkId} {string : String}
  {reader : LogReader} {content : Bytes} {offset : Offset} {error : StoreError}

/-! ### Looking for a record -/

/-- Whoever has written the records, the one that is found holds the content. -/
theorem readIf_of_firstHolding {candidates : List Offset}
    (found : firstHolding reader content candidates = .ok (some offset)) :
    reader.readIf offset (· == UInt64.ofNat content.length) = .ok (some content) := by
  induction candidates with
  | nil => cases found
  | cons candidate rest ih =>
    rw [firstHolding] at found
    split at found
    · cases found
    · next held read =>
      split at found
      · next same =>
        cases found
        rw [read, same]
      · exact ih found

theorem isRead_of_firstHolding {candidates : List Offset}
    (failed : firstHolding reader content candidates = .error error) : error.isRead = true := by
  induction candidates with
  | nil => cases failed
  | cons candidate rest ih =>
    rw [firstHolding] at failed
    split at failed
    · next refused =>
      cases failed
      exact LogReader.isRead_of_readIf refused
    · split at failed
      · cases failed
      · exact ih failed

/-- A record that is used again is read as the string. -/
theorem readString_of_existing {terms : List String}
    (found : store.existing disk terms string = .ok (some offset)) :
    store.log.readString disk offset = .ok string := by
  unfold existing findExact at found
  split at found
  · split at found
    · cases found
    · split at found
      · cases found
      · next reader opened =>
        have read := LogReader.read_of_readIf (readIf_of_firstHolding found)
        rw [ContentLog.readString, opened]
        dsimp only
        rw [LogReader.readString, read]
        simp only [LogReader.textOf, Text.decode?_encode]
  · cases found

theorem isRead_of_existing {terms : List String}
    (failed : store.existing disk terms string = .error error) : error.isRead = true := by
  unfold existing findExact at failed
  split at failed
  · split at failed
    · cases failed
    · split at failed
      · next unopened =>
        cases failed
        exact ContentLog.isRead_of_reader unopened
      · exact isRead_of_firstHolding failed
  · cases failed

/-! ### Linking -/

/-- What can come of linking with any indexes over any log. -/
inductive Attempt (store : Store) (id : LinkId) (string : String) (disk : Disk) :
    Except StoreError Offset → Store → Disk → Prop
  /-- A record with the string has been found. -/
  | reused {offset : Offset} (same : store.log.readString disk offset = .ok string) :
      Attempt store id string disk (.ok offset)
        { store with links := (store.links.setReference id offset).1 } disk
  /-- The string could not be looked for. -/
  | unread {error : StoreError} (failed : error.isRead = true) :
      Attempt store id string disk (.error error) store disk
  /-- The record has not been written completely. -/
  | broken {error : StoreError} {log' : ContentLog} {disk' : Disk}
      (append : store.log.append (Text.encode string) disk = (.error error, log', disk')) :
      Attempt store id string disk (.error error) { store with log := log' } disk'
  /-- The record has been written. -/
  | appended {offset : Offset} {log' : ContentLog} {disk' : Disk}
      (append : store.log.append (Text.encode string) disk = (.ok offset, log', disk')) :
      Attempt store id string disk (.ok offset)
        { store with
          log := log'
          terms := store.terms.indexTerms (store.termsOf string) offset
          links := (store.links.setReference id offset).1 }
        disk'

theorem attempt_of_link {result : Except StoreError Offset}
    (linked : store.link id string disk = (result, after, disk')) :
    Attempt store id string disk result after disk' := by
  unfold link at linked
  dsimp only at linked
  split at linked
  · next failed =>
    cases linked
    exact .unread (isRead_of_existing failed)
  · next found =>
    cases linked
    exact .reused (readString_of_existing found)
  · split at linked
    · next append =>
      cases linked
      exact .broken append
    · next append =>
      cases linked
      exact .appended append

/-- What a link that has failed leaves behind. -/
structure Failed (store : Store) (string : String) (disk : Disk) (error : StoreError)
    (after : Store) (disk' : Disk) : Prop where
  terms : after.terms = store.terms
  links : after.links = store.links
  config : after.config = store.config
  path : after.log.path = store.log.path
  /-- What was in the log still is, and behind it there is less than the record. -/
  log : ∀ old, disk.Contains store.log.path old →
    ∃ added, added <+: logRecord (Text.encode string) ∧
      added ≠ logRecord (Text.encode string) ∧ disk'.Contains store.log.path (old ++ added)
  /-- What could be read before reads the same. -/
  records : ∀ offset content, store.log.read disk offset = .ok content →
    after.log.read disk' offset = .ok content
  /-- A string that cannot be looked for changes nothing. -/
  lookup : error.isRead = true → after = store ∧ disk' = disk
  /-- A log that cannot be opened is as it was. -/
  opening : ∀ cause, error = .write (.openFile store.log.path) cause →
    after = store ∧ disk' = disk.afterRequest
  /-- After a write that has failed the next record is expected where the log ends. -/
  writing : ∀ step cause, error = .write step cause → step = .stringSize ∨ step = .stringBytes →
    ∃ now, disk'.Contains store.log.path now ∧ after.log.nextOffset.toNat = now.length
  /-- Nothing else fails. -/
  origin : error.isRead = true ∨ ∃ step cause, error = .write step cause ∧
    (step = .openFile store.log.path ∨ step = .stringSize ∨ step = .stringBytes)

/-- What is read for an identifier is what stands where its link refers to. -/
theorem stringFor_of_reference (refers : store.links.referenceOf? id = some offset) :
    store.stringFor disk id = store.log.readString disk offset := by
  rw [stringFor, getString, refers]
  dsimp only
  cases store.log.readString disk offset <;> rfl

/-- An identifier that has been linked has its string, unless the disk refuses to have it read. -/
theorem stringFor_of_link
    (bounded : ∀ log, disk.Contains store.log.path log → log.length ≤ sizeLimit)
    (linked : store.link id string disk = (.ok offset, after, disk')) :
    after.stringFor disk' id = .ok string ∨
      ∃ error, after.stringFor disk' id = .error error ∧ after.Denies disk' error := by
  have refers : ((store.links.setReference id offset).1).referenceOf? id = some offset := by
    rw [LinkIndex.referenceOf?_setReference, if_pos rfl]
  cases attempt_of_link linked with
  | reused same =>
    refine .inl ?_
    rw [stringFor_of_reference refers]
    exact same
  | @appended _ log' _ append =>
    obtain ⟨_, _, _, failed⟩ | ⟨⟨log, contains⟩, _⟩ := ContentLog.append_cases append
    · cases failed
    · have small := bounded log contains
      obtain ⟨_, path, _, more, _, now, longer, written, _⟩ :=
        ContentLog.append_spec append contains small
      obtain ⟨rfl, rfl⟩ := written _ rfl
      -- the record stands where the log ended, whatever was left there by attempts before
      have has := HasRecord.append log (Text.encode string) (Disk.size_lt small)
      rw [← path] at now
      obtain ⟨reader, opened, shows⟩ := ContentLog.reader_of_contains now longer
      rw [stringFor_of_reference refers]
      dsimp only
      rw [ContentLog.readString, opened]
      dsimp only
      cases read : reader.readString (UInt64.ofNat log.length) with
      | ok text => rw [LogReader.eq_of_readString shows has read]; exact .inl rfl
      | error error =>
        have denied := LogReader.denies_of_readString shows has read
        exact .inr ⟨error, rfl, denies_of_reader opened denied⟩

theorem Failed.of_unread (unread : error.isRead = true) :
    Failed store string disk error store disk where
  terms := rfl
  links := rfl
  config := rfl
  path := rfl
  log old contains :=
    ⟨[], List.nil_prefix, (logRecord_ne_nil _).symm, by rwa [List.append_nil]⟩
  records _ _ taken := taken
  lookup _ := ⟨rfl, rfl⟩
  opening _ same := by
    rw [same] at unread
    cases unread
  writing _ _ same := by
    rw [same] at unread
    cases unread
  origin := .inl unread

theorem Failed.of_broken {log' : ContentLog}
    (broken : store.log.Broken (Text.encode string) disk error log' disk') :
    Failed store string disk error { store with log := log' } disk' := by
  cases broken with
  | unopened =>
    exact {
      terms := rfl
      links := rfl
      config := rfl
      path := rfl
      log := fun old contains =>
        ⟨[], List.nil_prefix, (logRecord_ne_nil _).symm, by rwa [List.append_nil]⟩
      records := fun _ _ taken => taken
      lookup := nofun
      opening := fun _ _ => ⟨rfl, rfl⟩
      writing := fun _ _ same writing => by
        cases same
        simp at writing
      origin := .inr ⟨_, _, rfl, .inl rfl⟩ }
  | @torn _ _ old added _ _ writing before part cut now bounded path next =>
    exact {
      terms := rfl
      links := rfl
      config := rfl
      path := path
      log := fun other contains => ⟨added, part, cut, contains.unique before ▸ now⟩
      records := fun _ _ taken => by
        rw [← path] at now
        exact ContentLog.read_of_prefix before now (List.prefix_append ..) bounded taken
      lookup := nofun
      opening := fun _ same => by
        cases same
        simp at writing
      writing := fun _ _ _ _ => ⟨_, now, next⟩
      origin := .inr ⟨_, _, rfl, .inr writing⟩ }

/-- A link that fails leaves the store as it was, apart from what its log has gained, and a link
that succeeds later is not affected by it. -/
theorem link_failed
    (bounded : ∀ log, disk.Contains store.log.path log → log.length ≤ sizeLimit)
    (failed : store.link id string disk = (.error error, after, disk')) :
    Failed store string disk error after disk' ∧
      ∀ later offset again last,
        (∀ log, Disk.Contains later store.log.path log → log.length ≤ sizeLimit) →
        after.link id string later = (.ok offset, again, last) →
        again.stringFor last id = .ok string ∨
          ∃ error, again.stringFor last id = .error error ∧ again.Denies last error := by
  have left : Failed store string disk error after disk' := by
    cases attempt_of_link failed with
    | unread unread => exact .of_unread unread
    | broken append => exact .of_broken (ContentLog.broken_of_append bounded append)
  refine ⟨left, fun later offset again last small => stringFor_of_link ?_⟩
  rw [left.path]
  exact small

/-! ### Links that are tried again -/

/-- The link that has left a part of a record in the log, tried again. -/
def sampleRetried : Except StoreError Offset × Store × Disk :=
  sampleSecond.2.1.link 2 "ef" sampleSecond.2.2

/-- The record of the second string stands behind what is left of the first attempt. -/
theorem link_failed_of_sample :
    Failed sampleFirst.2.1 "ef" sampleFirst.2.2 (.write .stringSize .noSpace) sampleSecond.2.1
        sampleSecond.2.2 ∧
      sampleRetried.1 = .ok 16 ∧ sampleRetried.2.1.stringFor sampleRetried.2.2 2 = .ok "ef" := by
  have first : sampleFirst.2.2.Contains sampleFirst.2.1.log.path
      (logRecord (Text.encode "ab cd")) := ⟨_, rfl, by decide +kernel⟩
  have second : sampleSecond.2.2.Contains sampleFirst.2.1.log.path
      (logRecord (Text.encode "ab cd") ++ [2, 0, 0]) := ⟨_, rfl, by decide +kernel⟩
  have failed : sampleFirst.2.1.link 2 "ef" sampleFirst.2.2 =
      (.error (.write .stringSize .noSpace), sampleSecond.2.1, sampleSecond.2.2) :=
    Prod.ext (by decide +kernel) rfl
  have retried : sampleSecond.2.1.link 2 "ef" sampleSecond.2.2 =
      (.ok 16, sampleRetried.2.1, sampleRetried.2.2) := Prod.ext (by decide +kernel) rfl
  obtain ⟨left, later⟩ := link_failed
    (fun log contains => by rw [contains.unique first]; decide) failed
  have freely : sampleRetried.2.1.ReadsFreely sampleRetried.2.2 :=
    readsFreely_of_logEnd 26 (by decide +kernel) (by decide)
  refine ⟨left, by decide +kernel, ?_⟩
  rcases later _ _ _ _ (fun log contains => by rw [contains.unique second]; decide) retried with
    same | ⟨_, _, denied⟩
  · exact same
  · exact absurd freely denied.far

/-- A link that leaves three bytes at the end of a log that reaches almost as far as a file can. -/
def distantTorn : Except StoreError Offset × Store × Disk :=
  distantStore.link 1 "ab" { distantDisk with faults := [none, some ⟨.noSpace, 3⟩] }

/-- The same link, tried again. -/
def distantRetried : Except StoreError Offset × Store × Disk :=
  distantTorn.2.1.link 1 "ab" distantTorn.2.2

/-- It succeeds, and the string cannot be read. -/
theorem retry_refused :
    distantTorn.1 = .error (.write .stringSize .noSpace) ∧
      distantRetried.1 = .ok (farOffset + 3) ∧
      distantRetried.2.1.stringFor distantRetried.2.2 1 =
        .error (.read .stringSize .invalidArgument) := by
  decide +kernel

end Store

end Concordance
