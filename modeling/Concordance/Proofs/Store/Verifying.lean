import Concordance.Proofs.Store.Searching

/-!
# Searching with indexes from anywhere

Index files may hold anything that can be loaded, and the log anything at all: offsets that lead
into the middle of a record, terms that do not belong to what their offsets lead to, identifiers
under several offsets. A query looks at every candidate and reports an error if one of them cannot
be read as a record. If all of them can, it compares what it has read, and whoever owns a record
that matches is linked to that very record. So answers may be missing, but none is wrong.
-/
namespace Concordance

open Disk (sizeLimit)

/-! ### Records in any log -/

namespace LogReader

/-- The size that stands at an offset of a log. -/
def sizeIn (log : Bytes) (offset : Offset) : UInt64 :=
  Word.ofBytes ((log.drop offset.toNat).take Word.width)

/-- What stands behind the size. -/
def contentIn (log : Bytes) (offset : Offset) : Bytes :=
  (log.drop (offset.toNat + Word.width)).take (sizeIn log offset).toNat

variable {reader : LogReader} {log content : Bytes} {offset : Offset}

/-- Where the log is long enough there is a record, whoever has written it. -/
theorem hasRecord_contentIn
    (inside : offset.toNat + Word.width + (sizeIn log offset).toNat ≤ log.length) :
    HasRecord log offset (contentIn log offset) := by
  have header : ((log.drop offset.toNat).take Word.width).length = Word.width := by
    rw [List.length_take, List.length_drop]
    omega
  have length : (contentIn log offset).length = (sizeIn log offset).toNat := by
    rw [contentIn, List.length_take, List.length_drop]
    omega
  have bytes : Word.toBytes (sizeIn log offset) = (log.drop offset.toNat).take Word.width :=
    Word.toBytes_ofBytes _ header
  refine ⟨(log.drop offset.toNat).drop (Word.width + (sizeIn log offset).toNat), ?_⟩
  rw [logRecord, length, UInt64.ofNat_toNat, bytes, contentIn, ← List.drop_drop, List.append_assoc,
    ← List.drop_drop, List.take_append_drop, List.take_append_drop]

theorem sizeIn_eq (has : HasRecord log offset content) :
    sizeIn log offset = UInt64.ofNat content.length := by
  rw [sizeIn, has.header, Word.ofBytes_toBytes]

theorem isRead_of_recordSize {error : StoreError}
    (failed : reader.recordSize offset = .error error) : error.isRead = true := by
  unfold recordSize at failed
  grind [StoreError.isRead]

theorem isRead_of_readIf {accept : UInt64 → Bool} {error : StoreError}
    (failed : reader.readIf offset accept = .error error) : error.isRead = true := by
  unfold readIf at failed
  split at failed
  · next unsized =>
    cases failed
    exact isRead_of_recordSize unsized
  · split at failed
    · unfold payload at failed
      grind [StoreError.isRead, Except.map]
    · cases failed

/-- Reading a record at once takes the same steps as reading one whose size is accepted. -/
theorem read_of_readIf {accept : UInt64 → Bool}
    (taken : reader.readIf offset accept = .ok (some content)) :
    reader.read offset = .ok content := by
  unfold readIf at taken
  unfold read
  split at taken
  · cases taken
  · next size sized =>
    split at taken
    · cases whole : reader.payload offset size with
      | error error => simp [whole, Except.map] at taken
      | ok bytes =>
        rw [whole] at taken
        obtain rfl : bytes = content := Option.some.inj (Except.ok.inj taken)
        rfl
    · cases taken

/-- What is no file cannot be read. -/
theorem recordSize_of_directory (opened : reader.source = .directory) (offset : Offset) :
    ∃ error, reader.recordSize offset = .error error := by
  unfold recordSize
  rw [opened]
  dsimp only [Entry.slice]
  split
  · exact ⟨_, rfl⟩
  · split <;> exact ⟨_, rfl⟩

/-- Where there is no record, not even a size is read. -/
theorem recordSize_eq_error (shows : reader.Shows log)
    (missing : log.length < offset.toNat + Word.width + (sizeIn log offset).toNat) :
    ∃ error, reader.recordSize offset = .error error := by
  have logEnd := shows.toNat_logEnd
  unfold recordSize
  split
  · exact ⟨_, rfl⟩
  · split
    · exact ⟨_, rfl⟩
    · cases header : reader.source.slice offset.toNat Word.width with
      | error cause => exact ⟨_, rfl⟩
      | ok bytes =>
        dsimp only
        split
        · split <;> exact ⟨_, rfl⟩
        · -- the size has been read, and what is there ends before it says
          refine ⟨_, if_neg ?_⟩
          rw [logEnd, Nat.not_le]
          cases source : reader.source with
          | directory => simp [source, Entry.slice] at header
          | full =>
            have contents := shows.contents
            rw [source] at contents
            obtain rfl : [] = log := Except.ok.inj contents
            simp [Word.width]
          | file number body =>
            have contents := shows.contents
            rw [source] at header contents
            obtain rfl : body.toList = log := Except.ok.inj contents
            obtain rfl : body.slice offset.toNat Word.width = bytes := Except.ok.inj header
            rwa [FileBody.slice_eq, ← sizeIn]

end LogReader

theorem ContentLog.isRead_of_reader {log : ContentLog} {disk : Disk} {error : StoreError}
    (failed : log.reader disk = .error error) : error.isRead = true := by
  unfold reader at failed
  split at failed
  · cases failed
    rfl
  · cases failed

namespace Store

/-! ### Single candidates -/

/-- An offset stands under the first term of a query or, if the query may be only a part of a
string, under any key that this term begins. -/
def IsCandidate (store : Store) (query : String) (how : Matching) (offset : Offset) : Prop :=
  ∃ first, store.config.tokenizer.firstTerm? query = some first ∧
    ∃ key, offset ∈ store.terms.offsetsAt key ∧
      match how with
      | .exact => key = Text.encode first
      | .substring => Text.encode first <+: key

/-- What keeps a candidate from being compared with a query. -/
inductive Unreadable (log : Bytes) (query : String) (how : Matching) (offset : Offset) : Prop
  /-- Its size runs past the end of the log. -/
  | header (past : log.length < offset.toNat + Word.width)
  /-- Its content runs past the end of the log. -/
  | content
      (past : log.length < offset.toNat + Word.width + (LogReader.sizeIn log offset).toNat)
  /-- It has a size that fits, and is no text. -/
  | notText
      (fits : how.sizeFits (LogReader.sizeIn log offset) (UInt64.ofNat (Text.size query)) = true)
      (invalid : Text.decode? (LogReader.contentIn log offset) = none)
  /-- Its size stands where the disk refuses the window that it is read through. -/
  | sizeRefused (far : LogReader.isFar offset.toNat = true)
  /-- It has a size that fits, and the disk refuses the last window that it is read through. -/
  | contentRefused
      (fits : how.sizeFits (LogReader.sizeIn log offset) (UInt64.ofNat (Text.size query)) = true)
      (far : LogReader.isFar (offset.toNat + Intake.lastWindow (LogReader.sizeIn log offset).toNat
        (LogReader.sizeIn log offset).toNat) = true)

variable {reader : LogReader} {log : Bytes} {query : String} {how : Matching} {offset : Offset}

theorem isRead_of_check {error : StoreError}
    (failed : check reader query how offset = .error error) : error.isRead = true := by
  unfold check at failed
  split at failed
  · next unread =>
    cases failed
    exact LogReader.isRead_of_readIf unread
  · cases failed
  · split at failed
    · next undecoded =>
      unfold LogReader.textOf at undecoded
      grind [StoreError.isRead]
    · cases failed

/-- A candidate that matches is a record with the string that has been compared. -/
theorem readString_of_check {content : String}
    (checked : check reader query how offset = .ok (some content)) :
    reader.readString offset = .ok content ∧ how.Holds content query := by
  unfold check at checked
  split at checked
  · cases checked
  · cases checked
  · next bytes read =>
    split at checked
    · cases checked
    · next text decoded =>
      split at checked
      · next fits =>
        cases checked
        refine ⟨?_, Matching.contentFits_iff.mp fits⟩
        rw [LogReader.readString, LogReader.read_of_readIf read]
        exact decoded
      · cases checked

/-- A record of the log can be compared unless it is no text or the disk refuses to have it read. -/
theorem check_of_hasRecord {content : Bytes} (shows : reader.Shows log)
    (has : HasRecord log offset content) :
    (∃ error, check reader query how offset = .error error) ↔
      LogReader.isFar offset.toNat = true ∨
        how.sizeFits (UInt64.ofNat content.length) (UInt64.ofNat (Text.size query)) = true ∧
          (LogReader.isFar
              (offset.toNat + Intake.lastWindow content.length content.length) = true ∨
            Text.decode? content = none) := by
  unfold check
  rw [LogReader.readIf_eq shows has]
  unfold LogReader.outcomeIf LogReader.sizeOutcome LogReader.contentOutcome
  generalize LogReader.isFar offset.toNat = first
  generalize LogReader.isFar
    (offset.toNat + Intake.lastWindow content.length content.length) = last
  cases first with
  | true => simp
  | false =>
    cases fits : how.sizeFits (UInt64.ofNat content.length) (UInt64.ofNat (Text.size query)) with
    | false => simp [fits]
    | true =>
      cases last with
      | true => simp [fits, Except.map]
      | false =>
        cases decoded : Text.decode? content <;>
          simp [fits, decoded, Except.map, LogReader.textOf]

/-- A candidate is refused exactly if it is unreadable. -/
theorem check_eq_error_iff (shows : reader.Shows log) :
    (∃ error, check reader query how offset = .error error) ↔
      Unreadable log query how offset := by
  by_cases inside : offset.toNat + Word.width + (LogReader.sizeIn log offset).toNat ≤ log.length
  · have has := LogReader.hasRecord_contentIn inside
    have size := LogReader.sizeIn_eq has
    have length : (LogReader.contentIn log offset).length =
        (LogReader.sizeIn log offset).toNat := by
      rw [size, UInt64.toNat_ofNat_of_lt' (has.length_lt shows.bounded)]
    rw [check_of_hasRecord shows has, ← size, length]
    constructor
    · rintro (far | ⟨fits, far | invalid⟩)
      · exact .sizeRefused far
      · exact .contentRefused fits far
      · exact .notText fits invalid
    · intro unreadable
      cases unreadable with
      | header past => omega
      | content past => omega
      | notText fits invalid => exact .inr ⟨fits, .inr invalid⟩
      | sizeRefused far => exact .inl far
      | contentRefused fits far => exact .inr ⟨fits, .inl far⟩
  · -- there is no record, so its size cannot be read
    have past := Nat.not_le.mp inside
    obtain ⟨error, failed⟩ := LogReader.recordSize_eq_error shows past
    refine iff_of_true ⟨error, ?_⟩ (.content past)
    rw [check, LogReader.readIf, failed]

theorem isRead_of_verify {found : List (Offset × String)} {candidates : List Offset}
    {error : StoreError} (failed : verify reader query how found candidates = .error error) :
    error.isRead = true := by
  obtain ⟨_, _, refused⟩ := check_of_verify_error failed
  exact isRead_of_check refused

/-! ### Queries -/

variable {store : Store} {disk : Disk}

theorem mem_candidates_iff (formed : store.terms.WellFormed) :
    offset ∈ store.candidates query how ↔ store.IsCandidate query how offset := by
  unfold candidates IsCandidate
  cases store.config.tokenizer.firstTerm? query with
  | none => simp
  | some first =>
    simp only [Option.some.injEq, exists_eq_left']
    cases how with
    | exact =>
      dsimp only
      rw [mem_distinct, TermIndex.offsetsFor_eq]
      simp only [exists_eq_right]
    | substring =>
      dsimp only
      rw [mem_distinct, TermIndex.mem_offsetsForStart formed]
      exact exists_congr fun key => and_comm

theorem check_of_directory (opened : reader.source = .directory) :
    ∃ error, check reader query how offset = .error error := by
  obtain ⟨error, unsized⟩ := LogReader.recordSize_of_directory opened offset
  exact ⟨error, by rw [check, LogReader.readIf, unsized]⟩

/-- A query fails exactly if there are candidates and the log cannot be read, or one of them is
unreadable. -/
theorem verifiedCandidates_eq_error_iff (formed : store.terms.WellFormed)
    (bounded : ∀ log, disk.Contains store.log.path log → log.length ≤ sizeLimit) :
    (∃ error, store.verifiedCandidates disk query how = .error error) ↔
      (∃ offset, store.IsCandidate query how offset) ∧
          (∀ log, ¬disk.Contains store.log.path log) ∨
        ∃ log offset, disk.Contains store.log.path log ∧ store.IsCandidate query how offset ∧
          Unreadable log query how offset := by
  simp only [← mem_candidates_iff formed]
  unfold verifiedCandidates
  cases candidates : store.candidates query how with
  | nil => simp
  | cons first rest =>
    dsimp only
    by_cases there : ∃ log, disk.Contains store.log.path log
    · obtain ⟨log, contains⟩ := there
      obtain ⟨reader, opened, shows⟩ :=
        ContentLog.reader_of_contains contains (bounded log contains)
      rw [opened]
      dsimp only
      rw [verify_eq_error_iff]
      simp only [check_eq_error_iff shows]
      constructor
      · rintro ⟨offset, member, unreadable⟩
        exact .inr ⟨log, offset, contains, member, unreadable⟩
      · rintro (⟨_, missing⟩ | ⟨other, offset, contains', member, unreadable⟩)
        · exact absurd contains (missing log)
        · obtain rfl := contains.unique contains'
          exact ⟨offset, member, unreadable⟩
    · have missing : ∀ log, ¬disk.Contains store.log.path log := fun log contains =>
        there ⟨log, contains⟩
      refine iff_of_true ?_ (.inl ⟨⟨first, List.mem_cons_self⟩, missing⟩)
      cases opened : store.log.reader disk with
      | error error => exact ⟨error, rfl⟩
      | ok reader =>
        -- what could be opened is a directory
        have directory : reader.source = .directory := by
          unfold ContentLog.reader at opened
          split at opened
          · cases opened
          · next entry found =>
            cases opened
            cases entry with
            | directory => rfl
            | file number body => exact absurd ⟨_, found, rfl⟩ (missing body.toList)
            | full => exact absurd ⟨_, found, rfl⟩ (missing [])
        exact verify_eq_error_iff.mpr ⟨first, List.mem_cons_self, check_of_directory directory⟩

theorem isRead_of_verifiedCandidates {error : StoreError}
    (failed : store.verifiedCandidates disk query how = .error error) : error.isRead = true := by
  unfold verifiedCandidates at failed
  split at failed
  · cases failed
  · split at failed
    · next unopened =>
      cases failed
      exact ContentLog.isRead_of_reader unopened
    · exact isRead_of_verify failed

/-- What has been verified is read in the same way when an identifier is looked up. -/
theorem readString_of_verifiedCandidates {verified : List (Offset × String)}
    (same : store.verifiedCandidates disk query how = .ok verified) {entry : Offset × String}
    (member : entry ∈ verified) :
    store.log.readString disk entry.1 = .ok entry.2 ∧ how.Holds entry.2 query := by
  unfold verifiedCandidates at same
  split at same
  · cases same
    exact absurd member List.not_mem_nil
  · cases opened : store.log.reader disk with
    | error error =>
      rw [opened] at same
      cases same
    | ok reader =>
      rw [opened] at same
      rcases (mem_verify same).mp member with old | ⟨_, checked⟩
      · exact absurd old List.not_mem_nil
      · rw [ContentLog.readString, opened]
        exact readString_of_check checked

/-- Whatever has been loaded and whatever the log holds now, a query either fails with a read error,
or the current string of every identifier that it finds matches. It fails exactly if one of the
candidates cannot be read: its size or its content runs past the end of the log, it has a size that
fits and is no text, or it lies so far behind that the disk refuses to have it read. If there are
candidates, it fails without a log as well. -/
theorem identifiersFor_loaded {before disk : Disk} {store loaded : Store}
    (loads : store.load before = (.ok (), loaded))
    (bounded : ∀ log, disk.Contains loaded.log.path log → log.length ≤ sizeLimit)
    (query : String) (how : Matching) :
    (∀ found, loaded.identifiersFor disk query how = .ok found → ∀ id ∈ found,
      ∃ content, loaded.stringFor disk id = .ok content ∧ how.Holds content query) ∧
    (∀ error, loaded.identifiersFor disk query how = .error error → error.isRead = true) ∧
    ((∃ error, loaded.identifiersFor disk query how = .error error) ↔
      (∃ offset, loaded.IsCandidate query how offset) ∧
          (∀ log, ¬disk.Contains loaded.log.path log) ∨
        ∃ log offset, disk.Contains loaded.log.path log ∧
          loaded.IsCandidate query how offset ∧ Unreadable log query how offset) := by
  obtain ⟨formed, sound⟩ : loaded.terms.WellFormed ∧ loaded.links.Sound := by
    cases load_cases loads with
    | loaded => exact ⟨TermFile.wellFormed_index _, LinkFile.sound_index _⟩
  refine ⟨fun found answered id member => ?_, fun error failed => ?_, ?_⟩
  · unfold identifiersFor at answered
    split at answered
    · cases answered
    · next verified same =>
      cases answered
      -- who owns a record that matches refers to it
      obtain ⟨offset, listed, refers⟩ := (mem_ownersOfAll sound).mp member
      obtain ⟨⟨_, content⟩, verified_member, rfl⟩ := List.mem_map.mp listed
      obtain ⟨read, holds⟩ := readString_of_verifiedCandidates same verified_member
      refine ⟨content, ?_, holds⟩
      rw [stringFor, getString, refers]
      dsimp only
      rw [read]
      rfl
  · unfold identifiersFor at failed
    split at failed
    · next refused =>
      cases failed
      exact isRead_of_verifiedCandidates refused
    · cases failed
  · rw [← verifiedCandidates_eq_error_iff formed bounded, identifiersFor]
    cases loaded.verifiedCandidates disk query how <;> simp

/-! ### A record within a record -/

/-- A log of one record, whose content looks like a record itself. -/
def nestedLog : Bytes := logRecord (logRecord (Text.encode "ab"))

/-- An index leads into the middle of the record, to the inner one and to a place where no size
stands. The owners stand under the wrong offset first. -/
def nestedDisk : Disk :=
  let file (number : Nat) (bytes : Bytes) : Entry := .file number (FileBody.empty.append bytes)
  let terms : TermFile := ⟨0, [⟨Text.encode "ab", [8, 8]⟩, ⟨Text.encode "x", [8, 10]⟩]⟩
  let links : LinkFile := ⟨[⟨0, [1, 2]⟩, ⟨8, [1]⟩]⟩
  ((Disk.empty.put ["strings"] (file 0 nestedLog)).put
    ["term_string_offsets"] (file 1 (IndexFile.encode terms.fields))).put
    ["string_offsets_link_hashes"] (file 2 (IndexFile.encode links.fields))

def nestedStore : Store := ((unlinked sampleConfig []).load nestedDisk).2

/-- The inner record is found for the identifier that refers to it. Where no size stands the query
fails. -/
theorem identifiersFor_loaded_of_nested :
    (∃ found, nestedStore.identifiersFor nestedDisk "ab" .exact = .ok found ∧ 1 ∈ found ∧
      nestedStore.stringFor nestedDisk 1 = .ok "ab") ∧
    ∃ error, nestedStore.identifiersFor nestedDisk "x" .exact = .error error := by
  have loads : (unlinked sampleConfig []).load nestedDisk = (.ok (), nestedStore) :=
    Prod.ext (by decide +kernel) rfl
  have contains : nestedDisk.Contains nestedStore.log.path nestedLog :=
    ⟨.file 0 (FileBody.empty.append nestedLog), by decide +kernel, by decide +kernel⟩
  have bounded (log : Bytes) (other : nestedDisk.Contains nestedStore.log.path log) :
      log.length ≤ sizeLimit := by
    rw [other.unique contains]
    decide +kernel
  obtain ⟨sound, _, _⟩ := identifiersFor_loaded loads bounded "ab" .exact
  obtain ⟨_, _, fails⟩ := identifiersFor_loaded loads bounded "x" .exact
  constructor
  · have answer : (nestedStore.identifiersFor nestedDisk "ab" .exact).map (·.toList) = .ok [1] := by
      decide +kernel
    cases found : nestedStore.identifiersFor nestedDisk "ab" .exact with
    | error error => simp [found, Except.map] at answer
    | ok ids =>
      rw [found] at answer
      have listed : ids.toList = [1] := Except.ok.inj answer
      have member : 1 ∈ ids := by
        rw [← Std.TreeSet.mem_toList, listed]
        exact List.mem_singleton_self 1
      obtain ⟨content, current, rfl⟩ := sound ids found 1 member
      exact ⟨ids, rfl, member, current⟩
  · have listed : nestedStore.IsCandidate "x" .exact 10 :=
      ⟨"x", by decide +kernel, Text.encode "x", by decide +kernel, rfl⟩
    exact fails.mpr (.inr ⟨nestedLog, 10, contains, listed, .content (by decide +kernel)⟩)

/-! ### A record behind the last window -/

/-- A record that ends less than a window before the last offset a file can have. -/
def farOffset : Offset := 9223372036854775700

def farRecordDisk : Disk :=
  let file (number : Nat) (bytes : Bytes) : Entry := .file number (FileBody.empty.append bytes)
  let terms : TermFile := ⟨0, [⟨Text.encode "ab", [farOffset]⟩]⟩
  let links : LinkFile := ⟨[⟨farOffset, [1]⟩]⟩
  ((Disk.empty.put ["strings"] (.file 0 (FileBody.append ⟨[.hole farOffset.toNat]⟩
      (logRecord (Text.encode "ab"))))).put
    ["term_string_offsets"] (file 1 (IndexFile.encode terms.fields))).put
    ["string_offsets_link_hashes"] (file 2 (IndexFile.encode links.fields))

def farStore : Store := ((unlinked sampleConfig []).load farRecordDisk).2

/-- The only candidate is a whole record within the log, and a text. Yet the query fails. -/
theorem identifiersFor_far :
    (unlinked sampleConfig []).load farRecordDisk = (.ok (), farStore) ∧
      farStore.candidates "ab" .exact = [farOffset] ∧
      (farStore.log.reader farRecordDisk).map (fun reader =>
          (reader.source.slice farOffset.toNat Word.width,
            reader.source.slice (farOffset.toNat + Word.width) 2,
            decide (farOffset.toNat + Word.width + 2 ≤ reader.logEnd.toNat))) =
        .ok (.ok (Word.toBytes 2), .ok (Text.encode "ab"), true) ∧
      (farStore.identifiersFor farRecordDisk "ab" .exact).map (·.toList) =
        .error (.read .stringSize .invalidArgument) :=
  ⟨Prod.ext (by decide +kernel) rfl, by decide +kernel, by decide +kernel, by decide +kernel⟩

end Store

end Concordance
