import Concordance.Proofs.ContentLog
import Concordance.Proofs.IndexFile.LinkFile
import Concordance.Proofs.IndexFile.TermFile
import Concordance.Proofs.Invariant.Checks
import Concordance.Proofs.Store.Files

/-!
# Loading saved indexes

Saved indexes are accepted exactly if both files can be read and everything in them lies within the
log as it is now. They are taken over as a whole or not at all. Offsets near the greatest word are
compared as numbers, so none of them is taken for one that lies within the log.
-/
namespace Concordance

/-! ### Reading the files -/

theorem IndexFiles.bytesAt_eq_ok_iff {disk : Disk} {path : String} {first : Step} {bytes : Bytes} :
    bytesAt disk path first = .ok bytes ↔ disk.Contains path bytes := by
  unfold bytesAt Disk.Contains
  cases disk.find path with
  | error cause => simp
  | ok entry =>
    simp only [Except.ok.injEq, exists_eq_left']
    cases entry.contents <;> simp

/-- Both files are read completely, or nothing is. -/
theorem IndexFiles.load_eq_ok_iff {files : IndexFiles} {disk : Disk} {saved : SavedIndexes} :
    files.load disk = .ok saved ↔
      ∃ termBytes termFile linkBytes linkFile,
        disk.Contains files.termPath termBytes ∧ TermFile.decode termBytes = .ok termFile ∧
        disk.Contains files.linkPath linkBytes ∧ LinkFile.decode linkBytes = .ok linkFile ∧
        saved = ⟨termFile.nextOffset, termFile.index, linkFile.index⟩ := by
  constructor
  · intro loaded
    unfold load at loaded
    split at loaded
    · simp at loaded
    · next termBytes termsRead =>
      split at loaded
      · simp at loaded
      · next termFile termsDecoded =>
        split at loaded
        · simp at loaded
        · next linkBytes linksRead =>
          split at loaded
          · simp at loaded
          · next linkFile linksDecoded =>
            exact ⟨termBytes, termFile, linkBytes, linkFile, bytesAt_eq_ok_iff.mp termsRead,
              termsDecoded, bytesAt_eq_ok_iff.mp linksRead, linksDecoded,
              (Except.ok.inj loaded).symm⟩
  · rintro ⟨termBytes, termFile, linkBytes, linkFile, terms, termsDecoded, links, linksDecoded,
      rfl⟩
    rw [load, bytesAt_eq_ok_iff.mpr terms]
    dsimp only
    rw [termsDecoded]
    dsimp only
    rw [bytesAt_eq_ok_iff.mpr links]
    dsimp only
    rw [linksDecoded]

/-- Where the log ends, as the disk reports it. -/
def ContentLog.physicalEnd (log : ContentLog) (disk : Disk) : Offset :=
  UInt64.ofNat (disk.sizeAt (Path.locate log.path))

theorem ContentLog.physicalEnd_eq {log : ContentLog} {disk : Disk} {bytes : Bytes}
    (contains : disk.Contains log.path bytes) :
    log.physicalEnd disk = UInt64.ofNat bytes.length := by
  rw [physicalEnd, Disk.sizeAt_of_holds (Disk.contains_iff.mp contains).2.2]

theorem ContentLog.refresh_eq {log : ContentLog} {disk : Disk} {entry : Entry}
    (found : disk.find log.path = .ok entry) :
    log.refresh disk = .ok { log with nextOffset := log.physicalEnd disk } := by
  rw [refresh, found, physicalEnd]

namespace Store

/-! ### Accepting the indexes -/

theorem isBeyond_eq_false_iff {logEnd offset : Offset} :
    isBeyond logEnd offset = false ↔ offset.toNat + Word.width ≤ logEnd.toNat := by
  rw [isBeyond, decide_eq_false_iff_not, Nat.not_lt]

/-- Nothing is wrong with saved indexes exactly if all they speak of lies within the log. -/
theorem corruption?_eq_none_iff {saved : SavedIndexes} {logEnd : Offset}
    (terms : saved.terms.WellFormed) (links : saved.links.Filled) :
    corruption? saved logEnd = none ↔
      saved.nextOffset ≤ logEnd ∧
        (∀ key, ∀ offset ∈ saved.terms.offsetsAt key,
          offset.toNat + Word.width ≤ logEnd.toNat) ∧
        ∀ offset, saved.links.ownersOf offset ≠ [] →
          offset.toNat + Word.width ≤ logEnd.toNat := by
  have indexed : saved.terms.entries.find? (·.2.any (isBeyond logEnd)) = none ↔
      ∀ key, ∀ offset ∈ saved.terms.offsetsAt key, offset.toNat + Word.width ≤ logEnd.toNat := by
    simp only [List.find?_eq_none, List.any_eq_true, not_exists, not_and, Bool.not_eq_true,
      isBeyond_eq_false_iff, Prod.forall, TermIndex.mem_entries terms]
    constructor
    · intro all key offset member
      exact all key _ ⟨rfl, List.ne_nil_of_mem member⟩ offset member
    · rintro all key _ ⟨rfl, _⟩ offset member
      exact all key offset member
  have owned : saved.links.entries.find? (isBeyond logEnd ·.1) = none ↔
      ∀ offset, saved.links.ownersOf offset ≠ [] →
        offset.toNat + Word.width ≤ logEnd.toNat := by
    simp only [List.find?_eq_none, Bool.not_eq_true, isBeyond_eq_false_iff, Prod.forall,
      LinkIndex.mem_entries links]
    constructor
    · intro all offset some
      exact all offset _ ⟨rfl, some⟩
    · rintro all offset _ ⟨rfl, some⟩
      exact all offset some
  -- what the search for corruption looks at one after the other is what has to lie within the log
  rw [← indexed, ← owned, corruption?]
  split
  · next later =>
    simp only [reduceCtorEq, false_iff, not_and]
    intro earlier
    exact absurd later (UInt64.not_lt.mpr earlier)
  · next within =>
    have fits := UInt64.not_lt.mp within
    cases saved.terms.entries.find? (·.2.any (isBeyond logEnd)) with
    | some entry => simp
    | none => cases saved.links.entries.find? (isBeyond logEnd ·.1) <;> simp [fits]

/-- Both index files can be read, and all that they speak of lies within the log. -/
structure Loadable (store : Store) (disk : Disk) (termFile : TermFile) (linkFile : LinkFile) :
    Prop where
  terms : ∃ bytes, disk.Contains store.config.termPath bytes ∧
    TermFile.decode bytes = .ok termFile
  links : ∃ bytes, disk.Contains store.config.linkPath bytes ∧
    LinkFile.decode bytes = .ok linkFile
  log : ∃ entry, disk.find store.log.path = .ok entry
  saved : termFile.nextOffset.toNat ≤ (store.log.physicalEnd disk).toNat
  indexed : ∀ record ∈ termFile.records, ∀ offset ∈ record.offsets,
    offset.toNat + Word.width ≤ (store.log.physicalEnd disk).toNat
  owned : ∀ offset, linkFile.index.ownersOf offset ≠ [] →
    offset.toNat + Word.width ≤ (store.log.physicalEnd disk).toNat

/-- The store with the indexes of two files over the log as it is. -/
def withFiles (store : Store) (disk : Disk) (termFile : TermFile) (linkFile : LinkFile) :
    Store where
  config := store.config
  log := { store.log with nextOffset := store.log.physicalEnd disk }
  terms := termFile.index
  links := linkFile.index

theorem corruption?_of_files {termFile : TermFile} {linkFile : LinkFile} {logEnd : Offset} :
    corruption? ⟨termFile.nextOffset, termFile.index, linkFile.index⟩ logEnd = none ↔
      termFile.nextOffset.toNat ≤ logEnd.toNat ∧
        (∀ record ∈ termFile.records, ∀ offset ∈ record.offsets,
          offset.toNat + Word.width ≤ logEnd.toNat) ∧
        ∀ offset, linkFile.index.ownersOf offset ≠ [] →
          offset.toNat + Word.width ≤ logEnd.toNat := by
  -- the index may join records of one term, but it has the same offsets
  have listed : (∀ key, ∀ offset ∈ termFile.index.offsetsAt key,
        offset.toNat + Word.width ≤ logEnd.toNat) ↔
      ∀ record ∈ termFile.records, ∀ offset ∈ record.offsets,
        offset.toNat + Word.width ≤ logEnd.toNat := by
    constructor
    · intro all record member offset inside
      obtain ⟨key, stands⟩ := TermFile.mem_offsetsAt_index.mpr ⟨record, member, inside⟩
      exact all key offset stands
    · intro all key offset stands
      obtain ⟨record, member, inside⟩ := TermFile.mem_offsetsAt_index.mp ⟨key, stands⟩
      exact all record member offset inside
  rw [corruption?_eq_none_iff (TermFile.wellFormed_index termFile)
    (LinkFile.sound_index linkFile).filled, listed, UInt64.le_iff_toNat_le]

/-- Loadable indexes are loaded. -/
theorem Loadable.load {store : Store} {disk : Disk} {termFile : TermFile} {linkFile : LinkFile}
    (loadable : store.Loadable disk termFile linkFile) :
    store.load disk = (.ok (), store.withFiles disk termFile linkFile) := by
  obtain ⟨termBytes, terms, termsDecoded⟩ := loadable.terms
  obtain ⟨linkBytes, links, linksDecoded⟩ := loadable.links
  obtain ⟨entry, found⟩ := loadable.log
  have read : (indexFiles store.config).load disk =
      .ok ⟨termFile.nextOffset, termFile.index, linkFile.index⟩ :=
    IndexFiles.load_eq_ok_iff.mpr ⟨_, _, _, _, terms, termsDecoded, links, linksDecoded, rfl⟩
  have sound := corruption?_of_files.mpr ⟨loadable.saved, loadable.indexed, loadable.owned⟩
  rw [Store.load, read]
  dsimp only
  rw [ContentLog.refresh_eq found]
  dsimp only
  rw [sound, withFiles]

/-- What can come of a load. -/
inductive Loading (store : Store) (disk : Disk) : Except StoreError Unit → Store → Prop
  | loaded {termFile : TermFile} {linkFile : LinkFile}
      (loadable : store.Loadable disk termFile linkFile) :
      Loading store disk (.ok ()) (store.withFiles disk termFile linkFile)
  /-- A file could not be read. -/
  | unread {error : StoreError} : Loading store disk (.error error) store
  /-- The end of the log is known now, and something lies behind it. -/
  | rejected {error : StoreError} :
      Loading store disk (.error error)
        { store with log := { store.log with nextOffset := store.log.physicalEnd disk } }

theorem load_cases {store store' : Store} {disk : Disk} {result : Except StoreError Unit}
    (loaded : store.load disk = (result, store')) : Loading store disk result store' := by
  unfold load at loaded
  split at loaded
  · cases loaded
    exact .unread
  · next saved read =>
    split at loaded
    · cases loaded
      exact .unread
    · next log refreshed =>
      have found : ∃ entry, disk.find store.log.path = .ok entry := by
        unfold ContentLog.refresh at refreshed
        split at refreshed
        · simp at refreshed
        · next entry found => exact ⟨entry, found⟩
      obtain ⟨entry, found⟩ := found
      rw [ContentLog.refresh_eq found] at refreshed
      cases refreshed
      split at loaded
      · cases loaded
        exact .rejected
      · next sound =>
        cases loaded
        -- nothing has been found wrong with what the files say
        obtain ⟨termBytes, termFile, linkBytes, linkFile, terms, termsDecoded, links,
          linksDecoded, rfl⟩ := IndexFiles.load_eq_ok_iff.mp read
        obtain ⟨fits, indexed, owned⟩ := corruption?_of_files.mp sound
        exact .loaded ⟨⟨_, terms, termsDecoded⟩, ⟨_, links, linksDecoded⟩, ⟨entry, found⟩, fits,
          indexed, owned⟩

/-- Indexes that have been loaded pass the checks that need no string. -/
theorem Loadable.checks {store : Store} {disk : Disk} {termFile : TermFile} {linkFile : LinkFile}
    (loadable : store.Loadable disk termFile linkFile) :
    Invariant.ownersMatchReferences.check (store.withFiles disk termFile linkFile) disk = .ok () ∧
      Invariant.offsetsWithinLog.check (store.withFiles disk termFile linkFile) disk = .ok () := by
  have sound := LinkFile.sound_index linkFile
  refine ⟨Invariant.check_ownersMatchReferences.mpr sound,
    Invariant.check_offsetsWithinLog.mpr ⟨fun offset member => ?_, ?_⟩⟩
  · have stands := (TermIndex.mem_flatMap_entries (TermFile.wellFormed_index termFile)).mp member
    obtain ⟨record, inside, listed⟩ := TermFile.mem_offsetsAt_index.mp stands
    exact Invariant.isOutside_eq_false (loadable.indexed record inside offset listed)
  · rintro ⟨offset, ids⟩ member
    obtain ⟨rfl, owned⟩ := (LinkIndex.mem_entries sound.filled).mp member
    exact Invariant.isOutside_eq_false (loadable.owned offset owned)

/-- Whatever the three files hold, a load succeeds exactly if the index files can be read, the log
is there and all offsets lie within it. Then the indexes are those of the files and pass the checks;
otherwise they stay, and at most the end of the log is noticed. -/
theorem load_accepts_iff (store : Store) (disk : Disk) :
    ((store.load disk).1 = .ok () ↔ ∃ termFile linkFile, store.Loadable disk termFile linkFile) ∧
      (∀ termFile linkFile, store.Loadable disk termFile linkFile →
        store.load disk = (.ok (), store.withFiles disk termFile linkFile) ∧
          Invariant.ownersMatchReferences.check (store.withFiles disk termFile linkFile) disk =
            .ok () ∧
          Invariant.offsetsWithinLog.check (store.withFiles disk termFile linkFile) disk =
            .ok ()) ∧
      ∀ error, (store.load disk).1 = .error error →
        (store.load disk).2.terms = store.terms ∧ (store.load disk).2.links = store.links ∧
          ((store.load disk).2.log.nextOffset = store.log.nextOffset ∨
            (store.load disk).2.log.nextOffset = store.log.physicalEnd disk) := by
  refine ⟨⟨fun succeeded => ?_, fun ⟨termFile, linkFile, loadable⟩ => ?_⟩,
    fun termFile linkFile loadable => ⟨loadable.load, loadable.checks⟩, fun error failed => ?_⟩
  · -- only loadable indexes are loaded
    rcases outcome : store.load disk with ⟨result, after⟩
    rw [outcome] at succeeded
    cases succeeded
    cases load_cases outcome with
    | @loaded termFile linkFile loadable => exact ⟨termFile, linkFile, loadable⟩
  · rw [loadable.load]
  · rcases outcome : store.load disk with ⟨result, after⟩
    rw [outcome] at failed
    cases failed
    cases load_cases outcome with
    | unread => exact ⟨rfl, rfl, .inl rfl⟩
    | rejected => exact ⟨rfl, rfl, .inr rfl⟩

/-- A disk with a log of eight bytes, no terms and one link. -/
def linkedDisk (offset : Offset) : Disk :=
  let file (number : Nat) (bytes : Bytes) : Entry := .file number (FileBody.empty.append bytes)
  ((Disk.empty.put ["strings"] (file 0 (Word.toBytes 0))).put
    ["term_string_offsets"] (file 1 (Word.toBytes 0))).put
    ["string_offsets_link_hashes"] (file 2 (IndexFile.encode (LinkFile.mk [⟨offset, [1]⟩]).fields))

/-- A link to the beginning of the log is accepted, one to the greatest offset is not. -/
theorem load_accepts_of_sample :
    (∃ termFile linkFile,
        (unlinked sampleConfig []).Loadable (linkedDisk 0) termFile linkFile) ∧
      ¬∃ termFile linkFile,
        (unlinked sampleConfig []).Loadable (linkedDisk 0xFFFFFFFFFFFFFFFF) termFile linkFile :=
  ⟨(load_accepts_iff _ _).1.mp (by decide +kernel), fun loadable =>
    absurd ((load_accepts_iff _ _).1.mpr loadable) (by decide +kernel)⟩

end Store

end Concordance
