import Concordance.Proofs.Store.Searching
import Mathlib.Data.List.Count

/-!
# Sharing records

Strings that can be searched for are stored once. If one is linked again, its record is found under
the first of its terms, no matter whether anybody still refers to it, and nothing is written. Any
other string is appended to the log where it ends, and indexed if it can be searched for.
-/
namespace Concordance

variable {config : Config} {disk disk' : Disk} {log : Bytes} {archive : Archive}
  {store store' : Store} {id : LinkId} {string : String} {offset : Offset}

namespace Store

/-- An offset stands under some term. -/
def IsIndexed (store : Store) (offset : Offset) : Prop :=
  offset ∈ store.terms.entries.flatMap (·.2)

/-- A record under some term holds a string. -/
def HoldsIndexed (store : Store) (disk : Disk) (offset : Offset) (string : String) : Prop :=
  store.IsIndexed offset ∧ store.log.read disk offset = .ok (Text.encode string)

end Store

namespace Coherent

theorem read_eq_ok (coherent : Coherent config disk log archive store)
    (freely : store.ReadsFreely disk) {content : Bytes} (has : HasRecord log offset content) :
    store.log.read disk offset = .ok content := by
  obtain ⟨reader, opened, shows⟩ := Store.reader_eq_ok coherent
  rw [ContentLog.read, opened]
  exact LogReader.read_eq_ok shows (freely reader opened) has

/-- The indexed offsets are those of the archived strings. -/
theorem isIndexed_iff (coherent : Coherent config disk log archive store) :
    store.IsIndexed offset ↔ ∃ string, (offset, string) ∈ archive := by
  rw [Store.IsIndexed, TermIndex.mem_flatMap_entries coherent.indexed.formed]
  constructor
  · rintro ⟨key, listed⟩
    obtain ⟨string, archived, _⟩ := coherent.indexed.mem_offsetsAt.mp listed
    exact ⟨string, archived⟩
  · rintro ⟨string, archived⟩
    -- an archived string has a term to stand under
    obtain ⟨term, has⟩ := List.exists_mem_of_ne_nil _ (coherent.indexed.searched _ archived).2
    exact ⟨Text.encode term, coherent.indexed.mem_offsetsAt.mpr ⟨string, archived, term, has, rfl⟩⟩

theorem holdsIndexed_iff (coherent : Coherent config disk log archive store)
    (freely : store.ReadsFreely disk) :
    store.HoldsIndexed disk offset string ↔ (offset, string) ∈ archive := by
  rw [Store.HoldsIndexed, coherent.isIndexed_iff]
  constructor
  · rintro ⟨⟨held, archived⟩, read⟩
    rw [coherent.read_eq_ok freely (coherent.searchable.hasRecord archived)] at read
    rwa [← Text.encode_injective (Except.ok.inj read)]
  · intro archived
    exact ⟨⟨string, archived⟩, coherent.read_eq_ok freely (coherent.searchable.hasRecord archived)⟩

/-- A string is archived at one offset. -/
theorem offset_unique (coherent : Coherent config disk log archive store) {other : Offset}
    (left : (offset, string) ∈ archive) (right : (other, string) ∈ archive) : offset = other :=
  congrArg Prod.fst (List.inj_on_of_nodup_map coherent.indexed.distinct left right rfl)

end Coherent

namespace Store

/-- Linking an archived string changes nothing but what the identifier refers to. -/
theorem link_of_archived (coherent : Coherent config disk log archive store)
    (freely : store.ReadsFreely disk) (id : LinkId) (archived : (offset, string) ∈ archive) :
    store.link id string disk =
      (.ok offset, { store with links := (store.links.setReference id offset).1 }, disk) := by
  obtain ⟨sound, complete, total⟩ := existing_spec coherent.searchable string
  obtain ⟨found, search⟩ := total freely
  unfold link
  dsimp only
  rw [search]
  cases found with
  | some other =>
    rw [coherent.offset_unique archived (sound other search).2]
  | none =>
    have searches := coherent.indexed.searched _ archived
    exact absurd (List.mem_map_of_mem archived) (complete search searches)

/-- The record that an identifier has been linked to is indexed exactly if its string can be
searched for. -/
theorem isIndexed_link (coherent : Coherent config disk log archive store)
    (linked : store.link id string disk = (.ok offset, store', disk')) :
    store'.IsIndexed offset ↔ config.Searches string := by
  obtain ⟨_, _, after, _, _, success, _⟩ := link_spec coherent linked
  obtain ⟨_, has, archived⟩ := success offset rfl
  rw [after.isIndexed_iff]
  constructor
  · rintro ⟨held, found⟩
    rw [after.searchable.string_unique has (after.searchable.hasRecord found)]
    exact after.indexed.searched _ found
  · intro searches
    exact ⟨string, archived searches⟩

/-- A string has been appended to the log and indexed under its terms, if it can be searched for. -/
structure Appends (config : Config) (store : Store) (log : Bytes) (string : String)
    (offset : Offset) (store' : Store) (disk' : Disk) : Prop where
  contains : disk'.Contains config.logPath (log ++ logRecord (Text.encode string))
  grown : (log ++ logRecord (Text.encode string)).length = log.length + (8 + Text.size string)
  offset_eq : offset.toNat = log.length
  indexed : store'.IsIndexed offset ↔
    Text.size string < config.threshold.toNat ∧ config.tokenizer.split string ≠ []
  listed : ∀ term, store'.terms.offsetsFor term =
    store.terms.offsetsFor term ++ List.replicate ((store.termsOf string).count term) offset

/-- A string that is not archived is appended when it is linked. -/
theorem link_of_new (coherent : Coherent config disk log archive store)
    (new : ∀ offset, (offset, string) ∉ archive)
    (linked : store.link id string disk = (.ok offset, store', disk')) :
    Appends config store log string offset store' disk' := by
  have indexed := isIndexed_link coherent linked
  cases link_cases coherent linked with
  | reused archived => exact absurd archived (new offset)
  | appended _ append =>
    obtain ⟨more, files, _, _, _, _, whole⟩ := files_appended coherent append
    obtain ⟨rfl, rfl⟩ := whole offset rfl
    refine ⟨files.contains, ?_, UInt64.toNat_ofNat_of_lt' (Disk.size_lt coherent.files.bounded),
      indexed, fun term => ?_⟩
    · rw [List.length_append, length_logRecord, Text.length_encode, Word.width]
    · dsimp only
      rw [TermIndex.offsetsFor_eq, TermIndex.offsetsAt_indexTerms coherent.indexed.formed,
        List.count_map_of_injective _ _ (fun _ _ => Text.encode_injective), TermIndex.offsetsFor_eq]

/-- No two indexed records hold the same string. So linking a string that an indexed record holds
gives this record, whether anybody refers to it or not, and leaves the log and the terms as they
are. Every other string that is linked is appended where the log ends, and becomes indexed if it can
be searched for. -/
theorem link_shares (reached : Session.Reached config ⟨some store, disk⟩)
    (freely : store.ReadsFreely disk) :
    (∀ offset, store.IsIndexed offset → ∃ string, store.HoldsIndexed disk offset string) ∧
    (∀ offset other content, store.IsIndexed offset → store.IsIndexed other →
      store.log.read disk offset = .ok content → store.log.read disk other = .ok content →
        offset = other) ∧
    (∀ id string offset, Text.size string < config.threshold.toNat →
      config.tokenizer.split string ≠ [] → store.HoldsIndexed disk offset string →
        store.link id string disk =
          (.ok offset, { store with links := (store.links.setReference id offset).1 }, disk)) ∧
    ∀ id string offset store' disk',
      ¬(Text.size string < config.threshold.toNat ∧ config.tokenizer.split string ≠ [] ∧
        ∃ other, store.HoldsIndexed disk other string) →
      store.link id string disk = (.ok offset, store', disk') →
        ∃ log, disk.Contains config.logPath log ∧
          Appends config store log string offset store' disk' := by
  obtain ⟨log, archive, intact⟩ := reached.intact
  have coherent := intact.coherent store rfl
  simp only [coherent.holdsIndexed_iff freely]
  refine ⟨fun offset => coherent.isIndexed_iff.mp, ?_, fun id string offset _ _ =>
    link_of_archived coherent freely id, ?_⟩
  · intro offset other content indexed other_indexed read other_read
    obtain ⟨string, archived⟩ := coherent.isIndexed_iff.mp indexed
    obtain ⟨held, other_archived⟩ := coherent.isIndexed_iff.mp other_indexed
    have searchable := coherent.searchable
    rw [coherent.read_eq_ok freely (searchable.hasRecord archived)] at read
    rw [coherent.read_eq_ok freely (searchable.hasRecord other_archived), ← read] at other_read
    obtain rfl := Text.encode_injective (Except.ok.inj other_read)
    exact coherent.offset_unique archived other_archived
  · intro id string offset store' disk' unshared linked
    have new (place : Offset) : (place, string) ∉ archive := by
      intro archived
      obtain ⟨short, some⟩ := coherent.indexed.searched _ archived
      exact unshared ⟨short, some, place, archived⟩
    exact ⟨log, coherent.files.contains, link_of_new coherent new linked⟩

/-- The second identifier follows the first one, and nobody refers to the first string any more. -/
def sampleLeft : Except StoreError Offset × Store × Disk :=
  sampleMoved.2.1.link 2 "cd ab" sampleMoved.2.2

/-- A string that is just too long to be searched for. -/
def sampleLong : Except StoreError Offset × Store × Disk :=
  sampleLeft.2.1.link 3 "ab cd ef" sampleLeft.2.2

/-- The string that nobody refers to is used again, and the long one is appended. -/
theorem link_shares_of_sample :
    sampleLeft.2.1.ownersOf 0 = [] ∧
      (sampleLeft.2.1.link 3 "ab cd" sampleLeft.2.2).1 = .ok 0 ∧
      (sampleLeft.2.1.link 3 "ab cd" sampleLeft.2.2).2.2 = sampleLeft.2.2 ∧
      ∃ log, sampleLeft.2.2.Contains sampleConfig.logPath log ∧
        Appends sampleConfig sampleLeft.2.1 log "ab cd ef" 29 sampleLong.2.1 sampleLong.2.2 := by
  have reached : Session.Reached sampleConfig ⟨some sampleLeft.2.1, sampleLeft.2.2⟩ := by
    rw [sampleLeft]
    exact reached_moved.link 2 "cd ab"
  have freely : sampleLeft.2.1.ReadsFreely sampleLeft.2.2 :=
    readsFreely_of_logEnd 29 (by decide +kernel) (by decide)
  obtain ⟨_, _, shared, appended⟩ := link_shares reached freely
  have holds : sampleLeft.2.1.HoldsIndexed sampleLeft.2.2 0 "ab cd" :=
    ⟨by unfold IsIndexed; decide +kernel, by decide +kernel⟩
  have again := shared 3 "ab cd" 0 (by decide +kernel) (by decide +kernel) holds
  have long : sampleLong = (.ok 29, sampleLong.2.1, sampleLong.2.2) := by
    have succeeded : sampleLong.1 = .ok 29 := by decide +kernel
    rw [← succeeded]
  refine ⟨by decide +kernel, by rw [again], by rw [again], ?_⟩
  exact appended 3 "ab cd ef" 29 _ _ (fun short => absurd short.1 (by decide +kernel)) long

end Store

end Concordance
