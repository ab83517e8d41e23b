import Concordance.Proofs.Store.Coherent
import Concordance.Proofs.Store.Loading
import Concordance.Proofs.Store.Replacing

/-!
# Saved indexes

Replacing one index file leaves the log and the other index file alone, and if it fails the index
file as well. So what is saved at any time are the terms of some earlier archive and, unless the
first attempt to save has broken off between the files, links that were made no later. Loading them
over the log that has grown since then gives back the indexes as they were saved.
-/
namespace Concordance

open Disk (Keeps)

/-- Whatever changes the log only leaves the index files alone. -/
theorem Files.find_index {config : Config} {disk after : Disk} {log : Bytes}
    {changed : List Location} (files : Files config disk log)
    (kept : Keeps changed disk after) (only : changed ⊆ [Path.locate config.logPath])
    {stem : String} (member : stem ∈ Config.stems) (indexes : stem ≠ "strings") :
    Disk.SameAt (config.pathOf stem) disk after := by
  intro entry
  apply kept.find_eq_ok
  intro place resolved changes
  exact files.apart stem member indexes place resolved (List.mem_singleton.mp (only changes))

theorem Files.sameAt_indexes {config : Config} {disk after : Disk} {log : Bytes}
    (files : Files config disk log) (kept : Keeps [Path.locate config.logPath] disk after) :
    Disk.SameAt config.termPath disk after ∧ Disk.SameAt config.linkPath disk after :=
  ⟨files.find_index kept (List.Subset.refl _) Config.terms_mem (by decide),
    files.find_index kept (List.Subset.refl _) Config.links_mem (by decide)⟩

/-! ### What is saved -/

/-- The term file can be read and holds these terms, saved when the log ended at `nextOffset`. -/
def TermsSaved (config : Config) (disk : Disk) (nextOffset : Offset) (terms : TermIndex) : Prop :=
  ∃ bytes, disk.Contains config.termPath bytes ∧
    TermFile.decode bytes = .ok (TermFile.ofIndex nextOffset terms)

/-- The link file can be read and holds these links. -/
def LinksSaved (config : Config) (disk : Disk) (links : LinkIndex) : Prop :=
  ∃ bytes, disk.Contains config.linkPath bytes ∧
    LinkFile.decode bytes = .ok (LinkFile.ofIndex links)

/-- What has been saved can be taken over for a log and an archive: both have held it before, when
the log ended with `before`. -/
structure Snapshot (config : Config) (disk : Disk) (before : Bytes) (earlier : Archive)
    (terms : TermIndex) (links : LinkIndex) : Prop where
  term_file : TermsSaved config disk (UInt64.ofNat before.length) terms
  link_file : LinksSaved config disk links
  indexed : Indexed config before earlier terms
  linked : Linked config before earlier links

/-- What the index files can hold: the link file is not there before the first attempt to save has
succeeded, and from then on what is saved is a snapshot. -/
inductive Saved (config : Config) (disk : Disk) (log : Bytes) (archive : Archive) : Prop
  | unfinished (no_links : disk.pathExists config.linkPath = false)
  | complete {before : Bytes} {earlier : Archive} {terms : TermIndex} {links : LinkIndex}
      (older : before <+: log) (fewer : earlier <+: archive)
      (snapshot : Snapshot config disk before earlier terms links)

variable {config : Config} {disk after : Disk} {log : Bytes} {archive : Archive} {store : Store}

theorem TermsSaved.congr {nextOffset : Offset} {terms : TermIndex}
    (same : ∀ entry,
      after.find config.termPath = .ok entry ↔ disk.find config.termPath = .ok entry)
    (saved : TermsSaved config disk nextOffset terms) :
    TermsSaved config after nextOffset terms := by
  obtain ⟨bytes, contains, decoded⟩ := saved
  exact ⟨bytes, (Disk.contains_congr same).mpr contains, decoded⟩

theorem LinksSaved.congr {links : LinkIndex}
    (same : ∀ entry,
      after.find config.linkPath = .ok entry ↔ disk.find config.linkPath = .ok entry)
    (saved : LinksSaved config disk links) : LinksSaved config after links := by
  obtain ⟨bytes, contains, decoded⟩ := saved
  exact ⟨bytes, (Disk.contains_congr same).mpr contains, decoded⟩

/-- A snapshot stays what it is as long as the paths of the two files lead to the same. -/
theorem Snapshot.congr {before : Bytes} {earlier : Archive} {terms : TermIndex} {links : LinkIndex}
    (snapshot : Snapshot config disk before earlier terms links)
    (same_terms : ∀ entry,
      after.find config.termPath = .ok entry ↔ disk.find config.termPath = .ok entry)
    (same_links : ∀ entry,
      after.find config.linkPath = .ok entry ↔ disk.find config.linkPath = .ok entry) :
    Snapshot config after before earlier terms links :=
  { snapshot with
    term_file := snapshot.term_file.congr same_terms
    link_file := snapshot.link_file.congr same_links }

theorem Snapshot.afterRequest {before : Bytes} {earlier : Archive} {terms : TermIndex}
    {links : LinkIndex} (snapshot : Snapshot config disk before earlier terms links) :
    Snapshot config disk.afterRequest before earlier terms links :=
  snapshot.congr (Disk.SameAt.afterRequest _ _) (Disk.SameAt.afterRequest _ _)

theorem Snapshot.anyExist {before : Bytes} {earlier : Archive} {terms : TermIndex}
    {links : LinkIndex} (snapshot : Snapshot config disk before earlier terms links) :
    (Store.indexFiles config).anyExist disk = true := by
  obtain ⟨_, ⟨entry, found, _⟩, _⟩ := snapshot.link_file
  have there : disk.pathExists config.linkPath = true := by
    rw [Disk.pathExists, found]
  rw [IndexFiles.anyExist, Store.indexFiles, there, Bool.or_true]

namespace Saved

theorem mono {longer : Bytes} {larger : Archive} (saved : Saved config disk log archive)
    (grown : log <+: longer) (kept : archive <+: larger) : Saved config disk longer larger := by
  cases saved with
  | unfinished no_links => exact .unfinished no_links
  | complete older fewer snapshot =>
    exact .complete (older.trans grown) (fewer.trans kept) snapshot

theorem congr (saved : Saved config disk log archive)
    (same_terms : ∀ entry,
      after.find config.termPath = .ok entry ↔ disk.find config.termPath = .ok entry)
    (same_links : ∀ entry,
      after.find config.linkPath = .ok entry ↔ disk.find config.linkPath = .ok entry) :
    Saved config after log archive := by
  cases saved with
  | unfinished no_links =>
    rw [← Disk.pathExists_congr same_links] at no_links
    exact .unfinished no_links
  | complete older fewer snapshot =>
    exact .complete older fewer (snapshot.congr same_terms same_links)

/-- New terms go with the links of an earlier state. -/
theorem replace_terms {terms : TermIndex} (saved : Saved config disk log archive)
    (replaced : TermsSaved config after (UInt64.ofNat log.length) terms)
    (indexed : Indexed config log archive terms)
    (same_links : ∀ entry,
      after.find config.linkPath = .ok entry ↔ disk.find config.linkPath = .ok entry) :
    Saved config after log archive := by
  cases saved with
  | unfinished no_links =>
    rw [← Disk.pathExists_congr same_links] at no_links
    exact .unfinished no_links
  | complete older fewer snapshot =>
    exact .complete (List.prefix_refl _) (List.prefix_refl _)
      ⟨replaced, snapshot.link_file.congr same_links, indexed,
        snapshot.linked.mono older fewer.subset⟩

end Saved

namespace Store

/-- Saving leaves the store and its log alone. If it succeeds the files hold the indexes. -/
theorem save_spec {result : Except StoreError Unit}
    (coherent : Coherent config disk log archive store) (saved : Saved config disk log archive)
    (written : store.save disk = (result, after)) :
    Coherent config after log archive store ∧ Saved config after log archive ∧
      (result = .ok () → Snapshot config after log archive store.terms store.links) := by
  unfold save at written
  rw [coherent.config_eq, coherent.expected] at written
  have coherent' : Coherent config after log archive store :=
    { coherent with files := (coherent.files.save written).1 }
  cases Config.save_cases coherent.files.indexes_apart written with
  | neither terms links => exact ⟨coherent', saved.congr terms links, by simp⟩
  | termsOnly terms links =>
    -- the new terms stand beside the links of the last save, and fit them
    have terms_saved : TermsSaved config after (UInt64.ofNat log.length) store.terms :=
      ⟨_, terms.1, TermFile.decode_encode terms.2⟩
    exact ⟨coherent', saved.replace_terms terms_saved coherent.indexed links, by simp⟩
  | both terms links =>
    have snapshot : Snapshot config after log archive store.terms store.links :=
      ⟨⟨_, terms.1, TermFile.decode_encode terms.2⟩, ⟨_, links.1, LinkFile.decode_encode links.2⟩,
        coherent.indexed, coherent.linked⟩
    exact ⟨coherent', .complete (List.prefix_refl _) (List.prefix_refl _) snapshot,
      fun _ => snapshot⟩

/-- A save that fails does not touch the link file. -/
theorem sameAt_links_of_save_error {error : StoreError}
    (coherent : Coherent config disk log archive store)
    (failed : store.save disk = (.error error, after)) :
    Disk.SameAt config.linkPath disk after := by
  unfold save at failed
  rw [coherent.config_eq] at failed
  cases Config.save_cases coherent.files.indexes_apart failed with
  | neither _ links => exact links
  | termsOnly _ links => exact links

/-! ### Loading -/

/-- A store that expects its log to end where it ends stays what it is if it cannot be loaded. -/
theorem eq_of_load_error {store' : Store} {error : StoreError}
    (coherent : Coherent config disk log archive store)
    (loaded : store.load disk = (.error error, store')) : store' = store := by
  have contains := coherent.files.contains
  rw [← coherent.path] at contains
  cases load_cases loaded with
  | unread => rfl
  | rejected => rw [ContentLog.physicalEnd_eq contains, ← coherent.expected]

/-- Without a link file there is nothing to load. -/
theorem load_unfinished {store' : Store} {result : Except StoreError Unit}
    (no_links : disk.pathExists store.config.linkPath = false)
    (loaded : store.load disk = (result, store')) : result ≠ .ok () := by
  cases load_cases loaded with
  | loaded loadable =>
    obtain ⟨_, ⟨entry, found, _⟩, _⟩ := loadable.links
    exact absurd found (Disk.pathExists_eq_false_iff.mp no_links entry)
  | unread => simp
  | rejected => simp

/-- All that a snapshot speaks of was in the log when it was taken, and the log has only grown. -/
theorem loadable_of_snapshot (store : Store) {before : Bytes} {earlier : Archive}
    {terms : TermIndex} {links : LinkIndex} (files : Files config disk log)
    (same : store.config = config) (path : store.log.path = config.logPath)
    (older : before <+: log) (snapshot : Snapshot config disk before earlier terms links) :
    store.Loadable disk (TermFile.ofIndex (UInt64.ofNat before.length) terms)
      (LinkFile.ofIndex links) := by
  have contains := files.contains
  rw [← path] at contains
  have shorter := older.length_le
  have log_end : (store.log.physicalEnd disk).toNat = log.length := by
    rw [ContentLog.physicalEnd_eq contains, UInt64.toNat_ofNat_of_lt' (Disk.size_lt files.bounded)]
  have inside {offset : Offset} {content : Bytes} (has : HasRecord before offset content) :
      offset.toNat + Word.width ≤ (store.log.physicalEnd disk).toNat := by
    have last := has.end_le
    omega
  refine ⟨?_, ?_, ?_, ?_, ?_, ?_⟩
  · rw [same]
    exact snapshot.term_file
  · rw [same]
    exact snapshot.link_file
  · obtain ⟨entry, found, _⟩ := contains
    exact ⟨entry, found⟩
  · have small := Nat.le_trans shorter files.bounded
    rw [log_end, TermFile.ofIndex, UInt64.toNat_ofNat_of_lt' (Disk.size_lt small)]
    exact shorter
  · intro record member offset listed
    rw [((TermFile.mem_records_ofIndex snapshot.indexed.formed).mp member).1] at listed
    obtain ⟨string, archived, _⟩ := snapshot.indexed.mem_offsetsAt.mp listed
    exact inside (snapshot.indexed.stored _ archived)
  · intro offset owned
    obtain ⟨id, owner⟩ := List.exists_mem_of_ne_nil _ owned
    have refers := (LinkFile.sound_index _).inverse.mp owner
    -- what owns an offset in the file referred to it when the snapshot was taken
    rw [LinkFile.referenceOf?_index_ofIndex snapshot.linked.sound] at refers
    obtain ⟨string, has, _⟩ := snapshot.linked.stored id offset refers
    exact inside has

/-- The store with the saved indexes over the log as it is. -/
def restored (store : Store) (log before : Bytes) (terms : TermIndex) (links : LinkIndex) :
    Store where
  config := store.config
  log := { store.log with nextOffset := UInt64.ofNat log.length }
  terms := (TermFile.ofIndex (UInt64.ofNat before.length) terms).index
  links := (LinkFile.ofIndex links).index

/-- A snapshot is always accepted, and the store is coherent with what was archived when it was
taken. -/
theorem load_snapshot (store : Store) {before : Bytes} {earlier : Archive} {terms : TermIndex}
    {links : LinkIndex} (files : Files config disk log) (same : store.config = config)
    (path : store.log.path = config.logPath) (older : before <+: log)
    (snapshot : Snapshot config disk before earlier terms links) :
    store.load disk = (.ok (), store.restored log before terms links) ∧
      Coherent config disk log earlier (store.restored log before terms links) := by
  have contains := files.contains
  rw [← path] at contains
  refine ⟨?_, ⟨files, same, path, rfl, ?_, ?_⟩⟩
  · rw [(loadable_of_snapshot store files same path older snapshot).load, withFiles, restored,
      ContentLog.physicalEnd_eq contains]
  · exact (snapshot.indexed.mono older).congr (TermFile.wellFormed_index _)
      (TermFile.offsetsAt_index_ofIndex _ snapshot.indexed.formed)
  · exact (snapshot.linked.mono older (List.Subset.refl _)).congr (LinkFile.sound_index _)
      (LinkFile.referenceOf?_index_ofIndex snapshot.linked.sound)

end Store

end Concordance
