import Concordance.Proofs.Invariant.Reached
import Concordance.Proofs.Store.Answers

/-!
# Saves that break off

A save that breaks off between the two files leaves new terms beside the links of the last save that
has succeeded. The new terms are those of a larger archive, and the links refer to records of this
archive, so both can be loaded together. Whatever is archived beyond what the links refer to has no
owner. So all answers about identifiers are what they were at that last save.
-/
namespace Concordance

variable {config : Config} {disk disk' : Disk} {log longer : Bytes} {archive : Archive}
  {store store' : Store}

namespace Session

/-- What can happen in a session while no save succeeds. -/
inductive Unsaved (config : Config) : Session → Session → Prop
  | link {store store' : Store} {disk disk' : Disk} {id : LinkId} {string : String}
      {result : Except StoreError Offset}
      (linked : store.link id string disk = (result, store', disk')) :
      Unsaved config ⟨some store, disk⟩ ⟨some store', disk'⟩
  | save {store : Store} {disk disk' : Disk} {error : StoreError}
      (failed : store.save disk = (.error error, disk')) :
      Unsaved config ⟨some store, disk⟩ ⟨some store, disk'⟩
  | load {store store' : Store} {disk : Disk} {result : Except StoreError Unit}
      (loaded : store.load disk = (result, store')) :
      Unsaved config ⟨some store, disk⟩ ⟨some store', disk⟩
  | close {store : Store} {disk : Disk} : Unsaved config ⟨some store, disk⟩ ⟨none, disk⟩
  | reopen {store : Store} {disk disk' : Disk}
      (opened : Store.openSaved config disk = (.ok store, disk')) :
      Unsaved config ⟨none, disk⟩ ⟨some store, disk'⟩
  | refuse {error : StoreError} {disk disk' : Disk}
      (refused : Store.openSaved config disk = (.error error, disk')) :
      Unsaved config ⟨none, disk⟩ ⟨none, disk'⟩

/-- The last save of a session that has succeeded was that of `store` on `disk`. -/
inductive LastSaved (config : Config) (store : Store) (disk : Disk) : Session → Prop
  | saved {after : Disk} (reached : Reached config ⟨some store, disk⟩)
      (written : store.save disk = (.ok (), after)) :
      LastSaved config store disk ⟨some store, after⟩
  | later {before after : Session} (earlier : LastSaved config store disk before)
      (unsaved : Unsaved config before after) : LastSaved config store disk after

variable {before after session : Session}

theorem Unsaved.step (unsaved : Unsaved config before after) : Step config before after := by
  cases unsaved with
  | link linked => exact .link linked
  | save failed => exact .save failed
  | load loaded => exact .load loaded
  | close => exact .close
  | reopen opened => exact .reopen opened
  | refuse refused => exact .refuse refused

/-- Only a save that succeeds touches the link file. -/
theorem Unsaved.sameAt_links (unsaved : Unsaved config before after)
    (intact : Intact config log archive before) :
    Disk.SameAt config.linkPath before.disk after.disk := by
  have files := intact.files
  cases unsaved with
  | link linked =>
    obtain ⟨_, _, _, _, kept, _⟩ := Store.link_spec (intact.coherent _ rfl) linked
    exact (files.sameAt_indexes kept).2
  | save failed => exact Store.sameAt_links_of_save_error (intact.coherent _ rfl) failed
  | load loaded => exact .refl _ _
  | close => exact .refl _ _
  | reopen opened =>
    obtain rfl := Store.disk_of_openSaved files opened
    exact .afterRequest _ _
  | refuse refused =>
    obtain rfl := Store.disk_of_openSaved files refused
    exact .afterRequest _ _

/-- Since the last save the log has only grown, and the link file holds the links of that save. -/
theorem LastSaved.intact (last : LastSaved config store disk session) :
    ∃ log archive longer other, Coherent config disk log archive store ∧ log <+: longer ∧
      Intact config longer other session ∧ LinksSaved config session.disk store.links := by
  induction last with
  | saved reached written =>
    obtain ⟨log, archive, intact⟩ := reached.intact
    have coherent := intact.coherent store rfl
    obtain ⟨after, saved, snapshot⟩ := Store.save_spec coherent intact.saved written
    exact ⟨log, archive, log, archive, coherent, List.prefix_refl _, .of_store after saved,
      (snapshot rfl).link_file⟩
  | later _ unsaved ih =>
    obtain ⟨log, archive, longer, other, coherent, older, intact, links⟩ := ih
    obtain ⟨longest, another, grown, intact'⟩ := unsaved.step.intact intact
    exact ⟨log, archive, longest, another, coherent, older.trans grown, intact',
      links.congr (unsaved.sameAt_links intact)⟩

end Session

/-- Where the link file can be read, what is saved is a snapshot that has its links. -/
theorem Saved.snapshot_of_links {links : LinkIndex} (saved : Saved config disk log archive)
    (links_saved : LinksSaved config disk links) :
    ∃ before earlier terms others, before <+: log ∧
      Snapshot config disk before earlier terms others ∧
      LinkFile.ofIndex others = LinkFile.ofIndex links := by
  obtain ⟨bytes, contains, decoded⟩ := links_saved
  cases saved with
  | unfinished no_links =>
    obtain ⟨entry, found, _⟩ := contains
    exact absurd found (Disk.pathExists_eq_false_iff.mp no_links entry)
  | complete older _ snapshot =>
    obtain ⟨bytes', contains', decoded'⟩ := snapshot.link_file
    obtain rfl := contains.unique contains'
    exact ⟨_, _, _, _, older, snapshot, Except.ok.inj (decoded'.symm.trans decoded)⟩

namespace Store

/-- A store gives the answers that another one gave about identifiers on an earlier disk. -/
structure Recalls (store : Store) (disk : Disk) (later : Store) (laterDisk : Disk) : Prop where
  stringFor : ∀ id, later.stringFor laterDisk id = store.stringFor disk id
  identifiersFor : ∀ query how,
    (later.identifiersFor laterDisk query how).map (·.toList) =
      (store.identifiersFor disk query how).map (·.toList)
  identifiersForTerms : ∀ terms mode,
    (later.identifiersForTerms terms mode).toList = (store.identifiersForTerms terms mode).toList

/-- Stores with the same current strings give the same answers about identifiers. -/
theorem recalls_of_strings {other : Archive} (coherent : Coherent config disk log archive store)
    (coherent' : Coherent config disk' longer other store') (freely : store.ReadsFreely disk)
    (freely' : store'.ReadsFreely disk')
    (strings : ∀ id, store'.stringFor disk' id = store.stringFor disk id) :
    Recalls store disk store' disk' := by
  refine ⟨strings, fun query how => ?_, fun terms mode => ?_⟩
  · -- a query is answered by a scan of the current strings
    obtain ⟨found, answered, members⟩ := identifiersFor_spec coherent freely query how
    obtain ⟨found', answered', members'⟩ := identifiersFor_spec coherent' freely' query how
    rw [answered, answered', Except.map, Except.map, Table.toList_eq fun id => ?_]
    rw [members, members', strings]
  · apply Table.toList_eq
    intro id
    rw [mem_identifiersForTerms coherent freely, mem_identifiersForTerms coherent' freely', strings]

/-- So do stores with the same references, however much more the second one has archived. -/
theorem recalls_of_coherent {other : Archive} (coherent : Coherent config disk log archive store)
    (coherent' : Coherent config disk' longer other store') (older : log <+: longer)
    (same : ∀ id, store'.links.referenceOf? id = store.links.referenceOf? id)
    (freely : store'.ReadsFreely disk') : Recalls store disk store' disk' := by
  have before := readsFreely_of_prefix coherent coherent' older freely
  exact recalls_of_strings coherent coherent' before freely fun id =>
    stringFor_eq coherent coherent' older (same id)

/-- Whatever has failed since the last save that has succeeded, later saves included, the store can
be loaded, and it can be opened as soon as the disk grants the request for the log. Then nothing is
wrong with it, and its answers about identifiers are those of that last save. -/
theorem load_after_failed_save {session : Session}
    (last : Session.LastSaved config store disk session) :
    (∀ later, session.store? = some later →
      ∃ restored, later.load session.disk = (.ok (), restored) ∧
        (restored.ReadsFreely session.disk →
          Invariant.violations Invariant.all restored session.disk = [] ∧
            Recalls store disk restored session.disk)) ∧
    (session.disk.nextFault = none →
      ∃ restored, openSaved config session.disk = (.ok restored, session.disk.afterRequest) ∧
        (restored.ReadsFreely session.disk.afterRequest →
          Invariant.violations Invariant.all restored session.disk.afterRequest = [] ∧
            Recalls store disk restored session.disk.afterRequest)) := by
  obtain ⟨log, archive, longer, other, coherent, older, intact, links⟩ := last.intact
  obtain ⟨before, earlier, terms, others, within, snapshot, file_same⟩ :=
    intact.saved.snapshot_of_links links
  -- the links that are loaded are those of the last save
  have same (id : LinkId) :
      (LinkFile.ofIndex others).index.referenceOf? id = store.links.referenceOf? id := by
    rw [file_same]
    exact LinkFile.referenceOf?_index_ofIndex coherent.linked.sound id
  have recalls {opened : Store} {after : Disk}
      (coherent' : Coherent config after longer earlier
        (opened.restored longer before terms others))
      (freely : (opened.restored longer before terms others).ReadsFreely after) :
      Invariant.violations Invariant.all (opened.restored longer before terms others) after = [] ∧
        Recalls store disk (opened.restored longer before terms others) after :=
    ⟨Invariant.violations_of_coherent coherent' freely,
      recalls_of_coherent coherent coherent' older same freely⟩
  constructor
  · intro later present
    have coherent_later := intact.coherent later present
    obtain ⟨loaded, restored⟩ := load_snapshot later intact.files coherent_later.config_eq
      coherent_later.path within snapshot
    exact ⟨_, loaded, recalls restored⟩
  · intro granted
    obtain ⟨opened, restored⟩ := openSaved_snapshot intact.files within snapshot granted
    exact ⟨_, opened, recalls restored⟩

/-! ### A save that breaks off between the files -/

/-- A disk that fails when the link file is to be written for the second time. -/
def brokenDisk : Disk :=
  { sampleDisk with faults := List.replicate 18 none ++ [some ⟨.noSpace, 0⟩] }

def brokenFirst : Except StoreError Offset × Store × Disk :=
  (unlinked sampleConfig []).link 1 "ab cd" brokenDisk

/-- The save that succeeds. -/
def brokenSave : Except StoreError Unit × Disk := brokenFirst.2.1.save brokenFirst.2.2

def brokenSecond : Except StoreError Offset × Store × Disk :=
  brokenFirst.2.1.link 1 "gh" brokenSave.2

/-- The save that breaks off. -/
def brokenAgain : Except StoreError Unit × Disk := brokenSecond.2.1.save brokenSecond.2.2

theorem lastSaved_broken : Session.LastSaved sampleConfig brokenFirst.2.1 brokenFirst.2.2
    ⟨some brokenSecond.2.1, brokenAgain.2⟩ := by
  have fresh : OpenedFresh sampleConfig (unlinked sampleConfig []) brokenDisk :=
    { opened := ⟨{ Disk.empty with faults := none :: brokenDisk.faults }, rfl⟩
      fresh := by decide +kernel
      bounded := openedFresh_sample.bounded }
  have reached : Session.Reached sampleConfig ⟨some brokenFirst.2.1, brokenFirst.2.2⟩ :=
    (Session.Reached.start fresh).link 1 "ab cd"
  have written : brokenFirst.2.1.save brokenFirst.2.2 = (.ok (), brokenSave.2) := by
    have succeeded : brokenSave.1 = .ok () := by decide +kernel
    exact Prod.ext succeeded rfl
  have failed : brokenSecond.2.1.save brokenSecond.2.2 =
      (.error (.write (.create "./string_offsets_link_hashes.tmp") .noSpace), brokenAgain.2) := by
    have broken : brokenAgain.1 =
        .error (.write (.create "./string_offsets_link_hashes.tmp") .noSpace) := by decide +kernel
    exact Prod.ext broken rfl
  have linked : brokenFirst.2.1.link 1 "gh" brokenSave.2 =
      (brokenSecond.1, brokenSecond.2.1, brokenSecond.2.2) := rfl
  exact .later (.later (.saved reached written) (.link linked)) (.save failed)

/-- The term of the second string is there, but the identifier is linked to the first one. -/
theorem load_after_failed_save_of_broken :
    ∃ restored, brokenSecond.2.1.load brokenAgain.2 = (.ok (), restored) ∧
      restored.terms.offsetsFor "gh" = [13] ∧
      restored.stringFor brokenAgain.2 1 = .ok "ab cd" := by
  obtain ⟨loads, _⟩ := load_after_failed_save lastSaved_broken
  obtain ⟨restored, loaded, recalls⟩ := loads _ rfl
  have same : restored = (brokenSecond.2.1.load brokenAgain.2).2 := by rw [loaded]
  have freely : restored.ReadsFreely brokenAgain.2 := by
    rw [same]
    exact readsFreely_of_logEnd 23 (by decide +kernel) (by decide)
  have first : brokenFirst.2.1.stringFor brokenFirst.2.2 1 = .ok "ab cd" := by decide +kernel
  refine ⟨restored, loaded, ?_, ?_⟩
  · rw [same]
    decide +kernel
  · rw [(recalls freely).2.stringFor, first]

end Store

end Concordance
