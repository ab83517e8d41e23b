import Concordance.Proofs.Store.Linking
import Concordance.Proofs.Store.Saving

/-!
# Sessions

A session begins with a store that is opened in a directory without index files. Strings are linked,
the indexes are saved and loaded, the store is closed and opened again, and each of these may fail
at any request to the disk. Whatever has happened, an open store is coherent with its log, and what
is saved is, if anything, what such a store has held before.
-/
namespace Concordance

open Disk (Keeps)

/-- The store, if it is open, and the disk. -/
structure Session where
  store? : Option Store
  disk : Disk

namespace Session

/-- What can happen in a session. Nobody else changes the disk. -/
inductive Step (config : Config) : Session → Session → Prop
  | link {store store' : Store} {disk disk' : Disk} {id : LinkId} {string : String}
      {result : Except StoreError Offset}
      (linked : store.link id string disk = (result, store', disk')) :
      Step config ⟨some store, disk⟩ ⟨some store', disk'⟩
  | save {store : Store} {disk disk' : Disk} {result : Except StoreError Unit}
      (written : store.save disk = (result, disk')) :
      Step config ⟨some store, disk⟩ ⟨some store, disk'⟩
  | load {store store' : Store} {disk : Disk} {result : Except StoreError Unit}
      (loaded : store.load disk = (result, store')) :
      Step config ⟨some store, disk⟩ ⟨some store', disk⟩
  | close {store : Store} {disk : Disk} : Step config ⟨some store, disk⟩ ⟨none, disk⟩
  | reopen {store : Store} {disk disk' : Disk}
      (opened : Store.openSaved config disk = (.ok store, disk')) :
      Step config ⟨none, disk⟩ ⟨some store, disk'⟩
  | refuse {error : StoreError} {disk disk' : Disk}
      (refused : Store.openSaved config disk = (.error error, disk')) :
      Step config ⟨none, disk⟩ ⟨none, disk'⟩

/-- Every session with a configuration that began without index files, after any number of steps. -/
inductive Reached (config : Config) : Session → Prop
  | start {store : Store} {disk : Disk} (fresh : Store.OpenedFresh config store disk) :
      Reached config ⟨some store, disk⟩
  | step {before after : Session} (earlier : Reached config before)
      (step : Step config before after) : Reached config after

/-- The log of a session and what has been archived in it. -/
structure Intact (config : Config) (log : Bytes) (archive : Archive) (session : Session) :
    Prop where
  files : Files config session.disk log
  saved : Saved config session.disk log archive
  coherent : ∀ store, session.store? = some store →
    Coherent config session.disk log archive store

theorem Intact.of_store {config : Config} {disk : Disk} {log : Bytes} {archive : Archive}
    {store : Store} (coherent : Coherent config disk log archive store)
    (saved : Saved config disk log archive) : Intact config log archive ⟨some store, disk⟩ where
  files := coherent.files
  saved := saved
  coherent other same := by
    cases same
    exact coherent

end Session

namespace Store

variable {config : Config} {disk disk' : Disk} {log : Bytes} {archive : Archive}
  {store store' : Store}

/-! ### Single steps -/

/-- A store that is not loaded stays what it is, and one that is loaded is coherent with what has
been saved. -/
theorem load_spec {held : Archive} {result : Except StoreError Unit}
    (coherent : Coherent config disk log held store) (saved : Saved config disk log archive)
    (loaded : store.load disk = (result, store')) :
    ((∃ error, result = .error error) ∧ store' = store) ∨
      ∃ other, Coherent config disk log other store' ∧ Saved config disk log other := by
  have same := coherent.config_eq
  -- the link file is written last, so if it is there the term file is there as well
  cases saved with
  | unfinished no_links =>
    rw [← same] at no_links
    cases result with
    | ok _ => exact absurd rfl (load_unfinished no_links loaded)
    | error error => exact .inl ⟨⟨error, rfl⟩, eq_of_load_error coherent loaded⟩
  | complete older fewer snapshot =>
    obtain ⟨granted, restored⟩ :=
      load_snapshot store coherent.files same coherent.path older snapshot
    rw [granted] at loaded
    cases loaded
    exact .inr ⟨_, restored, .complete older (List.prefix_refl _) snapshot⟩

theorem anyExist_afterRequest (files : IndexFiles) (disk : Disk) :
    files.anyExist disk.afterRequest = files.anyExist disk := rfl

/-- Where there is an index file, opening a store takes one request, for the log, and then is
loading. -/
theorem openSaved_of_exist (files : Files config disk log)
    (exist : (indexFiles config).anyExist disk = true) (granted : disk.nextFault = none) :
    openSaved config disk =
      (match (unlinked config log).load disk.afterRequest with
        | (.error error, _) => .error error
        | (.ok _, store) => .ok store,
        disk.afterRequest) := by
  rcases openEmpty_of_files files with ⟨opened, _⟩ | ⟨_, _, refused⟩
  · unfold openSaved
    rw [opened]
    dsimp only
    rw [anyExist_afterRequest, exist, if_pos rfl]
    rcases (unlinked config log).load disk.afterRequest with ⟨_ | _, _⟩
    · rfl
    · rfl
  · exact absurd granted refused

/-- Where there is none, the store that is opened has nothing linked. -/
theorem openSaved_of_absent (files : Files config disk log)
    (absent : (indexFiles config).anyExist disk = false) (granted : disk.nextFault = none) :
    openSaved config disk = (.ok (unlinked config log), disk.afterRequest) := by
  rcases openEmpty_of_files files with ⟨opened, _⟩ | ⟨_, _, refused⟩
  · unfold openSaved
    rw [opened]
    dsimp only
    rw [anyExist_afterRequest, absent, if_neg Bool.false_ne_true]
  · exact absurd granted refused

/-- A store with a snapshot is opened as soon as the disk grants it. -/
theorem openSaved_snapshot {before : Bytes} {earlier : Archive} {terms : TermIndex}
    {links : LinkIndex} (files : Files config disk log) (older : before <+: log)
    (snapshot : Snapshot config disk before earlier terms links)
    (granted : disk.nextFault = none) :
    openSaved config disk =
        (.ok ((unlinked config log).restored log before terms links), disk.afterRequest) ∧
      Coherent config disk.afterRequest log earlier
        ((unlinked config log).restored log before terms links) := by
  obtain ⟨loaded, coherent⟩ := load_snapshot (unlinked config log)
    files.afterRequest rfl rfl older snapshot.afterRequest
  rw [openSaved_of_exist files snapshot.anyExist granted, loaded]
  exact ⟨rfl, coherent⟩

/-- Opening a store again takes one request, for the log, and writes nothing. -/
theorem disk_of_openSaved {result : Except StoreError Store} (files : Files config disk log)
    (opened : openSaved config disk = (result, disk')) : disk' = disk.afterRequest := by
  unfold openSaved at opened
  rcases openEmpty_of_files files with ⟨made, _⟩ | ⟨error, refused, _⟩
  · rw [made] at opened
    dsimp only at opened
    split at opened
    · split at opened
      · cases opened
        rfl
      · cases opened
        rfl
    · cases opened
      rfl
  · rw [refused] at opened
    cases opened
    rfl

/-- Whatever comes of opening a store again, the files stay what they are, and the store that is
opened is coherent with its log. -/
theorem openSaved_spec {result : Except StoreError Store} (files : Files config disk log)
    (saved : Saved config disk log archive)
    (opened : openSaved config disk = (result, disk')) :
    Files config disk' log ∧ Saved config disk' log archive ∧
      ∀ store, result = .ok store →
        ∃ other, Coherent config disk' log other store ∧ Saved config disk' log other := by
  have files' := files.afterRequest
  have saved' := saved.congr (Disk.SameAt.afterRequest _ disk) (Disk.SameAt.afterRequest _ disk)
  unfold openSaved at opened
  rcases openEmpty_of_files files with ⟨made, granted⟩ | ⟨error, refused, _⟩
  · rw [made] at opened
    dsimp only at opened
    cases exist : (indexFiles config).anyExist disk.afterRequest with
    | false =>
      obtain ⟨_, no_links⟩ := Bool.or_eq_false_iff.mp exist
      rw [exist, if_neg Bool.false_ne_true] at opened
      cases opened
      -- a session that has never saved begins anew, with nothing linked
      refine ⟨files', saved', fun store same => ?_⟩
      cases same
      exact ⟨[], coherent_unlinked files', .unfinished no_links⟩
    | true =>
      rw [exist, if_pos rfl] at opened
      split at opened
      · next error unread _ =>
        cases opened
        exact ⟨files', saved', by simp⟩
      · next store loaded =>
        cases opened
        refine ⟨files', saved', fun other same => ?_⟩
        cases same
        rcases load_spec (coherent_unlinked files') saved' loaded with ⟨⟨_, failed⟩, _⟩ | taken
        · simp at failed
        · exact taken
  · rw [refused] at opened
    cases opened
    exact ⟨files', saved', by simp⟩

/-- While strings are linked what is saved stays. -/
theorem saved_of_keeps (files : Files config disk log)
    (kept : Keeps [Path.locate config.logPath] disk disk') (saved : Saved config disk log archive) :
    Saved config disk' log archive := by
  obtain ⟨terms, links⟩ := files.sameAt_indexes kept
  exact saved.congr terms links

end Store

namespace Session

variable {config : Config} {log : Bytes} {archive : Archive} {before after : Session}

/-- After each step the log has grown or stayed, and all is as it should be. -/
theorem Step.intact (step : Step config before after) (intact : Intact config log archive before) :
    ∃ longer other, log <+: longer ∧ Intact config longer other after := by
  obtain ⟨files, saved, coherent⟩ := intact
  cases step with
  | link linked =>
    obtain ⟨more, larger, after, grown, kept, _⟩ := Store.link_spec (coherent _ rfl) linked
    have saved := Store.saved_of_keeps files kept saved
    have longer := List.prefix_append log more
    exact ⟨_, larger, longer, .of_store after (saved.mono longer grown)⟩
  | save written =>
    obtain ⟨after, saved, _⟩ := Store.save_spec (coherent _ rfl) saved written
    exact ⟨log, archive, List.prefix_refl _, .of_store after saved⟩
  | load loaded =>
    have now := coherent _ rfl
    -- a load that fails finds the end of the log where the store expects it
    rcases Store.load_spec now saved loaded with ⟨_, rfl⟩ | ⟨other, after, saved⟩
    · exact ⟨log, archive, List.prefix_refl _, .of_store now saved⟩
    · -- what the store had archived since the last save is not known any more
      exact ⟨log, other, List.prefix_refl _, .of_store after saved⟩
  | close => exact ⟨log, archive, List.prefix_refl _, files, saved, by simp⟩
  | reopen opened =>
    obtain ⟨_, _, ready⟩ := Store.openSaved_spec files saved opened
    obtain ⟨other, after, saved⟩ := ready _ rfl
    exact ⟨log, other, List.prefix_refl _, .of_store after saved⟩
  | refuse refused =>
    obtain ⟨files, saved, _⟩ := Store.openSaved_spec files saved refused
    exact ⟨log, archive, List.prefix_refl _, files, saved, by simp⟩

/-- Whatever has happened in a session, all is as it should be. -/
theorem Reached.intact {session : Session} (reached : Reached config session) :
    ∃ log archive, Intact config log archive session := by
  induction reached with
  | start fresh =>
    obtain ⟨log, coherent, _⟩ := fresh.coherent
    -- nothing has been saved yet
    obtain ⟨_, no_links⟩ := Bool.or_eq_false_iff.mp fresh.fresh
    exact ⟨log, [], .of_store coherent (.unfinished no_links)⟩
  | step _ step ih =>
    obtain ⟨log, archive, intact⟩ := ih
    obtain ⟨longer, other, _, intact⟩ := step.intact intact
    exact ⟨longer, other, intact⟩

/-- Whatever comes of linking a string, the session goes on. -/
theorem Reached.link {store : Store} {disk : Disk} (reached : Reached config ⟨some store, disk⟩)
    (id : LinkId) (string : String) :
    Reached config
      ⟨some (store.link id string disk).2.1, (store.link id string disk).2.2⟩ :=
  .step reached (.link rfl)

end Session

theorem Store.reached_sample :
    Session.Reached sampleConfig ⟨some sampleSecond.2.1, sampleSecond.2.2⟩ := by
  have first : (unlinked sampleConfig []).link 1 "ab cd" sampleDisk =
      (sampleFirst.1, sampleFirst.2.1, sampleFirst.2.2) := rfl
  have second : sampleFirst.2.1.link 2 "ef" sampleFirst.2.2 =
      (sampleSecond.1, sampleSecond.2.1, sampleSecond.2.2) := rfl
  exact .step (.step (.start openedFresh_sample) (.link first)) (.link second)

namespace Store

/-- The second identifier is linked to the string of the first one. -/
def sampleReused : Except StoreError Offset × Store × Disk :=
  sampleSecond.2.1.link 2 "ab cd" sampleSecond.2.2

/-- The first identifier moves on to a string that is stored behind the broken record. -/
def sampleMoved : Except StoreError Offset × Store × Disk :=
  sampleReused.2.1.link 1 "cd ab" sampleReused.2.2

theorem reached_moved : Session.Reached sampleConfig ⟨some sampleMoved.2.1, sampleMoved.2.2⟩ := by
  have reused : Session.Reached sampleConfig ⟨some sampleReused.2.1, sampleReused.2.2⟩ := by
    rw [sampleReused]
    exact reached_sample.link 2 "ab cd"
  rw [sampleMoved]
  exact reused.link 1 "cd ab"

theorem readsFreely_moved : sampleMoved.2.1.ReadsFreely sampleMoved.2.2 :=
  readsFreely_of_logEnd 29 (by decide +kernel) (by decide)

theorem stringFor_moved :
    sampleMoved.2.1.stringFor sampleMoved.2.2 1 = .ok "cd ab" ∧
      sampleMoved.2.1.stringFor sampleMoved.2.2 2 = .ok "ab cd" := by
  decide +kernel

end Store

end Concordance
