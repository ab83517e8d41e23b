import Concordance.Proofs.Store.Answers
import Concordance.Proofs.Store.Session

/-!
# Coming back to what was saved

Whatever a session has been through, a save that succeeds in it can be loaded, by the same store or
by one that is opened later, no matter how many strings have been linked since and how many records
have been cut short. The store that comes of it answers as the saved one did, and links that were
made after the save are forgotten.
-/
namespace Concordance.Store

variable {config : Config} {disk disk' : Disk} {log longer : Bytes} {archive : Archive}
  {store store' : Store}

/-- A store answers as another one did on an earlier disk, and expects its log to end where it ends
now. -/
structure Restores (config : Config) (store : Store) (disk : Disk) (restored : Store)
    (disk' : Disk) : Prop where
  answers : SameAnswers store disk restored disk'
  ends : ∃ log, disk'.Contains config.logPath log ∧ restored.log.nextOffset.toNat = log.length

/-- A snapshot of a store restores it. -/
theorem restores_of_coherent {opened : Store} (coherent : Coherent config disk log archive store)
    (older : log <+: longer)
    (coherent' : Coherent config disk' longer archive
      (opened.restored longer log store.terms store.links)) :
    Restores config store disk (opened.restored longer log store.terms store.links) disk' where
  answers := sameAnswers coherent coherent' older
    (LinkFile.referenceOf?_index_ofIndex coherent.linked.sound)
  ends := ⟨longer, coherent'.files.contains,
    UInt64.toNat_ofNat_of_lt' (Disk.size_lt coherent'.files.bounded)⟩

/-- After a save and any further calls of `link`, loading gives back the store as it was saved, and
so does opening it as soon as the disk grants the request for the log. -/
theorem load_after_save {saved laterDisk : Disk} {later : Store} {calls : List LinkCall}
    (reached : Session.Reached config ⟨some store, disk⟩)
    (written : store.save disk = (.ok (), saved))
    (run : Links store saved calls later laterDisk) :
    (∃ restored, later.load laterDisk = (.ok (), restored) ∧
        Restores config store disk restored laterDisk) ∧
      (laterDisk.nextFault = none →
        ∃ restored, openSaved config laterDisk = (.ok restored, laterDisk.afterRequest) ∧
          Restores config store disk restored laterDisk.afterRequest) := by
  obtain ⟨log, archive, intact⟩ := reached.intact
  have coherent := intact.coherent store rfl
  obtain ⟨coherent_saved, _, taken⟩ := save_spec coherent intact.saved written
  obtain ⟨more, larger, coherent_later, _, kept, _⟩ := run.coherent coherent_saved
  have older := List.prefix_append log more
  -- the calls since the save have changed the log only, so the snapshot is still there
  obtain ⟨same_terms, same_links⟩ := coherent_saved.files.sameAt_indexes kept
  have snapshot := (taken rfl).congr same_terms same_links
  constructor
  · obtain ⟨loaded, restored⟩ := load_snapshot later coherent_later.files
      coherent_later.config_eq coherent_later.path older snapshot
    exact ⟨_, loaded, restores_of_coherent coherent older restored⟩
  · intro granted
    obtain ⟨opened, restored⟩ := openSaved_snapshot coherent_later.files older snapshot granted
    exact ⟨_, opened, restores_of_coherent coherent older restored⟩

/-! ### A link that is forgotten -/

/-- The indexes are saved when one string has been linked and another one has failed to be. -/
def sampleSave : Except StoreError Unit × Disk :=
  sampleSecond.2.1.save sampleSecond.2.2

/-- The first identifier is linked to another string. -/
def sampleThird : Except StoreError Offset × Store × Disk :=
  sampleSecond.2.1.link 1 "gh" sampleSave.2

/-- The new string is there until the store is loaded or opened again, and then the old one is
back. -/
theorem load_after_save_of_sample :
    sampleThird.2.1.stringFor sampleThird.2.2 1 = .ok "gh" ∧
      ((sampleThird.2.1.load sampleThird.2.2).2).stringFor sampleThird.2.2 1 = .ok "ab cd" ∧
      ∃ reopened, openSaved sampleConfig sampleThird.2.2 =
          (.ok reopened, sampleThird.2.2.afterRequest) ∧
        reopened.stringFor sampleThird.2.2.afterRequest 1 = .ok "ab cd" := by
  have written : sampleSecond.2.1.save sampleSecond.2.2 = (.ok (), sampleSave.2) := by
    have succeeded : sampleSave.1 = .ok () := by decide +kernel
    exact Prod.ext succeeded rfl
  have run : Links sampleSecond.2.1 sampleSave.2 [⟨1, "gh", sampleThird.1⟩] sampleThird.2.1
      sampleThird.2.2 := .call .start rfl
  obtain ⟨⟨restored, loaded, restores⟩, reopens⟩ := load_after_save reached_sample written run
  obtain ⟨reopened, opened, again⟩ := reopens (by decide +kernel)
  have first : sampleSecond.2.1.stringFor sampleSecond.2.2 1 = .ok "ab cd" := by decide +kernel
  refine ⟨by decide +kernel, ?_, reopened, opened, ?_⟩
  · rw [loaded, restores.answers.stringFor, first]
  · rw [again.answers.stringFor, first]

end Concordance.Store
