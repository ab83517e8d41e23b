import Concordance.Disk.Outside
import Concordance.Proofs.Store.Restoring

/-!
# A log that has been cut

A load compares where the log ended when the indexes were saved with where it ends now, and looks
at where records begin, not at what they hold. This is enough. Whatever is saved lies before the end
that is saved with it, so a log that has been cut to less is noticed by its length alone, and in one
that has been cut behind it, or filled up with zeros, no byte of a saved string has changed.
-/
namespace Concordance

open Disk (Keeps sizeLimit)

/-! ### Another size -/

/-- A file that is given another size is cut or filled up with zeros, and nothing else happens. -/
theorem Disk.resizeFile_spec {disk after : Disk} {path : String} {bytes : Bytes} {size : Nat}
    (resized : disk.resizeFile path size = (.ok (), after)) (contains : disk.Contains path bytes) :
    size ≤ sizeLimit ∧ Keeps [Path.locate path] disk after ∧
      after.Contains path (bytes.take size ++ List.replicate (size - bytes.length) 0) := by
  obtain ⟨resolved, unslashed, entry, found, contents⟩ := Disk.contains_iff.mp contains
  have read : disk.find path = .ok entry :=
    Disk.find_eq_ok.mpr ⟨resolved, found, by simp [unslashed]⟩
  unfold resizeFile at resized
  split at resized
  · simp at resized
  · next small =>
    rw [changeFile, resolved, read] at resized
    cases entry with
    | directory => simp [Entry.contents] at contents
    | full => simp at resized
    | file number body =>
      obtain rfl : body.toList = bytes := Except.ok.inj contents
      cases resized
      have file : disk.entry? (Path.locate path) ≠ some .directory := by simp [found]
      have kept : Keeps [Path.locate path] disk
          (disk.put (Path.locate path) (.file number (body.resize size))) := .put file (by simp)
      refine ⟨Nat.not_lt.mp small, kept, Disk.contains_iff.mpr
        ⟨kept.resolve_eq_ok.mpr resolved, unslashed, _,
          (Disk.entry?_put disk (Disk.ne_root file) _ _).trans (if_pos rfl), ?_⟩⟩
      rw [Entry.contents, FileBody.toList_resize, FileBody.length_toList]

theorem Disk.nextFault_resizeFile {disk after : Disk} {path : String} {size : Nat}
    {result : Except Cause Unit} (resized : disk.resizeFile path size = (result, after)) :
    after.nextFault = disk.nextFault := by
  unfold resizeFile changeFile at resized
  grind [Disk.nextFault, Disk.put]

variable {config : Config} {disk after : Disk} {log before : Bytes} {archive : Archive}
  {store : Store}

/-- The files of a store are still its files when the log has another size, and the log begins as it
did, as far as it goes. -/
theorem Files.resize {size : Nat} (files : Files config disk log)
    (resized : disk.resizeFile config.logPath size = (.ok (), after)) :
    ∃ cut, Files config after cut ∧ cut.length = size ∧
      Keeps [Path.locate config.logPath] disk after ∧
      ∀ before, before <+: log → before.length ≤ size → before <+: cut := by
  obtain ⟨small, kept, contains⟩ := Disk.resizeFile_spec resized files.contains
  have length : (log.take size ++ List.replicate (size - log.length) 0).length = size := by
    rw [List.length_append, List.length_take, List.length_replicate]
    omega
  refine ⟨_, files.grow kept contains (by rwa [length]), length, kept, fun before older fits => ?_⟩
  exact (List.prefix_take_iff.mpr ⟨older, fits⟩).trans (List.prefix_append ..)

/-! ### A log that is too short -/

namespace Store

/-- Indexes that were saved when the log was longer are refused, and only the end of the log is
noticed. -/
theorem load_snapshot_cut (store : Store) {earlier : Archive} {terms : TermIndex}
    {links : LinkIndex} (files : Files config disk log) (same : store.config = config)
    (path : store.log.path = config.logPath)
    (snapshot : Snapshot config disk before earlier terms links)
    (bounded : before.length ≤ sizeLimit) (shorter : log.length < before.length) :
    store.load disk =
      (.error (.corrupt
          (.savedPastEnd (UInt64.ofNat before.length) (UInt64.ofNat log.length))),
        { store with log := { store.log with nextOffset := UInt64.ofNat log.length } }) := by
  have contains := files.contains
  rw [← path] at contains
  obtain ⟨_, terms_read, terms_decoded⟩ := snapshot.term_file
  obtain ⟨_, links_read, links_decoded⟩ := snapshot.link_file
  rw [← same] at terms_read links_read
  have read : (indexFiles store.config).load disk =
      .ok ⟨UInt64.ofNat before.length,
        (TermFile.ofIndex (UInt64.ofNat before.length) terms).index,
        (LinkFile.ofIndex links).index⟩ :=
    IndexFiles.load_eq_ok_iff.mpr
      ⟨_, _, _, _, terms_read, terms_decoded, links_read, links_decoded, rfl⟩
  obtain ⟨entry, found, _⟩ := id contains
  have beyond : UInt64.ofNat log.length < UInt64.ofNat before.length := by
    rw [UInt64.lt_iff_toNat_lt, UInt64.toNat_ofNat_of_lt' (Disk.size_lt bounded),
      UInt64.toNat_ofNat_of_lt' (Disk.size_lt files.bounded)]
    exact shorter
  rw [load, read]
  dsimp only
  rw [ContentLog.refresh_eq found, ContentLog.physicalEnd_eq contains]
  dsimp only
  rw [corruption?, if_pos beyond]

/-- A store is not opened with them either. -/
theorem openSaved_snapshot_cut {earlier : Archive} {terms : TermIndex} {links : LinkIndex}
    (files : Files config disk log)
    (snapshot : Snapshot config disk before earlier terms links)
    (bounded : before.length ≤ sizeLimit) (shorter : log.length < before.length)
    (granted : disk.nextFault = none) :
    openSaved config disk =
      (.error (.corrupt
          (.savedPastEnd (UInt64.ofNat before.length) (UInt64.ofNat log.length))),
        disk.afterRequest) := by
  have files' := files.afterRequest
  rw [openSaved_of_exist files snapshot.anyExist granted,
    load_snapshot_cut (unlinked config log) files' rfl rfl snapshot.afterRequest bounded shorter]

/-! ### Cutting the log of a session -/

/-- After a save and any further calls of `link`, the log is given another size. If it is too short
now for what has been saved, loading and opening fail as corrupt, and the indexes in memory stay.
Otherwise both succeed, and all answers are those of the moment of the save. So whatever is loaded
answers as the saved store did. -/
theorem load_after_cut {saved laterDisk cut : Disk} {later : Store} {calls : List LinkCall}
    {size : Nat} (reached : Session.Reached config ⟨some store, disk⟩)
    (written : store.save disk = (.ok (), saved))
    (run : Links store saved calls later laterDisk)
    (resized : laterDisk.resizeFile config.logPath size = (.ok (), cut)) :
    (size < store.log.nextOffset.toNat →
      later.load cut =
          (.error (.corrupt (.savedPastEnd store.log.nextOffset (UInt64.ofNat size))),
            { later with log := { later.log with nextOffset := UInt64.ofNat size } }) ∧
        (laterDisk.nextFault = none →
          openSaved config cut =
            (.error (.corrupt (.savedPastEnd store.log.nextOffset (UInt64.ofNat size))),
              cut.afterRequest))) ∧
    (store.log.nextOffset.toNat ≤ size →
      (∃ restored, later.load cut = (.ok (), restored) ∧
          Restores config store disk restored cut) ∧
        (laterDisk.nextFault = none →
          ∃ restored, openSaved config cut = (.ok restored, cut.afterRequest) ∧
            Restores config store disk restored cut.afterRequest)) ∧
    ∀ restored, later.load cut = (.ok (), restored) → Restores config store disk restored cut := by
  obtain ⟨log, archive, intact⟩ := reached.intact
  have coherent := intact.coherent store rfl
  have bounded := coherent.files.bounded
  obtain ⟨coherent_saved, _, taken⟩ := save_spec coherent intact.saved written
  obtain ⟨more, larger, coherent_later, _, kept, _⟩ := run.coherent coherent_saved
  have same := coherent_later.config_eq
  have path := coherent_later.path
  obtain ⟨short, files, rfl, resized_only, within⟩ := coherent_later.files.resize resized
  -- neither the calls nor the cut have touched the index files
  obtain ⟨same_terms, same_links⟩ :=
    coherent_saved.files.sameAt_indexes (kept.trans resized_only)
  have snapshot := (taken rfl).congr same_terms same_links
  rw [← Disk.nextFault_resizeFile resized, coherent.expected,
    UInt64.toNat_ofNat_of_lt' (Disk.size_lt bounded)]
  -- what is saved lies before the end that is saved with it
  have older (fits : log.length ≤ short.length) : log <+: short :=
    within log (List.prefix_append ..) fits
  have accepted (fits : log.length ≤ short.length) :
      ∃ restored, later.load cut = (.ok (), restored) ∧
        Restores config store disk restored cut := by
    obtain ⟨loaded, restored⟩ := load_snapshot later files same path (older fits) snapshot
    exact ⟨_, loaded, restores_of_coherent coherent (older fits) restored⟩
  refine ⟨fun shorter => ⟨load_snapshot_cut later files same path snapshot bounded shorter,
    openSaved_snapshot_cut files snapshot bounded shorter⟩,
    fun fits => ⟨accepted fits, fun granted => ?_⟩, fun restored loaded => ?_⟩
  · obtain ⟨opened, restored⟩ := openSaved_snapshot files (older fits) snapshot granted
    exact ⟨_, opened, restores_of_coherent coherent (older fits) restored⟩
  · -- a log that is too short would not have been loaded
    rcases Nat.lt_or_ge short.length log.length with shorter | fits
    · rw [load_snapshot_cut later files same path snapshot bounded shorter] at loaded
      simp at loaded
    · obtain ⟨other, accepts, restores⟩ := accepted fits
      obtain ⟨_, rfl⟩ := Prod.mk.inj (loaded.symm.trans accepts)
      exact restores

/-! ### One byte less -/

/-- The log of the sample, with a third record since the save, cut to the given size. -/
def sampleCut (size : Nat) : Disk :=
  (sampleThird.2.2.resizeFile sampleConfig.logPath size).2

/-- Cut where it ended at the save, the log still holds what was saved, and the new link is
forgotten. With one byte less nothing is loaded. -/
theorem load_after_cut_of_sample :
    ((sampleThird.2.1.load (sampleCut 16)).2).stringFor (sampleCut 16) 1 = .ok "ab cd" ∧
      (sampleThird.2.1.load (sampleCut 15)).1 =
        .error (.corrupt (.savedPastEnd 16 15)) := by
  have written : sampleSecond.2.1.save sampleSecond.2.2 = (.ok (), sampleSave.2) := by
    have succeeded : sampleSave.1 = .ok () := by decide +kernel
    exact Prod.ext succeeded rfl
  have run : Links sampleSecond.2.1 sampleSave.2 [⟨1, "gh", sampleThird.1⟩] sampleThird.2.1
      sampleThird.2.2 := .call .start rfl
  have ends : sampleSecond.2.1.log.nextOffset = 16 := by decide +kernel
  have whole : sampleThird.2.2.resizeFile sampleConfig.logPath 16 = (.ok (), sampleCut 16) :=
    Prod.ext (by decide +kernel) rfl
  have less : sampleThird.2.2.resizeFile sampleConfig.logPath 15 = (.ok (), sampleCut 15) :=
    Prod.ext (by decide +kernel) rfl
  have first : sampleSecond.2.1.stringFor sampleSecond.2.2 1 = .ok "ab cd" := by decide +kernel
  constructor
  · obtain ⟨_, accepts, _⟩ := load_after_cut reached_sample written run whole
    obtain ⟨⟨restored, loaded, restores⟩, _⟩ := accepts (by rw [ends]; decide)
    rw [loaded, restores.answers.stringFor, first]
  · obtain ⟨refuses, _⟩ := load_after_cut reached_sample written run less
    obtain ⟨refused, _⟩ := refuses (by rw [ends]; decide)
    rw [refused, ends]
    rfl

end Store

end Concordance
