import Concordance.Proofs.IndexFile.Field
import Concordance.Proofs.Store.Files

/-!
# Replacing the index files

What is written beside an index file is no index file itself, so until it is renamed the paths of
the index files lead to what they led to. Renaming changes what one of these paths leads to, and the
other one with it only if both lead to the same place. So a save that breaks off has replaced no
file or the term file only, wherever the directories of the configuration are.
-/
namespace Concordance

open Disk (Keeps sizeLimit)
open IndexFile (Field encode replaceFile)

/-- A path leads to what it led to. -/
def Disk.SameAt (path : String) (disk after : Disk) : Prop :=
  ∀ entry, after.find path = .ok entry ↔ disk.find path = .ok entry

theorem Disk.SameAt.of_keeps {disk after : Disk} (kept : Keeps [] disk after) (path : String) :
    Disk.SameAt path disk after :=
  fun _ => kept.find_eq_ok fun _ _ => List.not_mem_nil

theorem Disk.SameAt.refl (path : String) (disk : Disk) : Disk.SameAt path disk disk :=
  fun _ => Iff.rfl

theorem Disk.SameAt.withFaults (path : String) (disk : Disk) (faults : List (Option Fault)) :
    Disk.SameAt path disk { disk with faults } :=
  .of_keeps (keeps_withFaults [] disk faults) path

theorem Disk.SameAt.afterRequest (path : String) (disk : Disk) :
    Disk.SameAt path disk disk.afterRequest :=
  .withFaults path disk _

/-- A path leads to a file that has all of the fields, which are no more than a file can have. -/
def Disk.Complete (disk : Disk) (path : String) (fields : List Field) : Prop :=
  disk.Contains path (encode fields) ∧ (encode fields).length ≤ sizeLimit

namespace Config

variable (config : Config) {disk after : Disk} {stem other : String}

/-- As far as other places than that beside a file are concerned, the path of any file leads away
from what has been changed. -/
theorem sameAt_of_keeps {changed : List Location} (kept : Keeps changed disk after)
    (member : stem ∈ stems) (other_member : other ∈ stems)
    (sibling : Path.isNamed (Path.temporary (config.pathOf stem)) = true)
    (away : ∀ place, disk.resolve (config.pathOf other) = .ok place → place ∈ changed →
      place = Path.locate (Path.temporary (config.pathOf stem))) :
    Disk.SameAt (config.pathOf other) disk after := by
  have isStem := isStem_of_mem member
  have other_stem := isStem_of_mem other_member
  have begins := stem_eq_of_prefix member other_member
  intro entry
  by_cases unfit : Path.isNamed (config.pathOf other) = false ∨
      Path.isSlashed (config.pathOf other) = true
  · exact Disk.find_eq_ok_congr_of_unfit kept.directory unfit
  · -- the names of the files all end in the same way
    simp only [not_or, Bool.not_eq_false, Bool.not_eq_true] at unfit
    obtain ⟨named, unslashed⟩ := unfit
    rw [config.isNamed_pathOf other_stem, ← config.isNamed_pathOf isStem] at named
    rw [config.isSlashed_pathOf other_stem, ← config.isSlashed_pathOf isStem] at unslashed
    apply kept.find_eq_ok
    intro place resolved changes
    have beside := away place resolved changes
    rw [(Disk.resolve_eq_ok.mp resolved).2.2] at beside
    exact config.locate_temporary_ne isStem other_stem begins named unslashed sibling beside.symm

/-- The paths of two files lead to different places if both lead anywhere. -/
def Apart (config : Config) (disk : Disk) (stem other : String) : Prop :=
  ∀ place, disk.resolve (config.pathOf stem) = .ok place →
    disk.resolve (config.pathOf other) ≠ .ok place

/-- A replacement that fails leaves the paths of all files alone, one that succeeds those that lead
to another place. -/
theorem replaceFile_spec {fields : List Field} {result : Except StoreError Unit}
    (member : stem ∈ stems)
    (replaced : replaceFile (config.pathOf stem) fields disk = (result, after)) :
    (∀ path place, after.resolve path = .ok place ↔ disk.resolve path = .ok place) ∧
      (result = .ok () → after.Complete (config.pathOf stem) fields) ∧
      ∀ other ∈ stems, (result = .ok () → config.Apart disk stem other) →
        Disk.SameAt (config.pathOf other) disk after := by
  rcases IndexFile.replaceFile_spec replaced with
    ⟨failed, kept⟩ | ⟨sibling, complete, kept, untouched⟩
  · refine ⟨fun _ _ => kept.resolve_eq_ok, fun succeeded => absurd succeeded failed, ?_⟩
    intro other _ _
    exact .of_keeps kept _
  · refine ⟨fun _ _ => kept.resolve_eq_ok, complete, ?_⟩
    intro other other_member apart
    by_cases succeeded : result = .ok ()
    · -- what was written beside the file has been renamed, so both places have changed
      have resolved := (Disk.contains_iff.mp (complete succeeded).1).1
      apply config.sameAt_of_keeps kept member other_member sibling
      intro place elsewhere changes
      rcases List.mem_cons.mp changes with beside | here
      · exact beside
      · rw [List.mem_singleton.mp here] at elsewhere
        exact absurd elsewhere (apart succeeded _ (kept.resolve_eq_ok.mp resolved))
    · apply config.sameAt_of_keeps (untouched succeeded) member other_member sibling
      intro place _ changes
      exact List.mem_singleton.mp changes

/-! ### Saving both files -/

variable {config : Config} {saved : SavedIndexes}

/-- What can come of a save. -/
inductive Saving (config : Config) (saved : SavedIndexes) (disk after : Disk) :
    Except StoreError Unit → Prop
  /-- The term file has not been replaced, and the link file has not been reached. -/
  | neither {error : StoreError} (terms : Disk.SameAt config.termPath disk after)
      (links : Disk.SameAt config.linkPath disk after) :
      Saving config saved disk after (.error error)
  /-- The link file has not been replaced. -/
  | termsOnly {error : StoreError}
      (terms : after.Complete config.termPath
        (TermFile.ofIndex saved.nextOffset saved.terms).fields)
      (links : Disk.SameAt config.linkPath disk after) :
      Saving config saved disk after (.error error)
  | both
      (terms : after.Complete config.termPath
        (TermFile.ofIndex saved.nextOffset saved.terms).fields)
      (links : after.Complete config.linkPath (LinkFile.ofIndex saved.links).fields) :
      Saving config saved disk after (.ok ())

theorem save_cases {result : Except StoreError Unit}
    (apart : config.Apart disk "term_string_offsets" "string_offsets_link_hashes")
    (written : (Store.indexFiles config).save saved disk = (result, after)) :
    config.Saving saved disk after result := by
  unfold Store.indexFiles IndexFiles.save at written
  dsimp only at written
  split at written
  · next error middle failed =>
    cases written
    obtain ⟨_, _, same⟩ := config.replaceFile_spec terms_mem failed
    exact .neither (same _ terms_mem (by simp)) (same _ links_mem (by simp))
  · next middle replaced =>
    obtain ⟨resolve, complete, same⟩ := config.replaceFile_spec terms_mem replaced
    have same_links := same _ links_mem fun _ => apart
    -- the paths lead to different places still
    have apart' : config.Apart middle "string_offsets_link_hashes" "term_string_offsets" := by
      intro place there here
      exact apart place ((resolve _ _).mp here) ((resolve _ _).mp there)
    obtain ⟨_, complete', same'⟩ := config.replaceFile_spec links_mem written
    have same_terms := same' _ terms_mem fun _ => apart'
    have terms : after.Complete config.termPath
        (TermFile.ofIndex saved.nextOffset saved.terms).fields :=
      ⟨(Disk.contains_congr same_terms).mpr (complete rfl).1, (complete rfl).2⟩
    cases result with
    | error error =>
      have unchanged := same' _ links_mem (by simp)
      exact .termsOnly terms fun entry => (unchanged entry).trans (same_links entry)
    | ok _ => exact .both terms (complete' rfl)

end Config

namespace Files

variable {config : Config} {disk after : Disk} {log : Bytes}

/-- The index files are as far from each other as they are from the log. -/
theorem indexes_apart (files : Files config disk log) :
    config.Apart disk "term_string_offsets" "string_offsets_link_hashes" := by
  intro place here there
  exact files.ne_of_resolve Config.terms_mem Config.links_mem (by decide) (by decide) here
    (Disk.resolve_eq_ok.mp there).2.2

/-- Replacing an index file leaves the log as it is. -/
theorem replace (files : Files config disk log) {stem : String} (member : stem ∈ Config.stems)
    (indexes : stem ≠ "strings") {fields : List Field} {result : Except StoreError Unit}
    (replaced : replaceFile (config.pathOf stem) fields disk = (result, after)) :
    Files config after log ∧ Disk.SameAt config.logPath disk after := by
  obtain ⟨resolve, _, same⟩ := config.replaceFile_spec member replaced
  have same_log : Disk.SameAt config.logPath disk after := by
    apply same _ Config.strings_mem
    intro _ place resolved at_log
    exact files.apart stem member indexes place resolved (Disk.resolve_eq_ok.mp at_log).2.2
  refine ⟨{ files with
    contains := (Disk.contains_congr same_log).mpr files.contains
    apart := fun stem member indexes place resolved =>
      files.apart stem member indexes place ((resolve _ _).mp resolved) }, same_log⟩

/-- Saving leaves the log as it is. -/
theorem save (files : Files config disk log) {saved : SavedIndexes}
    {result : Except StoreError Unit}
    (written : (Store.indexFiles config).save saved disk = (result, after)) :
    Files config after log ∧ Disk.SameAt config.logPath disk after := by
  unfold Store.indexFiles IndexFiles.save at written
  dsimp only at written
  split at written
  · next failed =>
    cases written
    exact files.replace Config.terms_mem (by decide) failed
  · next replaced =>
    obtain ⟨files, same⟩ := files.replace Config.terms_mem (by decide) replaced
    obtain ⟨files', same'⟩ := files.replace Config.links_mem (by decide) written
    exact ⟨files', fun entry => (same' entry).trans (same entry)⟩

end Files

end Concordance
