import Concordance.Proofs.IndexFile.Leftover
import Concordance.Proofs.Store.Interrupted

/-!
# What a save leaves behind

Each index file is replaced as a whole or not at all, the link file only after the term file, and a
save succeeds exactly if both have been replaced. What an earlier save has left beside the files
changes nothing about a later one, nor about what is loaded. All this needs the two paths to lead to
different places: a file extension may go back with `..` so far that they do not. If it leads
through a file that is left over, this may be told as another cause of a failure.
-/
namespace Concordance

open Disk (Alike SameAt)
open IndexFile (encode replaceFile)

/-- All bytes of the term file. -/
def SavedIndexes.termBytes (saved : SavedIndexes) : Bytes :=
  encode (TermFile.ofIndex saved.nextOffset saved.terms).fields

/-- All bytes of the link file. -/
def SavedIndexes.linkBytes (saved : SavedIndexes) : Bytes :=
  encode (LinkFile.ofIndex saved.links).fields

/-- Where a save can leave a file that it has not renamed. -/
def Config.leftovers (config : Config) : List Location :=
  (([config.termPath, config.linkPath].map Path.temporary).filter Path.isNamed).map Path.locate

variable {config : Config} {saved : SavedIndexes} {disk other after : Disk}

namespace Config

/-- What is left over is no index file. -/
theorem notMem_leftovers {stem : String} (member : stem ∈ stems)
    (named : Path.isNamed (config.pathOf stem) = true)
    (unslashed : Path.isSlashed (config.pathOf stem) = false) :
    Path.locate (config.pathOf stem) ∉ config.leftovers := by
  intro left
  have isStem := isStem_of_mem member
  simp only [leftovers, List.mem_map, List.mem_filter] at left
  obtain ⟨sibling, ⟨⟨path, index, rfl⟩, sibling_named⟩, same⟩ := left
  -- both index files have a stem of their own
  obtain ⟨other, other_member, rfl⟩ : ∃ other ∈ stems, config.pathOf other = path := by
    simp only [List.mem_cons, List.not_mem_nil, or_false] at index
    rcases index with rfl | rfl
    · exact ⟨_, terms_mem, rfl⟩
    · exact ⟨_, links_mem, rfl⟩
  have other_stem := isStem_of_mem other_member
  rw [config.isNamed_pathOf isStem, ← config.isNamed_pathOf other_stem] at named
  rw [config.isSlashed_pathOf isStem, ← config.isSlashed_pathOf other_stem] at unslashed
  have begins := stem_eq_of_prefix other_member member
  exact config.locate_temporary_ne other_stem isStem begins named unslashed sibling_named same

end Config

/-! ### Leftovers change nothing -/

namespace IndexFiles

theorem save_alike {loose : List Location} (alike : Alike loose disk other) (files : IndexFiles)
    (saved : SavedIndexes) :
    SameOutcome (files.save saved disk).1 (files.save saved other).1 ∧
      Alike loose (files.save saved disk).2 (files.save saved other).2 := by
  have terms := IndexFile.replaceFile_alike alike files.termPath
    (TermFile.ofIndex saved.nextOffset saved.terms).fields
  unfold save
  rcases first : replaceFile files.termPath
    (TermFile.ofIndex saved.nextOffset saved.terms).fields disk with ⟨result, middle⟩
  rcases first' : replaceFile files.termPath
    (TermFile.ofIndex saved.nextOffset saved.terms).fields other with ⟨result', middle'⟩
  rw [first, first'] at terms
  obtain ⟨outcome, alike⟩ := terms
  cases outcome with
  | same =>
    cases result with
    | error error => exact ⟨.same _, alike⟩
    | ok _ => exact IndexFile.replaceFile_alike alike files.linkPath _
  | write => exact ⟨.write .., alike⟩
  | read => exact ⟨.read .., alike⟩

theorem bytesAt_alike {loose : List Location} (alike : Alike loose disk other) {path : String}
    (away : Path.isNamed path = true → Path.isSlashed path = false → Path.locate path ∉ loose)
    (first : Step) : SameOutcome (bytesAt disk path first) (bytesAt other path first) := by
  unfold bytesAt
  rcases alike.find_cases away with ⟨entry, entry', found, found', same⟩ | ⟨_, _, missed, missed'⟩
  · rw [found, found']
    dsimp only
    rw [← entry.contents_unnumbered, ← entry'.contents_unnumbered, same]
    exact .same _
  · rw [missed, missed']
    exact .read ..

theorem load_alike (alike : Alike config.leftovers disk other) :
    SameOutcome ((Store.indexFiles config).load disk) ((Store.indexFiles config).load other) := by
  have terms : SameOutcome (bytesAt disk config.termPath .nextOffset)
      (bytesAt other config.termPath .nextOffset) :=
    bytesAt_alike alike (Config.notMem_leftovers Config.terms_mem) _
  have links : SameOutcome (bytesAt disk config.linkPath .stringOffset)
      (bytesAt other config.linkPath .stringOffset) :=
    bytesAt_alike alike (Config.notMem_leftovers Config.links_mem) _
  unfold Store.indexFiles load
  dsimp only
  -- whatever is read goes through the same decoders
  generalize bytesAt disk config.termPath .nextOffset = terms_here at *
  generalize bytesAt other config.termPath .nextOffset = terms_there at *
  generalize bytesAt disk config.linkPath .stringOffset = links_here at *
  generalize bytesAt other config.linkPath .stringOffset = links_there at *
  cases terms with
  | write => exact .write ..
  | read => exact .read ..
  | same =>
    cases terms_here with
    | error error => exact .same _
    | ok termBytes =>
      dsimp only
      cases TermFile.decode termBytes with
      | error error => exact .same _
      | ok termFile =>
        dsimp only
        cases links with
        | write => exact .write ..
        | read => exact .read ..
        | same => exact .same _

/-! ### The outcomes of a save -/

/-- If the paths of the index files lead to different places, then a save replaces both files or the
term file only or none, and it succeeds exactly if it replaces both. Nothing changes about this, or
about what is loaded before and after it, if there are other files beside the index files. -/
theorem save_atomic {result : Except StoreError Unit}
    (apart : ∀ place, disk.resolve config.termPath = .ok place →
      disk.resolve config.linkPath ≠ .ok place)
    (written : (Store.indexFiles config).save saved disk = (result, after)) :
    ((result ≠ .ok () ∧ SameAt config.termPath disk after ∧ SameAt config.linkPath disk after) ∨
      (result ≠ .ok () ∧ after.Contains config.termPath saved.termBytes ∧
        SameAt config.linkPath disk after) ∨
      (result = .ok () ∧ after.Contains config.termPath saved.termBytes ∧
        after.Contains config.linkPath saved.linkBytes)) ∧
    (¬disk.Contains config.linkPath saved.linkBytes →
      (result = .ok () ↔ after.Contains config.termPath saved.termBytes ∧
        after.Contains config.linkPath saved.linkBytes)) ∧
    ∀ other result' after', Alike config.leftovers disk other →
      (Store.indexFiles config).save saved other = (result', after') →
        SameOutcome result result' ∧
        (∀ path ∈ [config.termPath, config.linkPath], ∀ bytes,
          after'.Contains path bytes ↔ after.Contains path bytes) ∧
        SameOutcome ((Store.indexFiles config).load disk) ((Store.indexFiles config).load other) ∧
        SameOutcome ((Store.indexFiles config).load after)
          ((Store.indexFiles config).load after') := by
  have outcome := Config.save_cases apart written
  refine ⟨?_, fun differs => ?_, fun other result' after' alike written' => ?_⟩
  · cases outcome with
    | neither terms links => exact .inl ⟨by simp, terms, links⟩
    | termsOnly terms links => exact .inr (.inl ⟨by simp, terms.1, links⟩)
    | both terms links => exact .inr (.inr ⟨rfl, terms.1, links.1⟩)
  · cases outcome with
    | neither _ links =>
      refine iff_of_false (by simp) fun new => differs ?_
      exact (Disk.contains_congr links).mp new.2
    | termsOnly _ links =>
      refine iff_of_false (by simp) fun new => differs ?_
      exact (Disk.contains_congr links).mp new.2
    | both terms links => exact iff_of_true rfl ⟨terms.1, links.1⟩
  · obtain ⟨same, alike'⟩ := save_alike alike (Store.indexFiles config) saved
    rw [written, written'] at same alike'
    refine ⟨same, fun path index bytes => ?_, load_alike alike, load_alike alike'⟩
    simp only [List.mem_cons, List.not_mem_nil, or_false] at index
    rcases index with rfl | rfl
    · exact alike'.contains_iff (Config.notMem_leftovers Config.terms_mem)
    · exact alike'.contains_iff (Config.notMem_leftovers Config.links_mem)

/-! ### A save that breaks off beside a file that is left over -/

open Store (sampleConfig brokenSecond brokenAgain)

/-- What the save that breaks off was to save. -/
def brokenIndexes : SavedIndexes :=
  ⟨brokenSecond.2.1.log.nextOffset, brokenSecond.2.1.terms, brokenSecond.2.1.links⟩

/-- The disk before this save, with something beside the term file. -/
def litteredDisk : Disk :=
  brokenSecond.2.2.put ["term_string_offsets.tmp"] (.file 9 (FileBody.empty.append [1, 2, 3]))

theorem alike_littered : Alike sampleConfig.leftovers brokenSecond.2.2 litteredDisk :=
  .of_put (by decide +kernel) (by decide) (by decide +kernel) ..

/-- The terms are new and the links are not, with or without the file beside the term file. -/
theorem save_atomic_of_broken :
    brokenAgain.2.Contains sampleConfig.termPath brokenIndexes.termBytes ∧
      SameAt sampleConfig.linkPath brokenSecond.2.2 brokenAgain.2 ∧
      ((Store.indexFiles sampleConfig).save brokenIndexes litteredDisk).2.Contains
        sampleConfig.termPath brokenIndexes.termBytes := by
  have failed : brokenAgain.1 ≠ .ok () := by decide +kernel
  have written : (Store.indexFiles sampleConfig).save brokenIndexes brokenSecond.2.2 =
      (brokenAgain.1, brokenAgain.2) := by
    have same : brokenSecond.2.1.config = sampleConfig := by decide +kernel
    rw [brokenAgain, Store.save, same, brokenIndexes]
  have apart (place : Location)
      (resolved : brokenSecond.2.2.resolve sampleConfig.termPath = .ok place) :
      brokenSecond.2.2.resolve sampleConfig.linkPath ≠ .ok place := by
    rw [(Disk.resolve_eq_ok.mp resolved).2.2]
    decide +kernel
  obtain ⟨outcomes, _, leftovers⟩ := save_atomic apart written
  obtain ⟨_, contents, _⟩ := leftovers litteredDisk _ _ alike_littered rfl
  have terms : brokenAgain.2.Contains sampleConfig.termPath brokenIndexes.termBytes :=
    bytesAt_eq_ok_iff.mp (by decide +kernel : bytesAt _ _ .nextOffset = _)
  refine ⟨terms, ?_, (contents _ (by simp) _).mpr terms⟩
  rcases outcomes with ⟨_, _, links⟩ | ⟨_, _, links⟩ | ⟨succeeded, _⟩
  · exact links
  · exact links
  · exact absurd succeeded failed

/-! ### Paths that go astray -/

/-- A file extension with which the paths of all files lead out of the directories they begin
with. -/
def tangledConfig : Config := ⟨"kb", 1000, "/../x", Tokenizer.standard⟩

/-- A disk with these directories and a log. -/
def tangledDisk : Disk :=
  ((((Disk.empty.put ["kb"] .directory).put ["kb", "strings."] .directory).put
    ["kb", "term_string_offsets."] .directory).put
    ["kb", "string_offsets_link_hashes."] .directory).put
    ["kb", "x"] (.file 0 (FileBody.empty.append (logRecord (Text.encode "ab"))))

/-- The indexes when one identifier is linked to the only string of the log. -/
def tangledIndexes : SavedIndexes :=
  ⟨10, TermIndex.empty.indexTerms ["ab"] 0, (LinkIndex.empty.setReference 1 0).1⟩

/-- A file extension with which the path of an index file leads through what may be left over
beside it. -/
def crossedConfig : Config := ⟨"kb", 1000, "/x.tmp/../x", Tokenizer.standard⟩

/-- A disk with nothing but the directory of the term file. -/
def crossedDisk : Disk :=
  (Disk.empty.put ["kb"] .directory).put ["kb", "term_string_offsets."] .directory

def crossedLittered : Disk :=
  crossedDisk.put ["kb", "term_string_offsets.", "x.tmp"] (.file 0 .empty)

/-- If both paths lead to one place, a save succeeds after which the term file is neither the old
one nor the new one: the link file has taken its place. And if a path leads through what is left
over, a save fails for another reason than it would without. -/
theorem save_not_atomic :
    (((Store.indexFiles tangledConfig).save tangledIndexes tangledDisk).1 = .ok () ∧
      tangledDisk.Contains tangledConfig.termPath (logRecord (Text.encode "ab")) ∧
      ¬((Store.indexFiles tangledConfig).save tangledIndexes tangledDisk).2.Contains
        tangledConfig.termPath (logRecord (Text.encode "ab")) ∧
      ¬((Store.indexFiles tangledConfig).save tangledIndexes tangledDisk).2.Contains
        tangledConfig.termPath tangledIndexes.termBytes) ∧
    Alike crossedConfig.leftovers crossedDisk crossedLittered ∧
      ((Store.indexFiles crossedConfig).save tangledIndexes crossedDisk).1 =
        .error (.write (.create "kb/term_string_offsets./x.tmp/../x.tmp") .notFound) ∧
      ((Store.indexFiles crossedConfig).save tangledIndexes crossedLittered).1 =
        .error (.write (.create "kb/term_string_offsets./x.tmp/../x.tmp") .notADirectory) := by
  have before : tangledDisk.Contains tangledConfig.termPath (logRecord (Text.encode "ab")) :=
    bytesAt_eq_ok_iff.mp (by decide +kernel : bytesAt _ _ .nextOffset = _)
  have after : ((Store.indexFiles tangledConfig).save tangledIndexes tangledDisk).2.Contains
      tangledConfig.termPath tangledIndexes.linkBytes :=
    bytesAt_eq_ok_iff.mp (by decide +kernel : bytesAt _ _ .nextOffset = _)
  have alike : Alike crossedConfig.leftovers crossedDisk crossedLittered :=
    .of_put (by decide +kernel) (by decide) (by decide +kernel) ..
  refine ⟨⟨by decide +kernel, before, fun old => ?_, fun new => ?_⟩, alike,
    by decide +kernel, by decide +kernel⟩
  · exact absurd (old.unique after) (by decide +kernel)
  · exact absurd (new.unique after) (by decide +kernel)

end IndexFiles

end Concordance
