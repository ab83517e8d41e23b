import Concordance.Proofs.IndexFile.Canonical
import Concordance.Proofs.IndexFile.Format
import Concordance.Proofs.Store.Atomic

/-!
# Saving and loading

What has been saved is loaded again: the same terms with the same offsets in the same order, the
same references and the same owners. The tree of terms is rebuilt in the order of the file and the
owners are found by setting one reference after the other, so the loaded indexes are other data than
the saved ones, but nothing that can be asked of them tells the difference, and saving them again
writes the same bytes. All this needs the term file to be still there when the link file has been
written, so neither the link file nor what is written beside it may take its place.
-/
namespace Concordance

open IndexFile (encode replaceFile)

namespace SavedIndexes

/-- Indexes that can come to be saved: those that have been built, and those that have been
loaded. -/
inductive Arises : SavedIndexes → Prop
  | built (nextOffset : Offset) (strings : List (List String × Offset))
    (settings : List (LinkId × Offset)) :
    Arises ⟨nextOffset, TermIndex.empty.indexAll strings, LinkIndex.empty.setAll settings⟩
  | loaded {files : IndexFiles} {disk : Disk} {saved : SavedIndexes} :
    files.load disk = .ok saved → Arises saved

/-- The same can be read off both indexes. -/
structure Same (left right : SavedIndexes) : Prop where
  nextOffset : left.nextOffset = right.nextOffset
  entries : left.terms.entries = right.terms.entries
  size : left.terms.size = right.terms.size
  referenceOf? (id : LinkId) : left.links.referenceOf? id = right.links.referenceOf? id
  ownersOf (offset : Offset) : left.links.ownersOf offset = right.links.ownersOf offset

variable {saved : SavedIndexes}

theorem Arises.wellFormed (arises : saved.Arises) : saved.terms.WellFormed ∧ saved.links.Sound := by
  cases arises with
  | built nextOffset strings settings =>
    exact ⟨TermIndex.wellFormed_indexAll TermIndex.wellFormed_empty strings,
      LinkIndex.sound_setAll LinkIndex.sound_empty settings⟩
  | loaded accepted =>
    obtain ⟨_, termFile, _, linkFile, _, _, _, _, rfl⟩ := IndexFiles.load_eq_ok_iff.mp accepted
    exact ⟨termFile.wellFormed_index, linkFile.sound_index⟩

/-- What is read from the files that hold indexes. -/
def reread (saved : SavedIndexes) : SavedIndexes :=
  ⟨saved.nextOffset, (TermFile.ofIndex saved.nextOffset saved.terms).index,
    (LinkFile.ofIndex saved.links).index⟩

theorem same_reread (terms : saved.terms.WellFormed) (links : saved.links.Sound) :
    saved.reread.Same saved := by
  have entries : saved.reread.terms.entries = saved.terms.entries :=
    TermIndex.entries_eq (TermFile.wellFormed_index _) terms
      (TermFile.offsetsAt_index_ofIndex saved.nextOffset terms)
  have references : ∀ id, saved.reread.links.referenceOf? id = saved.links.referenceOf? id :=
    LinkFile.referenceOf?_index_ofIndex links
  refine ⟨rfl, entries, ?_, references, ?_⟩
  · have formed : saved.reread.terms.WellFormed := TermFile.wellFormed_index _
    rw [TermIndex.size_eq formed, TermIndex.size_eq terms, entries]
  · exact LinkIndex.ownersOf_eq (LinkFile.sound_index _) links references

end SavedIndexes

/-- Two disks with the same file at a path agree on what the file contains. -/
theorem Disk.Contains.iff {left right : Disk} {path : String} {common bytes : Bytes}
    (here : left.Contains path common) (there : right.Contains path common) :
    left.Contains path bytes ↔ right.Contains path bytes := by
  constructor
  · intro other
    exact here.unique other ▸ there
  · intro other
    exact there.unique other ▸ here

namespace IndexFiles

variable {files : IndexFiles} {saved : SavedIndexes} {disk after : Disk}

/-- A save writes the bytes of both files, if the link file and what is written beside it leave the
term file alone. -/
theorem contains_of_save (apart : Path.locate files.linkPath ≠ Path.locate files.termPath)
    (beside : Path.locate (Path.temporary files.linkPath) ≠ Path.locate files.termPath)
    (written : files.save saved disk = (.ok (), after)) :
    after.Complete files.termPath (TermFile.ofIndex saved.nextOffset saved.terms).fields ∧
      after.Complete files.linkPath (LinkFile.ofIndex saved.links).fields := by
  unfold save at written
  split at written
  · cases written
  · next middle terms =>
    rcases IndexFile.replaceFile_spec terms with ⟨failed, _⟩ | ⟨_, complete, _, _⟩
    · exact absurd rfl failed
    · rcases IndexFile.replaceFile_spec written with ⟨failed, _⟩ | ⟨_, complete', kept, _⟩
      · exact absurd rfl failed
      · refine ⟨⟨(kept.contains_iff fun place resolved => ?_).mpr (complete rfl).1,
          (complete rfl).2⟩, complete' rfl⟩
        -- what the second replacement changes is not where the term file is
        rw [(Disk.resolve_eq_ok.mp resolved).2.2]
        simp only [List.mem_cons, List.not_mem_nil, or_false, not_or]
        exact ⟨beside.symm, apart.symm⟩

theorem load_of_complete
    (terms : after.Complete files.termPath (TermFile.ofIndex saved.nextOffset saved.terms).fields)
    (links : after.Complete files.linkPath (LinkFile.ofIndex saved.links).fields) :
    files.load after = .ok saved.reread :=
  load_eq_ok_iff.mpr ⟨_, _, _, _, terms.1, TermFile.decode_encode terms.2, links.1,
    LinkFile.decode_encode links.2, rfl⟩

/-- Saving what has been read does what saving the original does. -/
theorem save_reread (terms : saved.terms.WellFormed) (links : saved.links.Sound)
    (files : IndexFiles) (disk : Disk) : files.save saved.reread disk = files.save saved disk := by
  have same_terms : TermFile.ofIndex saved.reread.nextOffset saved.reread.terms =
      TermFile.ofIndex saved.nextOffset saved.terms :=
    TermFile.ofIndex_congr (TermFile.wellFormed_index _) terms
      (TermFile.offsetsAt_index_ofIndex saved.nextOffset terms) saved.nextOffset
  have same_links : LinkFile.ofIndex saved.reread.links = LinkFile.ofIndex saved.links :=
    LinkFile.ofIndex_congr (LinkFile.sound_index _) links
      (LinkFile.referenceOf?_index_ofIndex links)
  rw [save, save, same_terms, same_links]

/-- Whatever has been built or loaded and then saved is loaded again, as long as the link file does
not take the place of the term file: the loaded indexes answer like the saved ones, saving them
anywhere does what saving the others does, and saving them to the same files leaves the same bytes
there. -/
theorem load_after_saving (arises : saved.Arises)
    (apart : Path.locate files.linkPath ≠ Path.locate files.termPath)
    (beside : Path.locate (Path.temporary files.linkPath) ≠ Path.locate files.termPath)
    (written : files.save saved disk = (.ok (), after)) :
    ∃ loaded, files.load after = .ok loaded ∧ loaded.Same saved ∧
      (∀ (other : IndexFiles) (before : Disk), other.save loaded before = other.save saved before) ∧
      ∀ again, files.save loaded after = (.ok (), again) →
        ∀ path ∈ [files.termPath, files.linkPath], ∀ bytes,
          again.Contains path bytes ↔ after.Contains path bytes := by
  obtain ⟨terms, links⟩ := arises.wellFormed
  obtain ⟨terms_written, links_written⟩ := contains_of_save apart beside written
  refine ⟨saved.reread, load_of_complete terms_written links_written,
    SavedIndexes.same_reread terms links, save_reread terms links, ?_⟩
  intro again rewritten path member bytes
  rw [save_reread terms links] at rewritten
  obtain ⟨terms_again, links_again⟩ := contains_of_save apart beside rewritten
  -- both saves have written the same bytes, and a file has no others
  simp only [List.mem_cons, List.not_mem_nil, or_false] at member
  rcases member with rfl | rfl
  · exact terms_again.1.iff terms_written.1
  · exact links_again.1.iff links_written.1

/-! ### Files beside each other -/

/-- Two index files in one directory. -/
def plainFiles : IndexFiles := ⟨"terms", "links"⟩

/-- Indexes of two runs that are built in no particular order. -/
def builtIndexes : SavedIndexes :=
  ⟨24, TermIndex.empty.indexAll IndexFile.firstStrings,
    LinkIndex.empty.setAll IndexFile.firstSettings⟩

theorem load_after_saving_of_built :
    ∃ loaded, plainFiles.load (plainFiles.save builtIndexes Disk.empty).2 = .ok loaded ∧
      loaded.nextOffset = 24 ∧
      loaded.terms.entries = [([], [12]), (Text.encode "a", [12]), (Text.encode "ab", [0, 12]),
        (Text.encode "b", [0, 0])] ∧
      loaded.links.referenceOf? 3 = some 12 ∧ loaded.links.ownersOf 0 = [1, 2] := by
  have written : plainFiles.save builtIndexes Disk.empty =
      (.ok (), (plainFiles.save builtIndexes Disk.empty).2) :=
    Prod.ext (by decide +kernel) rfl
  obtain ⟨loaded, loads, same, _⟩ :=
    load_after_saving (.built ..) (by decide +kernel) (by decide +kernel) written
  refine ⟨loaded, loads, same.nextOffset, ?_, ?_, ?_⟩
  · rw [same.entries]
    decide +kernel
  · rw [same.referenceOf?]
    decide +kernel
  · rw [same.ownersOf]
    decide +kernel

/-! ### Files in each other's place -/

/-- What is written beside the link file takes the place of the term file. -/
def nestedFiles : IndexFiles := ⟨"x.tmp", "x"⟩

/-- If the link file, or what is written beside it, takes the place of the term file, then indexes
are saved without an error and cannot be loaded. -/
theorem load_after_saving_astray :
    tangledIndexes.Arises ∧
    (((Store.indexFiles tangledConfig).save tangledIndexes tangledDisk).1 = .ok () ∧
      (Store.indexFiles tangledConfig).load
        ((Store.indexFiles tangledConfig).save tangledIndexes tangledDisk).2 =
          .error (.read .termCount .endOfFile)) ∧
    (nestedFiles.save tangledIndexes Disk.empty).1 = .ok () ∧
      nestedFiles.load (nestedFiles.save tangledIndexes Disk.empty).2 =
        .error (.read (.openFile "x.tmp") .notFound) := by
  refine ⟨.built 10 [(["ab"], 0)] [(1, 0)], ⟨by decide +kernel, ?_⟩, by decide +kernel, ?_⟩
  · -- the offset, the count and the identifier of the link file are read as the end of the log, the
    -- size of a term and the term with what follows it
    have bytes : bytesAt ((Store.indexFiles tangledConfig).save tangledIndexes tangledDisk).2
        (Store.indexFiles tangledConfig).termPath .nextOffset = .ok tangledIndexes.linkBytes := by
      decide +kernel
    have header : IndexFile.takeWord .nextOffset tangledIndexes.linkBytes =
        .ok (0, tangledIndexes.linkBytes.drop 8) := by decide +kernel
    have record : TermRecord.take? (tangledIndexes.linkBytes.drop 8) =
        .error (.read .termCount .endOfFile) := by decide +kernel
    have refused : TermFile.decode tangledIndexes.linkBytes =
        .error (.read .termCount .endOfFile) := by
      simp only [TermFile.decode, header, IndexFile.takeAll_of_error record]
    rw [load, bytes]
    dsimp only
    rw [refused]
  · have missing : bytesAt (nestedFiles.save tangledIndexes Disk.empty).2 nestedFiles.termPath
        .nextOffset = .error (.read (.openFile "x.tmp") .notFound) := by decide +kernel
    rw [load, missing]

end IndexFiles

end Concordance
