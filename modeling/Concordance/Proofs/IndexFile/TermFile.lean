import Concordance.IndexFile.TermFile
import Concordance.Proofs.IndexFile.Words
import Concordance.Proofs.TermIndex

/-!
# Saving the terms

What is written for a term index is read back as an index with the same offsets under every term:
the sizes and counts of what fits into a file are words. The index that any file describes has under
each term the offsets of all records of the term, in the order of the file.
-/
namespace Concordance

open IndexFile

namespace TermRecord

/-- The size of the term and the number of its offsets are words. -/
structure Fits (record : TermRecord) : Prop where
  term : record.term.length < UInt64.size
  offsets : record.offsets.length < UInt64.size

theorem encode_fields (record : TermRecord) :
    encode record.fields =
      Word.toBytes (UInt64.ofNat record.term.length) ++ (record.term ++
        (Word.toBytes (UInt64.ofNat record.offsets.length) ++
          record.offsets.flatMap Word.toBytes)) := by
  simp only [fields, encode_append, encode_cons, encode_nil, encode_words, bytes_word,
    List.append_assoc, List.append_nil]

/-- What fits into a file has a size and a count that are words. -/
theorem fits_of_length {record : TermRecord}
    (small : (encode record.fields).length ≤ Disk.sizeLimit) : record.Fits := by
  simp only [encode_fields, List.length_append, Word.length_toBytes, length_words, Word.width,
    Disk.sizeLimit] at small
  constructor
  · simp only [UInt64.size]
    omega
  · simp only [UInt64.size]
    omega

theorem take?_append {record : TermRecord} (fits : record.Fits) (rest : Bytes) :
    take? (encode record.fields ++ rest) = .ok (some (record, rest)) := by
  have offsets : takeWords .stringOffset [] record.offsets.length
      (record.offsets.flatMap Word.toBytes ++ rest) = .ok (record.offsets, rest) :=
    takeWords_append [] record.offsets rest
  simp only [encode_fields, take?, List.append_assoc, takeFirst_append,
    takeBytes_append fits.term, takeWord_append, UInt64.toNat_ofNat_of_lt' fits.offsets, offsets]

end TermRecord

namespace TermFile

/-! ### The bytes of a file -/

theorem encode_fields (file : TermFile) :
    encode file.fields =
      Word.toBytes file.nextOffset ++
        file.records.flatMap fun record => encode record.fields := by
  rw [fields, encode_cons, encode_flatMap, bytes_word]

/-- A file that could be written can be read. -/
theorem decode_encode {file : TermFile} (small : (encode file.fields).length ≤ Disk.sizeLimit) :
    decode (encode file.fields) = .ok file := by
  have fits : ∀ record ∈ file.records, record.Fits := by
    intro record member
    have part := length_le_length_flatMap (fun record => encode (TermRecord.fields record)) member
    rw [encode_fields, List.length_append] at small
    exact TermRecord.fits_of_length (by omega)
  have records := takeAll_flatMap TermRecord.take?_length (fun record => encode record.fields)
    rfl [] file.records fun record member => TermRecord.take?_append (fits record member)
  simp only [encode_fields, decode, takeWord_append, records, List.reverse_nil, List.nil_append]

/-! ### The index of a file -/

/-- The offsets of a file, each with its term, in the order of the file. -/
def additions (file : TermFile) : List (Bytes × Offset) :=
  file.records.flatMap fun record => record.offsets.map (record.term, ·)

theorem index_eq (file : TermFile) : file.index = TermIndex.empty.addAll file.additions := by
  rw [index, TermIndex.addAll, additions, List.foldl_flatMap]
  simp only [List.foldl_map]

theorem wellFormed_index (file : TermFile) : file.index.WellFormed := by
  rw [index_eq]
  exact TermIndex.wellFormed_addAll TermIndex.wellFormed_empty _

theorem offsetsAt_index (file : TermFile) (key : Bytes) :
    file.index.offsetsAt key =
      (file.records.filter (·.term = key)).flatMap TermRecord.offsets := by
  rw [index_eq, TermIndex.offsetsAt_addAll TermIndex.wellFormed_empty, TermIndex.offsetsAt_empty,
    List.nil_append, additions]
  -- a record of another term adds nothing under this one
  induction file.records with
  | nil => rfl
  | cons record rest ih =>
    rw [TermIndex.under] at ih
    rw [List.flatMap_cons, TermIndex.under, List.filter_append, List.map_append, ih,
      List.filter_cons]
    by_cases same : record.term = key
    · rw [if_pos (decide_eq_true same), List.flatMap_cons]
      simp [List.filter_map, Function.comp_def, same]
    · rw [if_neg (by simpa using same)]
      simp [List.filter_map, Function.comp_def, same]

/-- An offset is indexed exactly if it stands in a record. -/
theorem mem_offsetsAt_index {file : TermFile} {offset : Offset} :
    (∃ key, offset ∈ file.index.offsetsAt key) ↔
      ∃ record ∈ file.records, offset ∈ record.offsets := by
  simp only [offsetsAt_index, List.mem_flatMap, List.mem_filter, decide_eq_true_eq]
  constructor
  · rintro ⟨key, record, ⟨member, _⟩, inside⟩
    exact ⟨record, member, inside⟩
  · rintro ⟨record, member, inside⟩
    exact ⟨record.term, record, ⟨member, rfl⟩, inside⟩

/-! ### The file of an index -/

theorem mem_records_ofIndex {nextOffset : Offset} {terms : TermIndex} (formed : terms.WellFormed)
    {record : TermRecord} :
    record ∈ (ofIndex nextOffset terms).records ↔
      record.offsets = terms.offsetsAt record.term ∧ record.offsets ≠ [] := by
  obtain ⟨term, offsets⟩ := record
  simp only [ofIndex, List.mem_map, Prod.exists, TermRecord.mk.injEq]
  constructor
  · rintro ⟨_, _, member, rfl, rfl⟩
    exact (TermIndex.mem_entries formed).mp member
  · intro entry
    exact ⟨term, offsets, (TermIndex.mem_entries formed).mpr entry, rfl, rfl⟩

theorem nodup_records_ofIndex (nextOffset : Offset) {terms : TermIndex}
    (formed : terms.WellFormed) : (ofIndex nextOffset terms).records.Nodup := by
  have ascending := Trie.ordered_entries formed.tree
  simp only [ofIndex, TermIndex.entries, List.map_map]
  -- the terms ascend, so no two records have the same one
  refine List.pairwise_map.mpr (ascending.imp fun {left right} less same => ?_)
  have terms_same : left.1 = right.1 := congrArg TermRecord.term same
  rw [terms_same] at less
  exact List.lt_irrefl _ less

/-- Saving an index and reading it back gives the same offsets under every term. -/
theorem offsetsAt_index_ofIndex (nextOffset : Offset) {terms : TermIndex}
    (formed : terms.WellFormed) (key : Bytes) :
    (ofIndex nextOffset terms).index.offsetsAt key = terms.offsetsAt key := by
  rw [offsetsAt_index]
  -- at most one record has the term, since no record stands twice in the file
  have only (record : TermRecord) (member : record ∈
      (ofIndex nextOffset terms).records.filter (·.term = key)) :
      record = ⟨key, terms.offsetsAt key⟩ := by
    obtain ⟨inside, same⟩ := List.mem_filter.mp member
    obtain rfl := of_decide_eq_true same
    obtain ⟨offsets, _⟩ := (mem_records_ofIndex formed).mp inside
    rw [← offsets]
  have repeated := List.eq_replicate_of_mem only
  have once := (nodup_records_ofIndex nextOffset formed).filter (·.term = key)
  rw [repeated, List.nodup_replicate] at once
  cases count : ((ofIndex nextOffset terms).records.filter (·.term = key)).length with
  | zero =>
    -- without a record there is no offset, or else the offsets would have been written
    rw [List.length_eq_zero_iff.mp count, List.flatMap_nil]
    by_contra filled
    have member : (⟨key, terms.offsetsAt key⟩ : TermRecord) ∈ (ofIndex nextOffset terms).records :=
      (mem_records_ofIndex formed).mpr ⟨rfl, Ne.symm filled⟩
    have none := List.filter_eq_nil_iff.mp (List.length_eq_zero_iff.mp count) _ member
    exact none (decide_eq_true rfl)
  | succ more =>
    rw [count] at repeated once
    obtain rfl : more = 0 := by omega
    rw [repeated]
    exact List.append_nil _

end TermFile

end Concordance
