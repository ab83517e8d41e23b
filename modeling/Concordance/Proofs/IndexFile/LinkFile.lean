import Concordance.IndexFile.LinkFile
import Concordance.Proofs.IndexFile.Words
import Concordance.Proofs.LinkIndex

/-!
# Saving the links

Only the owners of the offsets are written. Reading them back sets each reference anew, and since
no identifier owns two offsets, it comes to refer to what it referred to.
-/
namespace Concordance

open IndexFile

namespace LinkRecord

/-- The number of the identifiers is a word. -/
def Fits (record : LinkRecord) : Prop := record.ids.length < UInt64.size

theorem encode_fields (record : LinkRecord) :
    encode record.fields =
      Word.toBytes record.offset ++ (Word.toBytes (UInt64.ofNat record.ids.length) ++
        record.ids.flatMap Word.toBytes) := by
  simp only [fields, encode_append, encode_cons, encode_nil, encode_words, bytes_word,
    List.append_assoc, List.append_nil]

/-- What fits into a file has a count that is a word. -/
theorem fits_of_length {record : LinkRecord}
    (small : (encode record.fields).length ≤ Disk.sizeLimit) : record.Fits := by
  simp only [encode_fields, List.length_append, Word.length_toBytes, length_words, Word.width,
    Disk.sizeLimit] at small
  simp only [Fits, UInt64.size]
  omega

theorem take?_append {record : LinkRecord} (fits : record.Fits) (rest : Bytes) :
    take? (encode record.fields ++ rest) = .ok (some (record, rest)) := by
  have ids : takeWords .link [] record.ids.length (record.ids.flatMap Word.toBytes ++ rest) =
      .ok (record.ids, rest) := takeWords_append [] record.ids rest
  simp only [encode_fields, take?, List.append_assoc, takeFirst_append, takeWord_append,
    UInt64.toNat_ofNat_of_lt' fits, ids]

end LinkRecord

namespace LinkFile

/-! ### The bytes of a file -/

theorem encode_fields (file : LinkFile) :
    encode file.fields = file.records.flatMap fun record => encode record.fields :=
  encode_flatMap ..

/-- A file that could be written can be read. -/
theorem decode_encode {file : LinkFile} (small : (encode file.fields).length ≤ Disk.sizeLimit) :
    decode (encode file.fields) = .ok file := by
  have fits : ∀ record ∈ file.records, record.Fits := by
    intro record member
    have part := length_le_length_flatMap (fun record => encode (LinkRecord.fields record)) member
    rw [encode_fields] at small
    exact LinkRecord.fits_of_length (Nat.le_trans part small)
  have records := takeAll_flatMap LinkRecord.take?_length (fun record => encode record.fields)
    rfl [] file.records fun record member => LinkRecord.take?_append (fits record member)
  simp only [encode_fields, decode, records, List.reverse_nil, List.nil_append]

/-! ### The index of a file -/

/-- The identifiers of a file, each with its offset, in the order of the file. -/
def settings (file : LinkFile) : List (LinkId × Offset) :=
  file.records.flatMap fun record => record.ids.map (·, record.offset)

theorem index_eq (file : LinkFile) : file.index = LinkIndex.empty.setAll file.settings := by
  rw [index, LinkIndex.setAll, settings, List.foldl_flatMap]
  simp only [LinkIndex.setReferences, List.foldl_map]

theorem sound_index (file : LinkFile) : file.index.Sound := by
  rw [index_eq]
  exact LinkIndex.sound_setAll LinkIndex.sound_empty _

/-- If the records agree on the offset of every identifier, this is what it comes to refer to. -/
theorem referenceOf?_foldl {target : LinkId → Option Offset} {records : List LinkRecord}
    (agree : ∀ record ∈ records, ∀ id ∈ record.ids, target id = some record.offset)
    (index : LinkIndex) (id : LinkId) :
    (records.foldl (fun index record => index.setReferences record.ids record.offset)
        index).referenceOf? id =
      if ∃ record ∈ records, id ∈ record.ids then target id else index.referenceOf? id := by
  induction records generalizing index with
  | nil => simp
  | cons record rest ih =>
    rw [List.foldl_cons, ih fun later member => agree later (List.mem_cons_of_mem _ member),
      LinkIndex.referenceOf?_setReferences]
    -- the record sets the reference unless a later one sets it again, to the same offset
    by_cases here : id ∈ record.ids
    · have named : ∃ other ∈ record :: rest, id ∈ other.ids := ⟨record, List.mem_cons_self, here⟩
      rw [if_pos here, if_pos named, agree record List.mem_cons_self id here, ite_self]
    · rw [if_neg here]
      simp only [List.mem_cons, exists_eq_or_imp, here, false_or]

/-! ### The file of an index -/

theorem mem_records_ofIndex {links : LinkIndex} (filled : links.Filled) {record : LinkRecord} :
    record ∈ (ofIndex links).records ↔
      record.ids = links.ownersOf record.offset ∧ record.ids ≠ [] := by
  obtain ⟨offset, ids⟩ := record
  simp only [ofIndex, List.mem_map, Prod.exists, LinkRecord.mk.injEq]
  constructor
  · rintro ⟨_, _, member, rfl, rfl⟩
    exact (LinkIndex.mem_entries filled).mp member
  · intro entry
    exact ⟨offset, ids, (LinkIndex.mem_entries filled).mpr entry, rfl, rfl⟩

/-- Saving an index and reading it back gives the same references. -/
theorem referenceOf?_index_ofIndex {links : LinkIndex} (sound : links.Sound) (id : LinkId) :
    (ofIndex links).index.referenceOf? id = links.referenceOf? id := by
  have agree : ∀ record ∈ (ofIndex links).records, ∀ id ∈ record.ids,
      links.referenceOf? id = some record.offset := by
    intro record member id listed
    -- a record lists the owners of its offset, and no identifier owns two offsets
    rw [((mem_records_ofIndex sound.filled).mp member).1] at listed
    exact sound.inverse.mp listed
  rw [index, referenceOf?_foldl agree]
  split
  · rfl
  · next unlisted =>
    -- an identifier that is not listed owns nothing, so it refers to nothing
    cases referred : links.referenceOf? id with
    | none => simp [LinkIndex.empty, LinkIndex.referenceOf?]
    | some offset =>
      have owner := sound.inverse.mpr referred
      have member : (⟨offset, links.ownersOf offset⟩ : LinkRecord) ∈ (ofIndex links).records :=
        (mem_records_ofIndex sound.filled).mpr ⟨rfl, List.ne_nil_of_mem owner⟩
      exact absurd ⟨_, member, owner⟩ unlisted

end LinkFile

end Concordance
