import Concordance.Proofs.IndexFile.LinkFile
import Concordance.Proofs.IndexFile.TermFile

/-!
# One spelling for each index

What is written for an index depends only on what can be looked up in it: on the offsets under every
term and on the reference of every identifier. The terms of a file ascend in whatever order they
came into the index, and the owners of an offset ascend whoever has owned it in the meantime. So two
runs that end with the same table write the same bytes.
-/
namespace Concordance

open IndexFile (encode)

theorem TermFile.ofIndex_congr {left right : TermIndex} (left_formed : left.WellFormed)
    (right_formed : right.WellFormed)
    (same : ∀ key, left.offsetsAt key = right.offsetsAt key) (nextOffset : Offset) :
    ofIndex nextOffset left = ofIndex nextOffset right := by
  rw [ofIndex, ofIndex, TermIndex.entries_eq left_formed right_formed same]

theorem LinkFile.ofIndex_congr {left right : LinkIndex} (left_sound : left.Sound)
    (right_sound : right.Sound) (same : ∀ id, left.referenceOf? id = right.referenceOf? id) :
    ofIndex left = ofIndex right := by
  rw [ofIndex, ofIndex, LinkIndex.entries_eq left_sound right_sound same]

namespace IndexFile

/-- Two runs that leave the same offsets under every term write the same term file, and two runs in
which every identifier was last set to the same offset write the same link file. -/
theorem written_canonical :
    (∀ (nextOffset : Offset) (left right : List (List String × Offset)),
      (∀ term, (TermIndex.empty.indexAll left).offsetsFor term =
        (TermIndex.empty.indexAll right).offsetsFor term) →
      encode (TermFile.ofIndex nextOffset (TermIndex.empty.indexAll left)).fields =
        encode (TermFile.ofIndex nextOffset (TermIndex.empty.indexAll right)).fields) ∧
    ∀ left right : List (LinkId × Offset),
      (∀ id, LinkIndex.last? left id = LinkIndex.last? right id) →
      encode (LinkFile.ofIndex (LinkIndex.empty.setAll left)).fields =
        encode (LinkFile.ofIndex (LinkIndex.empty.setAll right)).fields := by
  constructor
  · intro nextOffset left right same
    rw [TermFile.ofIndex_congr (TermIndex.wellFormed_indexAll TermIndex.wellFormed_empty left)
      (TermIndex.wellFormed_indexAll TermIndex.wellFormed_empty right)
      (TermIndex.offsetsAt_indexAll_congr same)]
  · intro left right same
    have referred (id : LinkId) : (LinkIndex.empty.setAll left).referenceOf? id =
        (LinkIndex.empty.setAll right).referenceOf? id := by
      rw [LinkIndex.referenceOf?_setAll, LinkIndex.referenceOf?_setAll, same]
    rw [LinkFile.ofIndex_congr (LinkIndex.sound_setAll LinkIndex.sound_empty left)
      (LinkIndex.sound_setAll LinkIndex.sound_empty right) referred]

/-- The terms of two runs come in another order, and one is indexed twice by a string of the first
run and by two calls of the second. -/
def firstStrings : List (List String × Offset) := [(["b", "ab", "b"], 0), (["a", "ab", ""], 12)]

def secondStrings : List (List String × Offset) :=
  [([""], 12), (["b"], 0), (["a"], 12), (["ab", "b"], 0), (["ab"], 12)]

/-- In the first run an offset is owned, left by everybody and owned again. -/
def firstSettings : List (LinkId × Offset) := [(1, 0), (1, 12), (2, 0), (3, 12), (1, 0)]

def secondSettings : List (LinkId × Offset) := [(3, 12), (2, 0), (1, 0)]

theorem written_canonical_of_reordered :
    encode (TermFile.ofIndex 24 (TermIndex.empty.indexAll firstStrings)).fields =
        encode (TermFile.ofIndex 24 (TermIndex.empty.indexAll secondStrings)).fields ∧
      encode (LinkFile.ofIndex (LinkIndex.empty.setAll firstSettings)).fields =
        encode (LinkFile.ofIndex (LinkIndex.empty.setAll secondSettings)).fields := by
  have terms (term : String) : (TermIndex.empty.indexAll firstStrings).offsetsFor term =
      (TermIndex.empty.indexAll secondStrings).offsetsFor term := by
    by_cases known : term ∈ ["", "a", "ab", "b"]
    · simp only [List.mem_cons, List.not_mem_nil, or_false] at known
      rcases known with rfl | rfl | rfl | rfl <;> decide +kernel
    · have inside : ∀ string ∈ firstStrings ++ secondStrings, ∀ other ∈ string.1,
          other ∈ ["", "a", "ab", "b"] := by decide
      have absent (string) (member : string ∈ firstStrings ++ secondStrings) (other)
          (listed : other ∈ string.1) : Text.encode other ≠ Text.encode term := by
        intro same
        exact known (Text.encode_injective same ▸ inside string member other listed)
      -- no string has the term
      rw [TermIndex.offsetsFor_eq, TermIndex.offsetsFor_eq,
        TermIndex.offsetsAt_indexAll_of_absent fun string member =>
          absent string (List.mem_append_left _ member),
        TermIndex.offsetsAt_indexAll_of_absent fun string member =>
          absent string (List.mem_append_right _ member)]
  have links (id : LinkId) : LinkIndex.last? firstSettings id =
      LinkIndex.last? secondSettings id := by
    by_cases known : id ∈ [1, 2, 3]
    · simp only [List.mem_cons, List.not_mem_nil, or_false] at known
      rcases known with rfl | rfl | rfl <;> decide
    · have inside : ∀ setting ∈ firstSettings ++ secondSettings, setting.1 ∈ [1, 2, 3] := by
        simp [firstSettings, secondSettings]
      have absent (setting) (member : setting ∈ firstSettings ++ secondSettings) :
          setting.1 ≠ id := fun same => known (same ▸ inside setting member)
      rw [LinkIndex.last?_eq_none_iff.mpr fun setting member =>
          absent setting (List.mem_append_left _ member),
        LinkIndex.last?_eq_none_iff.mpr fun setting member =>
          absent setting (List.mem_append_right _ member)]
  exact ⟨written_canonical.1 24 _ _ terms, written_canonical.2 _ _ links⟩

end IndexFile

end Concordance
