import Concordance.Text.Encoding
import Mathlib.Data.String.Basic

/-!
# Texts that begin other texts

The bytes of a text begin those of another one exactly if its characters do, since a character is
never cut by the end of a text. So terms can be compared by their bytes. How many bytes a text has
can be told from its characters as well.
-/
namespace Concordance.Text

theorem size_eq_utf8Len (text : String) : size text = String.utf8Len text.toList := by
  rw [size, ← String.utf8ByteSize_ofList, String.ofList_toList]

theorem encode_append (left right : String) :
    encode (left ++ right) = encode left ++ encode right := by
  simp [encode, String.toByteArray_append]

section Begins

variable {left right : String} {rest : Bytes} (split : encode left ++ rest = encode right)

include split

theorem toByteArray_of_encode_eq : right.toByteArray = left.toByteArray ++ ⟨rest.toArray⟩ := by
  apply ByteArray.ext
  apply Array.toList_inj.mp
  rw [ByteArray.data_append, Array.toList_append]
  exact split.symm

theorem extract_of_encode_eq :
    right.toByteArray.extract 0 left.utf8ByteSize = left.toByteArray := by
  rw [toByteArray_of_encode_eq split]
  exact ByteArray.extract_append_eq_left rfl

/-- Where a text ends that begins another one by its bytes, no character of the longer one is
cut. -/
theorem isValid_of_encode_eq : (⟨left.utf8ByteSize⟩ : String.Pos.Raw).IsValid right := by
  have sizes := congrArg ByteArray.size (toByteArray_of_encode_eq split)
  rw [ByteArray.size_append, String.size_toByteArray, String.size_toByteArray] at sizes
  rw [String.Pos.Raw.isValid_iff_isValidUTF8_extract_zero, extract_of_encode_eq split,
    String.Pos.Raw.le_iff, String.byteIdx_rawEndPos]
  exact ⟨by simp only; omega, left.isValidUTF8⟩

theorem isPrefix_of_encode_eq : left.toList <+: right.toList := by
  have splits := String.Pos.splits ⟨_, isValid_of_encode_eq split⟩
  have first := splits.toByteArray_left_eq.trans (extract_of_encode_eq split)
  rw [splits.eq_append, String.toByteArray_inj.mp first, String.toList_append]
  exact List.prefix_append ..

end Begins

/-- A text begins another one by its bytes exactly if it does by its characters. -/
theorem encode_isPrefix_iff {left right : String} :
    encode left <+: encode right ↔ left.toList <+: right.toList := by
  constructor
  · rintro ⟨rest, split⟩
    exact isPrefix_of_encode_eq split
  · rintro ⟨rest, split⟩
    have whole : right = left ++ String.ofList rest := by
      rw [← String.toList_inj, String.toList_append, String.toList_ofList, split]
    rw [whole, encode_append]
    exact List.prefix_append ..

end Concordance.Text
