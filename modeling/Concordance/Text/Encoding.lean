import Concordance.Word

/-!
# Text as bytes

Text is stored in UTF-8. `Text.decode?` accepts exactly the bytes that some text is written in,
and returns that text.
-/
namespace Concordance.Text

/-- The bytes a text is stored as. -/
def encode (text : String) : Bytes :=
  text.toByteArray.data.toList

/-- The text stored as `bytes`, when there is one. -/
def decode? (bytes : Bytes) : Option String :=
  String.fromUTF8? ⟨bytes.toArray⟩

/-- The length of a text in bytes. -/
def size (text : String) : Nat :=
  text.utf8ByteSize

@[simp]
theorem length_encode (text : String) : (encode text).length = size text := by
  simp only [encode, Array.length_toList]
  rfl

@[simp]
theorem decode?_encode (text : String) : decode? (encode text) = some text := by
  have same : (⟨(encode text).toArray⟩ : ByteArray) = text.toByteArray := by simp [encode]
  rw [decode?, same, String.fromUTF8?, dif_pos text.isValidUTF8]
  rfl

theorem decode?_eq_some_iff {bytes : Bytes} {text : String} :
    decode? bytes = some text ↔ bytes = encode text := by
  constructor
  · intro read
    simp only [decode?, String.fromUTF8?] at read
    split at read
    · simp only [Option.some.injEq] at read
      subst read
      simp [encode, String.fromUTF8]
    · simp at read
  · rintro rfl
    exact decode?_encode text

theorem encode_injective {left right : String} (same : encode left = encode right) :
    left = right := by
  have read := decode?_encode left
  rw [same, decode?_encode] at read
  exact (Option.some.inj read).symm

end Concordance.Text
