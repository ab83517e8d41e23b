import Concordance.IndexFile.Field
import Concordance.IndexFile.Words

/-!
# Reading what was written

A word, a byte string or a list of words is read back from the bytes it was written as, whatever
follows them. A file of records is read back when each record is.
-/
namespace Concordance.IndexFile

variable {step : Step}

@[simp]
theorem bytes_word (word : UInt64) : (Field.word step word).bytes = Word.toBytes word := rfl

@[simp]
theorem encode_nil : encode [] = [] := rfl

@[simp]
theorem encode_cons (field : Field) (rest : List Field) :
    encode (field :: rest) = field.bytes ++ encode rest := rfl

@[simp]
theorem encode_append (left right : List Field) :
    encode (left ++ right) = encode left ++ encode right :=
  List.flatMap_append

theorem encode_words (words : List UInt64) :
    encode (words.map (.word step)) = words.flatMap Word.toBytes := by
  rw [encode, List.flatMap_map]
  rfl

theorem encode_flatMap {α : Type} (fields : α → List Field) (records : List α) :
    encode (records.flatMap fields) = records.flatMap fun record => encode (fields record) := by
  simp only [encode, List.flatMap_assoc]

theorem length_words (words : List UInt64) :
    (words.flatMap Word.toBytes).length = words.length * Word.width := by
  simp only [List.length_flatMap, Word.length_toBytes, List.map_const', List.sum_replicate_nat]

theorem length_le_length_flatMap {α : Type} (write : α → Bytes) {records : List α} {record : α}
    (member : record ∈ records) :
    (write record).length ≤ (records.flatMap write).length := by
  obtain ⟨before, after, rfl⟩ := List.append_of_mem member
  simp only [List.flatMap_append, List.flatMap_cons, List.length_append]
  omega

theorem take_toBytes (word : UInt64) (rest : Bytes) :
    (Word.toBytes word ++ rest).take Word.width = Word.toBytes word :=
  List.take_left' (Word.length_toBytes word)

theorem drop_toBytes (word : UInt64) (rest : Bytes) :
    (Word.toBytes word ++ rest).drop Word.width = rest :=
  List.drop_left' (Word.length_toBytes word)

theorem takeWord_append (word : UInt64) (rest : Bytes) :
    takeWord step (Word.toBytes word ++ rest) = .ok (word, rest) := by
  simp only [takeWord, take_toBytes, drop_toBytes, Word.length_toBytes, Word.ofBytes_toBytes,
    Nat.lt_irrefl, if_false]

theorem takeFirst_append (word : UInt64) (rest : Bytes) :
    takeFirst step (Word.toBytes word ++ rest) = .ok (some (word, rest)) := by
  have some : Word.width ≠ 0 := Nat.succ_ne_zero _
  simp only [takeFirst, take_toBytes, drop_toBytes, Word.length_toBytes, Word.ofBytes_toBytes,
    Nat.lt_irrefl, some, if_false]

theorem takeBytes_append {bytes : Bytes} (fits : bytes.length < UInt64.size) (rest : Bytes) :
    takeBytes step (UInt64.ofNat bytes.length) (bytes ++ rest) = .ok (bytes, rest) := by
  simp only [takeBytes, UInt64.toNat_ofNat_of_lt' fits, List.take_left, List.drop_left, if_true]

theorem takeWords_append (read words : List UInt64) (rest : Bytes) :
    takeWords step read words.length (words.flatMap Word.toBytes ++ rest) =
      .ok (read.reverse ++ words, rest) := by
  -- the words that have been read are kept in reverse
  induction words generalizing read with
  | nil => simp [takeWords]
  | cons word more ih =>
    rw [List.length_cons, List.flatMap_cons, List.append_assoc, takeWords, takeWord_append]
    simpa using ih (word :: read)

/-- A file is read back if it ends after its records and each of them is read off the front. -/
theorem takeAll_flatMap {α : Type} {take : Bytes → Except StoreError (Option (α × Bytes))}
    (shorter : ∀ {bytes record rest}, take bytes = .ok (some (record, rest)) →
      rest.length < bytes.length)
    (write : α → Bytes) (ends : take [] = .ok none) (read records : List α)
    (each : ∀ record ∈ records, ∀ rest, take (write record ++ rest) = .ok (some (record, rest))) :
    takeAll take shorter read (records.flatMap write) = .ok (read.reverse ++ records) := by
  induction records generalizing read with
  | nil =>
    rw [List.flatMap_nil, takeAll, List.append_nil]
    split
    · next failed => simp [ends] at failed
    · rfl
    · next taken => simp [ends] at taken
  | cons record more ih =>
    -- the record is read off the front whatever stands behind it
    have taken := each record List.mem_cons_self (more.flatMap write)
    rw [List.flatMap_cons, takeAll]
    split
    · next failed => simp [taken] at failed
    · next ended => simp [taken] at ended
    · next first rest found =>
      simp only [taken, Except.ok.injEq, Option.some.injEq, Prod.mk.injEq] at found
      obtain ⟨rfl, rfl⟩ := found
      rw [ih _ fun later member => each later (List.mem_cons_of_mem _ member)]
      simp

end Concordance.IndexFile
