import Concordance.Error
import Concordance.Word

/-!
# Reading words

The readers of the index files take words and byte strings off the front of a file. A record
may be missing only as a whole: the file may end before the first word of one, and nowhere else.
-/
namespace Concordance.IndexFile

/-- Takes a word off the front. -/
def takeWord (step : Step) (bytes : Bytes) : Except StoreError (UInt64 × Bytes) :=
  let head := bytes.take Word.width
  if head.length < Word.width then .error (.read step .endOfFile)
  else .ok (Word.ofBytes head, bytes.drop Word.width)

/-- Takes the first word of a record off the front, or finds that no record is left. -/
def takeFirst (step : Step) (bytes : Bytes) : Except StoreError (Option (UInt64 × Bytes)) :=
  let head := bytes.take Word.width
  if head.length = 0 then .ok none
  else if head.length < Word.width then .error (.read step (.truncatedWord head.length))
  else .ok (some (Word.ofBytes head, bytes.drop Word.width))

/-- Takes `size` bytes off the front. -/
def takeBytes (step : Step) (size : UInt64) (bytes : Bytes) : Except StoreError (Bytes × Bytes) :=
  let head := bytes.take size.toNat
  if head.length = size.toNat then .ok (head, bytes.drop size.toNat)
  else .error (.read step (.shortRead size head.length))

/-- Takes `count` words off the front, `read` holding those before them, last first. -/
def takeWords (step : Step) (read : List UInt64) :
    (count : Nat) → Bytes → Except StoreError (List UInt64 × Bytes)
  | 0, bytes => .ok (read.reverse, bytes)
  | count + 1, bytes =>
    match takeWord step bytes with
    | .error error => .error error
    | .ok (word, rest) => takeWords step (word :: read) count rest

theorem takeWord_length {step : Step} {bytes rest : Bytes} {word : UInt64}
    (taken : takeWord step bytes = .ok (word, rest)) : rest.length + Word.width = bytes.length := by
  simp only [takeWord, List.length_take] at taken
  split at taken
  · simp at taken
  · simp only [Except.ok.injEq, Prod.mk.injEq] at taken
    rw [← taken.2, List.length_drop]
    omega

theorem takeFirst_length {step : Step} {bytes rest : Bytes} {word : UInt64}
    (taken : takeFirst step bytes = .ok (some (word, rest))) :
    rest.length + Word.width = bytes.length := by
  simp only [takeFirst, List.length_take] at taken
  split at taken
  · simp at taken
  · split at taken
    · simp at taken
    · simp only [Except.ok.injEq, Option.some.injEq, Prod.mk.injEq] at taken
      rw [← taken.2, List.length_drop]
      omega

theorem takeBytes_length {step : Step} {size : UInt64} {bytes head rest : Bytes}
    (taken : takeBytes step size bytes = .ok (head, rest)) : rest.length ≤ bytes.length := by
  simp only [takeBytes] at taken
  split at taken
  · simp only [Except.ok.injEq, Prod.mk.injEq] at taken
    rw [← taken.2, List.length_drop]
    omega
  · simp at taken

theorem takeWords_length {step : Step} {count : Nat} {read words : List UInt64}
    {bytes rest : Bytes} (taken : takeWords step read count bytes = .ok (words, rest)) :
    rest.length ≤ bytes.length := by
  induction count generalizing read bytes with
  | zero =>
    simp only [takeWords, Except.ok.injEq, Prod.mk.injEq] at taken
    exact Nat.le_of_eq (congrArg List.length taken.2.symm)
  | succ count ih =>
    simp only [takeWords] at taken
    split at taken
    · simp at taken
    · next first =>
      have shorter := takeWord_length first
      have more := ih taken
      omega

/-- Reads records to the end of the file with a reader that takes something off whenever it
finds a record. `read` holds the records before, last first. -/
def takeAll {α : Type} (take : Bytes → Except StoreError (Option (α × Bytes)))
    (shorter : ∀ {bytes record rest}, take bytes = .ok (some (record, rest)) →
      rest.length < bytes.length)
    (read : List α) (bytes : Bytes) : Except StoreError (List α) :=
  match _taken : take bytes with
  | .error error => .error error
  | .ok none => .ok read.reverse
  | .ok (some (record, rest)) => takeAll take shorter (record :: read) rest
termination_by bytes.length
decreasing_by exact shorter (by assumption)

end Concordance.IndexFile
