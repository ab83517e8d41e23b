/-!
# Runs between delimiters

`runs` cuts a text at every delimiter and drops the empty pieces, so what remains are the
maximal runs of other characters, in order. Nothing but delimiters is lost.
-/
namespace Concordance.Text

/-- The runs of a text: the one that it begins with, which is empty if a delimiter comes first,
and those that follow. -/
structure Runs where
  first : List Char
  rest : List (List Char)
  deriving DecidableEq, Repr

namespace Runs

/-- All runs. -/
def toList (runs : Runs) : List (List Char) :=
  if runs.first.isEmpty then runs.rest else runs.first :: runs.rest

/-- The runs of a text with one more character in front. -/
def add (isDelimiter : Char → Bool) (char : Char) (runs : Runs) : Runs :=
  if isDelimiter char then ⟨[], runs.toList⟩ else ⟨char :: runs.first, runs.rest⟩

/-- The runs of a text. -/
def ofText (isDelimiter : Char → Bool) (text : List Char) : Runs :=
  text.foldr (add isDelimiter) ⟨[], []⟩

theorem flatten_toList (runs : Runs) : runs.toList.flatten = runs.first ++ runs.rest.flatten := by
  unfold toList
  split
  · next empty => simp [List.isEmpty_iff.mp empty]
  · simp

theorem flatten_ofText (isDelimiter : Char → Bool) (text : List Char) :
    (ofText isDelimiter text).first ++ (ofText isDelimiter text).rest.flatten =
      text.filter (!isDelimiter ·) := by
  induction text with
  | nil => rfl
  | cons char rest ih =>
    simp only [ofText, List.foldr_cons, add, List.filter_cons] at *
    by_cases delimiter : isDelimiter char
    · simp [delimiter, flatten_toList, ih]
    · simp [delimiter, ih]

end Runs

/-- The maximal runs of characters that are no delimiters. -/
def runs (isDelimiter : Char → Bool) (text : List Char) : List (List Char) :=
  (Runs.ofText isDelimiter text).toList

/-- The runs hold all characters that are no delimiters, in order. -/
theorem flatten_runs (isDelimiter : Char → Bool) (text : List Char) :
    (runs isDelimiter text).flatten = text.filter (!isDelimiter ·) := by
  rw [runs, Runs.flatten_toList, Runs.flatten_ofText]

end Concordance.Text
