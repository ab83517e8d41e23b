import Concordance.Proofs.Text.Runs
import Concordance.Text.Encoding
import Concordance.Tokenizer

/-!
# Pieces of a text

The terms of a text are pieces of it, of which none is empty. A tokenizer that divides texts at
delimiters takes the runs of characters between them.
-/
namespace Concordance.Tokenizer

/-- The pieces of a text that its terms are made of. -/
def parts (tokenizer : Tokenizer) (text : String) : List (List Char) :=
  match tokenizer.mode with
  | .delimiters =>
    Text.runs (Std.TreeSet.ofList tokenizer.delimiters.toList).contains text.toList
  | .unicodeWords => Segment.words text.toList

theorem split_eq (tokenizer : Tokenizer) (text : String) :
    tokenizer.split text = (tokenizer.parts text).map String.ofList := by
  unfold split parts
  cases tokenizer.mode <;> rfl

/-- The characters at which a text is divided. -/
def divides (tokenizer : Tokenizer) : Char → Bool :=
  (Std.TreeSet.ofList tokenizer.delimiters.toList).contains

theorem divides_iff {tokenizer : Tokenizer} {char : Char} :
    tokenizer.divides char = true ↔ char ∈ tokenizer.delimiters.toList := by
  rw [divides, Std.TreeSet.contains_ofList, List.contains_iff_mem]

theorem parts_eq_runs {tokenizer : Tokenizer} (divided : tokenizer.mode = .delimiters)
    (text : String) : tokenizer.parts text = Text.runs tokenizer.divides text.toList := by
  rw [parts, divided]
  rfl

theorem ne_nil_of_mem_parts {tokenizer : Tokenizer} {text : String} {part : List Char}
    (member : part ∈ tokenizer.parts text) : part ≠ [] := by
  unfold parts at member
  split at member
  · exact Text.ne_nil_of_mem_runs member
  · rintro rfl
    simpa using (List.mem_filter.mp member).2

/-- No term is empty. -/
theorem ne_empty_of_mem_split {tokenizer : Tokenizer} {text term : String}
    (member : term ∈ tokenizer.split text) : term ≠ "" := by
  rw [split_eq] at member
  obtain ⟨part, inside, rfl⟩ := List.mem_map.mp member
  intro empty
  have chars := congrArg String.toList empty
  rw [String.toList_ofList] at chars
  exact ne_nil_of_mem_parts inside chars

end Concordance.Tokenizer
