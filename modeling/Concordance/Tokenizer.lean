import Concordance.Segment
import Concordance.Text.Runs
import Std.Data.TreeSet

/-!
# Tokenizer

A text is indexed under its terms. They are either the runs of characters between delimiters or
the words of the text, in the order in which they occur and in their own case. No term is empty.
-/
namespace Concordance

/-- How a text is divided into terms. -/
inductive TokenizerMode
  /-- At every delimiter. -/
  | delimiters
  /-- At word boundaries; of the segments, those with a letter or a digit are terms. -/
  | unicodeWords
  deriving DecidableEq, Repr

structure Tokenizer where
  mode : TokenizerMode
  /-- The characters that separate terms; word boundaries pay no attention to them. -/
  delimiters : String
  deriving DecidableEq, Repr

namespace Tokenizer

/-- White space and common punctuation. -/
def standardDelimiters : String :=
  " \t\n\r\x0b\x0c,.;:!?()[]\x7b\x7d<>\"\x27"

/-- Terms are what stands between white space and common punctuation. -/
def standard : Tokenizer := ⟨.delimiters, standardDelimiters⟩

/-- The terms of a text, in order and with repetitions. -/
def split (tokenizer : Tokenizer) (text : String) : List String :=
  let parts :=
    match tokenizer.mode with
    | .delimiters =>
      let delimiters := Std.TreeSet.ofList tokenizer.delimiters.toList
      Text.runs delimiters.contains text.toList
    | .unicodeWords => Segment.words text.toList
  parts.map String.ofList

/-- The first term of a text, if it has any. -/
def firstTerm? (tokenizer : Tokenizer) (text : String) : Option String :=
  (tokenizer.split text).head?

end Tokenizer

end Concordance
