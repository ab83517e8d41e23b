import Concordance.Identifier
import Concordance.Text.Encoding
import Concordance.Trie

/-!
# Term index

The term index leads from each term to the offsets of the strings that contain it. The offsets
of a term stand in the order in which they were added, and one stands there as often as its
string repeats the term.
-/
namespace Concordance

structure TermIndex where
  postings : Trie (Array Offset)
  deriving Repr

namespace TermIndex

def empty : TermIndex := ⟨Trie.empty⟩

/-- Adds an offset under a term, given by its bytes. -/
def append (index : TermIndex) (term : Bytes) (offset : Offset) : TermIndex :=
  ⟨index.postings.update term #[] (·.push offset)⟩

/-- Adds an offset under each of `terms`. -/
def indexTerms (index : TermIndex) (terms : List String) (offset : Offset) : TermIndex :=
  terms.foldl (fun index term => index.append (Text.encode term) offset) index

/-- What is stored under a term. -/
def posting (index : TermIndex) (term : String) : Array Offset :=
  (index.postings.get? (Text.encode term)).getD #[]

/-- The offsets of the strings with exactly this term. -/
def offsetsFor (index : TermIndex) (term : String) : List Offset :=
  (index.posting term).toList

/-- The offsets under all terms that begin with `start`, term by term in lexicographic order. -/
def offsetsForStart (index : TermIndex) (start : String) : List Offset :=
  (index.postings.entriesFrom (Text.encode start)).flatMap (·.2.toList)

/-- The number of distinct terms. -/
def size (index : TermIndex) : Nat := index.postings.size

def isEmpty (index : TermIndex) : Bool := index.postings.isEmpty

/-- Every term with its offsets, in lexicographic order. -/
def entries (index : TermIndex) : List (Bytes × List Offset) :=
  index.postings.entries.map fun (term, offsets) => (term, offsets.toList)

end TermIndex

end Concordance
