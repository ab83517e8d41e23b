import Concordance.Store.Basic
import Concordance.TermMode
import Std.Data.TreeSet

/-!
# Searching a store

A query for a string looks under the query's first term for candidates and then compares their
content, so it never reports a string that does not match. A string that contains the query is
found only if the query's first term begins one of its terms. A query for terms relies on the
term index alone.
-/
namespace Concordance

/-- How a string may match a query. -/
inductive Matching
  | exact
  | substring
  deriving DecidableEq, Repr

namespace Matching

/-- Whether a string of `candidate` bytes can match a query of `query` bytes. -/
def sizeFits : Matching → (candidate query : UInt64) → Bool
  | .exact, candidate, query => candidate == query
  | .substring, candidate, query => query ≤ candidate

def contentFits : Matching → (candidate query : String) → Bool
  | .exact, candidate, query => candidate == query
  | .substring, candidate, query => candidate.contains query

end Matching

namespace Store

/-- The offsets of the records that may match a query, each once. -/
def candidates (store : Store) (query : String) (how : Matching) : List Offset :=
  match store.config.tokenizer.firstTerm? query with
  | none => []
  | some first =>
    match how with
    | .exact => distinct (store.terms.offsetsFor first)
    | .substring => distinct (store.terms.offsetsForStart first)

/-- Those of `candidates` that match a query, with their strings. `found` holds those before
them, last first. -/
def verify (reader : LogReader) (query : String) (how : Matching)
    (found : List (Offset × String)) :
    (candidates : List Offset) → Except StoreError (List (Offset × String))
  | [] => .ok found.reverse
  | offset :: rest =>
    match reader.readIf offset (how.sizeFits · (UInt64.ofNat (Text.size query))) with
    | .error error => .error error
    | .ok none => verify reader query how found rest
    | .ok (some bytes) =>
      match LogReader.textOf offset bytes with
      | .error error => .error error
      | .ok content =>
        if how.contentFits content query then
          verify reader query how ((offset, content) :: found) rest
        else verify reader query how found rest

/-- The records that match a query, with their strings. -/
def verifiedCandidates (store : Store) (disk : Disk) (query : String) (how : Matching) :
    Except StoreError (List (Offset × String)) :=
  match store.candidates query how with
  | [] => .ok []
  | candidates =>
    match store.log.reader disk with
    | .error error => .error error
    | .ok reader => verify reader query how [] candidates

/-- The identifiers that refer to one of `offsets`. -/
def ownersOfAll (store : Store) (offsets : List Offset) : Std.TreeSet LinkId :=
  Std.TreeSet.ofList (offsets.flatMap store.ownersOf)

/-- The identifiers whose string matches a query. -/
def identifiersFor (store : Store) (disk : Disk) (query : String) (how : Matching) :
    Except StoreError (Std.TreeSet LinkId) :=
  match store.verifiedCandidates disk query how with
  | .error error => .error error
  | .ok found => .ok (store.ownersOfAll (found.map (·.1)))

/-- The stored strings that contain a query. -/
def stringsFor (store : Store) (disk : Disk) (query : String) :
    Except StoreError (Std.TreeSet String) :=
  match store.verifiedCandidates disk query .substring with
  | .error error => .error error
  | .ok found => .ok (Std.TreeSet.ofList (found.map (·.2)))

/-- Combines the offsets found so far with those of one more term. -/
def combine (mode : TermMode) (found offsets : Std.TreeSet Offset) : Std.TreeSet Offset :=
  match mode with
  | .and => found ∩ offsets
  | .or => found ∪ offsets

/-- The offsets of the strings with one term. -/
def offsetsForTerm (store : Store) (term : String) : Std.TreeSet Offset :=
  Std.TreeSet.ofList (store.terms.offsetsFor term)

/-- Goes on to combine `found` with the offsets of `terms`, unless nothing can be left to find. -/
def offsetsForMore (store : Store) (mode : TermMode) (found : Std.TreeSet Offset) :
    (terms : List String) → Std.TreeSet Offset
  | [] => found
  | term :: rest =>
    if mode = .and ∧ found.isEmpty then found
    else store.offsetsForMore mode (combine mode found (store.offsetsForTerm term)) rest

/-- The offsets of the strings that have all or some of `terms`. -/
def offsetsForTerms (store : Store) (terms : List String) (mode : TermMode) :
    Std.TreeSet Offset :=
  match terms with
  | [] => ∅
  | term :: rest => store.offsetsForMore mode (store.offsetsForTerm term) rest

/-- The identifiers whose string has all or some of `terms`. -/
def identifiersForTerms (store : Store) (terms : List String) (mode : TermMode) :
    Std.TreeSet LinkId :=
  store.ownersOfAll (store.offsetsForTerms terms mode).toList

/-- The stored strings that have all or some of `terms`. -/
def stringsForTerms (store : Store) (disk : Disk) (terms : List String) (mode : TermMode) :
    Except StoreError (Std.TreeSet String) :=
  match (store.offsetsForTerms terms mode).toList with
  | [] => .ok ∅
  | offsets =>
    match store.log.reader disk with
    | .error error => .error error
    | .ok reader =>
      match offsets.mapM reader.readString with
      | .error error => .error error
      | .ok strings => .ok (Std.TreeSet.ofList strings)

end Store

end Concordance
