import Concordance.Identifier
import Concordance.Json.Record

/-!
# Sizes of a store
-/
namespace Concordance

structure Stats where
  /-- Where the next record of the content log will begin. -/
  nextOffset : Offset
  /-- The number of distinct terms. -/
  termCount : Nat
  /-- The number of identifiers that a string is linked to. -/
  linkedIdentifiers : Nat
  /-- The number of offsets that some identifier refers to. -/
  storedOffsets : Nat
  deriving DecidableEq, Repr

namespace Stats

/-- The fields of the report, in order. -/
def fieldNames : List String :=
  ["next_offset", "term_count", "linked_identifiers", "stored_offsets"]

/-- Reads a report. All its fields must be there, and all are words. -/
def ofJson? (json : Json) : Option Stats := do
  let fields ← json.fields? fieldNames
  let nextOffset ← Json.required fields "next_offset" Json.word?
  let termCount ← Json.required fields "term_count" Json.word?
  let linkedIdentifiers ← Json.required fields "linked_identifiers" Json.word?
  let storedOffsets ← Json.required fields "stored_offsets" Json.word?
  return ⟨nextOffset, termCount.toNat, linkedIdentifiers.toNat, storedOffsets.toNat⟩

def toJson (stats : Stats) : Json :=
  .ofFields [
    ("next_offset", .ofWord stats.nextOffset),
    ("term_count", .ofWord (UInt64.ofNat stats.termCount)),
    ("linked_identifiers", .ofWord (UInt64.ofNat stats.linkedIdentifiers)),
    ("stored_offsets", .ofWord (UInt64.ofNat stats.storedOffsets))]

end Stats

end Concordance
