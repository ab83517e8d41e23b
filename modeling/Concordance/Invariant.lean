import Concordance.Store.Basic
import Concordance.Violation

/-!
# Invariants of a store

Each invariant is checked on a store as it stands and reports the offsets or identifiers that
break it. A store that nobody has tampered with satisfies all of them.
-/
namespace Concordance

structure Invariant where
  name : String
  description : String
  /-- What is wrong, which offsets or identifiers are involved, and further facts by name. -/
  offenders : Store → Disk → Option (String × List UInt64 × List (String × String))

namespace Invariant

/-- Checks a store. -/
def check (invariant : Invariant) (store : Store) (disk : Disk) : Except Violation Unit :=
  match invariant.offenders store disk with
  | none => .ok ()
  | some (description, subjects, context) =>
    .error ⟨invariant.name, description, subjects, context⟩

/-! ### Owners and references -/

/-- The identifiers that are missing among the owners of the offset they refer to. -/
def unowned (links : LinkIndex) : List UInt64 :=
  (links.pairs.filter fun (id, offset) => !links.owns id offset).map (·.1)

/-- The offsets without an owner, and the owners that refer to another offset. -/
def stale (links : LinkIndex) : List UInt64 :=
  links.entries.flatMap fun (offset, ids) =>
    (if ids.isEmpty then [offset] else []) ++
      ids.filter fun id => links.referenceOf? id != some offset

/-- An identifier owns an offset exactly if it refers to it. -/
def ownersMatchReferences : Invariant where
  name := "OwnersMatchReferences"
  description := "Owner sets and identifier references describe the same relation"
  offenders store _ :=
    match unowned store.links with
    | [] =>
      match stale store.links with
      | [] => none
      | ids => some ("Owner sets hold identifiers referencing other offsets", ids, [])
    | ids =>
      some ("Identifiers reference offsets that do not list them as owners", ids, [])

/-! ### Offsets and the log -/

/-- Whether a record at `offset` would not have its size before `logEnd`. No end lies past the
greatest word, so neither does that of a record. -/
def isOutside (logEnd offset : Offset) : Bool :=
  logEnd.toNat < min (offset.toNat + Word.width) (UInt64.size - 1)

/-- The indexed and the owned offsets that lie outside the log, in ascending order. -/
def outside (store : Store) : List Offset :=
  let indexed := store.terms.entries.flatMap (·.2)
  let owned := store.links.entries.map (·.1)
  (Std.TreeSet.ofList ((indexed ++ owned).filter (isOutside store.log.nextOffset))).toList

/-- Every indexed and every owned offset lies inside the log. -/
def offsetsWithinLog : Invariant where
  name := "OffsetsWithinLog"
  description := "Term and link offsets lie before the content log\x27s next offset"
  offenders store _ :=
    match outside store with
    | [] => none
    | offsets =>
      some ("Offsets past the end of the content log", offsets,
        [("next_offset", toString store.log.nextOffset)])

/-! ### Content and terms -/

/-- The owned offsets whose string cannot be read. -/
def unreadable (store : Store) (reader : LogReader) : List Offset :=
  (store.links.entries.map (·.1)).filter fun offset =>
    match reader.readString offset with
    | .ok _ => false
    | .error _ => true

/-- The owned offsets that are not found under each of the terms of their string. -/
def unindexed (store : Store) (reader : LogReader) : List Offset :=
  (store.links.entries.map (·.1)).filter fun offset =>
    match reader.readString offset with
    | .ok content =>
      (distinct (store.termsOf content)).any fun term =>
        !(store.terms.posting term).contains offset
    | .error _ => false

/-- Every linked string can be read and found under all of its terms. -/
def linkedContentIndexed : Invariant where
  name := "LinkedContentIndexed"
  description := "Linked strings are readable and findable through all of their terms"
  offenders store disk :=
    match store.log.reader disk with
    | .error _ => some ("Content log cannot be opened", [], [])
    | .ok reader =>
      match unreadable store reader with
      | [] =>
        match unindexed store reader with
        | [] => none
        | offsets =>
          some ("Searchable strings missing from their terms\x27 offsets", offsets, [])
      | offsets => some ("Linked offsets cannot be read", offsets, [])

/-- All invariants. -/
def all : List Invariant := [ownersMatchReferences, offsetsWithinLog, linkedContentIndexed]

/-- The violations of `invariants` by a store. -/
def violations (invariants : List Invariant) (store : Store) (disk : Disk) : List Violation :=
  invariants.filterMap fun invariant =>
    match invariant.check store disk with
    | .ok _ => none
    | .error violation => some violation

end Invariant

end Concordance
