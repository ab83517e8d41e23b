import Concordance.Identifier
import Std.Data.TreeMap
import Std.Data.TreeSet

/-!
# Link index

The link index knows which offset each identifier refers to and, the other way round, which
identifiers own an offset. The two directions are stored apart and changed together. An offset
that nobody owns is not listed.
-/
namespace Concordance

structure LinkIndex where
  references : Std.TreeMap LinkId Offset
  owners : Std.TreeMap Offset (Std.TreeSet LinkId)

namespace LinkIndex

def empty : LinkIndex := ⟨∅, ∅⟩

/-- The offset that an identifier refers to. -/
def referenceOf? (index : LinkIndex) (id : LinkId) : Option Offset :=
  index.references[id]?

/-- The identifiers that refer to an offset, in ascending order. -/
def ownersOf (index : LinkIndex) (offset : Offset) : List LinkId :=
  match index.owners[offset]? with
  | some ids => ids.toList
  | none => []

/-- Whether `id` is among the owners of `offset`. -/
def owns (index : LinkIndex) (id : LinkId) (offset : Offset) : Bool :=
  match index.owners[offset]? with
  | some ids => ids.contains id
  | none => false

/-- Takes `id` out of the owners of `offset`. -/
def release (index : LinkIndex) (id : LinkId) (offset : Offset) : LinkIndex :=
  match index.owners[offset]? with
  | none => index
  | some ids =>
    let ids := ids.erase id
    if ids.isEmpty then { index with owners := index.owners.erase offset }
    else { index with owners := index.owners.insert offset ids }

/-- Puts `id` among the owners of `offset`. -/
def own (index : LinkIndex) (id : LinkId) (offset : Offset) : LinkIndex :=
  { index with owners := index.owners.insert offset ((index.owners[offset]?.getD ∅).insert id) }

/-- Makes `id` refer to `offset`, and tells whether that is a change. -/
def setReference (index : LinkIndex) (id : LinkId) (offset : Offset) : LinkIndex × Bool :=
  match index.referenceOf? id with
  | some old =>
    if old = offset then (index, false)
    else
      -- the old offset forgets the identifier before the new one takes it
      let index := index.release id old
      ({ index with references := index.references.insert id offset }.own id offset, true)
  | none => ({ index with references := index.references.insert id offset }.own id offset, true)

/-- Makes each of `ids` refer to `offset`, one after the other. -/
def setReferences (index : LinkIndex) (ids : List LinkId) (offset : Offset) : LinkIndex :=
  ids.foldl (fun index id => (index.setReference id offset).1) index

/-- The offsets with an owner and their owners, both in ascending order. -/
def entries (index : LinkIndex) : List (Offset × List LinkId) :=
  index.owners.toList.map fun (offset, ids) => (offset, ids.toList)

/-- Every identifier with the offset it refers to, by ascending identifier. -/
def pairs (index : LinkIndex) : List (LinkId × Offset) := index.references.toList

/-- The number of identifiers that refer to something. -/
def linkedCount (index : LinkIndex) : Nat := index.references.size

/-- The number of offsets with an owner. -/
def offsetCount (index : LinkIndex) : Nat := index.owners.size

end LinkIndex

end Concordance
