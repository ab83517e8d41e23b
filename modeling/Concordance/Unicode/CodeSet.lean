/-!
# Sets of code points

A set is the ascending list of the code points at which membership changes: the first entry
is the first member, the second the first code point after it that is no member, and so on.
A code point belongs to the set when the number of changes up to it is odd.
-/
namespace Concordance.Unicode

/-- A set of code points, by the places where membership switches. -/
structure CodeSet where
  switches : Array Nat

namespace CodeSet

/-- How many of the entries from `low` up to `high` lie at or before `code`, counted from the
start of the list. Each step halves the distance, so `steps` need only be its binary length. -/
def rankBetween (codes : CodeSet) (code : Nat) : (steps low high : Nat) → Nat
  | 0, low, _ => low
  | steps + 1, low, high =>
    if low < high then
      let middle := (low + high) / 2
      if codes.switches.getD middle 0 ≤ code then codes.rankBetween code steps (middle + 1) high
      else codes.rankBetween code steps low middle
    else low

/-- The number of switches at or before `code`. -/
def rank (codes : CodeSet) (code : Nat) : Nat :=
  codes.rankBetween code (codes.switches.size.log2 + 1) 0 codes.switches.size

def contains (codes : CodeSet) (char : Char) : Bool :=
  codes.rank char.toNat % 2 == 1

end CodeSet

end Concordance.Unicode
