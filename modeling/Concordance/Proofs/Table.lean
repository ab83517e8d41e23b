import Mathlib.Data.List.Sort
import Mathlib.Data.Set.Card
import Std.Data.TreeMap
import Std.Data.TreeSet

/-!
# Ordered tables

Tables and sets keep their keys in an order that tells different keys apart. So keys are the same
exactly if they are equal, and a list of keys in order is determined by its members.
-/
namespace Concordance.Table

variable {α β : Type} [Ord α] [Std.TransOrd α] [Std.LawfulEqOrd α]

theorem getElem?_insert (table : Std.TreeMap α β) (key : α) (value : β) (other : α)
    [Decidable (other = key)] :
    (table.insert key value)[other]? = if other = key then some value else table[other]? := by
  rw [Std.TreeMap.getElem?_insert]
  by_cases same : other = key
  · rw [if_pos same, if_pos (Std.LawfulEqOrd.compare_eq_iff_eq.mpr same.symm)]
  · rw [if_neg same, if_neg fun equal => same (Std.LawfulEqOrd.compare_eq_iff_eq.mp equal).symm]

theorem getElem?_erase (table : Std.TreeMap α β) (key other : α) [Decidable (other = key)] :
    (table.erase key)[other]? = if other = key then none else table[other]? := by
  rw [Std.TreeMap.getElem?_erase]
  by_cases same : other = key
  · rw [if_pos same, if_pos (Std.LawfulEqOrd.compare_eq_iff_eq.mpr same.symm)]
  · rw [if_neg same, if_neg fun equal => same (Std.LawfulEqOrd.compare_eq_iff_eq.mp equal).symm]

theorem mem_insert {set : Std.TreeSet α} {element other : α} :
    other ∈ set.insert element ↔ other = element ∨ other ∈ set := by
  rw [Std.TreeSet.mem_insert, Std.LawfulEqOrd.compare_eq_iff_eq, eq_comm]

theorem mem_erase {set : Std.TreeSet α} {element other : α} :
    other ∈ set.erase element ↔ other ≠ element ∧ other ∈ set := by
  rw [Std.TreeSet.mem_erase, Ne, Std.LawfulEqOrd.compare_eq_iff_eq, eq_comm]

/-- Lists in strictly ascending order are the same when they have the same members. -/
theorem eq_of_ascending {γ : Type} (key : γ → α) {left right : List γ}
    (left_ascends : left.Pairwise fun first second => compare (key first) (key second) = .lt)
    (right_ascends : right.Pairwise fun first second => compare (key first) (key second) = .lt)
    (same : ∀ element, element ∈ left ↔ element ∈ right) : left = right := by
  have irreflexive : Std.Irrefl fun first second : γ => compare (key first) (key second) = .lt :=
    ⟨fun element less => by simp [Std.ReflOrd.compare_self] at less⟩
  have antisymmetric :
      Std.Antisymm fun first second : γ => compare (key first) (key second) = .lt :=
    ⟨fun first second less more => by
      rw [Std.OrientedOrd.eq_swap, more] at less
      simp at less⟩
  -- an order that is never symmetric leaves only one way to list the members
  exact left_ascends.eq_of_mem_iff right_ascends same

/-- Sets with the same members list them in the same order. -/
theorem toList_eq {left right : Std.TreeSet α}
    (same : ∀ element, element ∈ left ↔ element ∈ right) :
    left.toList = right.toList := by
  refine eq_of_ascending (fun element => element) Std.TreeSet.ordered_toList
    Std.TreeSet.ordered_toList fun element => ?_
  rw [Std.TreeSet.mem_toList, Std.TreeSet.mem_toList, same]

/-- A table has as many entries as keys that lead to something. -/
theorem size_eq_ncard (table : Std.TreeMap α β) :
    table.size = {key : α | ∃ value, table[key]? = some value}.ncard := by
  classical
  have same : {key : α | ∃ value, table[key]? = some value} = ↑table.keys.toFinset := by
    ext key
    rw [Set.mem_ofPred_eq, Finset.mem_coe, List.mem_toFinset, Std.TreeMap.mem_keys,
      Std.TreeMap.mem_iff_isSome_getElem?, Option.isSome_iff_exists]
  have nodup : table.keys.Nodup := Std.TreeMap.nodup_keys
  rw [same, Set.ncard_coe_finset, List.toFinset_card_of_nodup nodup, Std.TreeMap.length_keys]

end Concordance.Table
