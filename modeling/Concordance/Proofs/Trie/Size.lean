import Concordance.Proofs.Trie.Order
import Mathlib.Data.List.Perm.Basic

/-!
# The number of keys

A trie does not count its keys when it is asked for their number: it keeps the number along with its
nodes. An update raises it exactly if its key had no value before, and then the trie has one more
entry. So the number that is kept is always that of the entries.
-/
namespace Concordance.Trie

variable {α : Type}

/-- The keys that have a value, in order. -/
def keys (trie : Trie α) : List Bytes := trie.entries.map (·.1)

/-- The number that is kept is the number of keys. -/
def Counted (trie : Trie α) : Prop := trie.size = trie.keys.length

theorem mem_keys {trie : Trie α} (formed : trie.WellFormed) {key : Bytes} :
    key ∈ trie.keys ↔ trie.get? key ≠ none := by
  rw [keys, List.mem_map]
  constructor
  · rintro ⟨⟨_, value⟩, member, rfl⟩
    rw [(mem_entries formed).mp member]
    exact Option.some_ne_none value
  · intro held
    obtain ⟨value, found⟩ := Option.ne_none_iff_exists'.mp held
    exact ⟨(key, value), (mem_entries formed).mpr found, rfl⟩

theorem nodup_keys {trie : Trie α} (formed : trie.WellFormed) : trie.keys.Nodup := by
  refine List.pairwise_map.mpr ((ordered_entries formed).imp fun {left right} less same => ?_)
  rw [same] at less
  exact List.lt_irrefl _ less

theorem counted_empty : (empty : Trie α).Counted := by
  have none : (empty : Trie α).keys = [] := by
    rw [List.eq_nil_iff_forall_not_mem]
    intro key member
    exact (mem_keys wellFormed_empty).mp member (get?_empty key)
  rw [Counted, none]
  rfl

/-- The node where the way of a key ends has the value that the key had. -/
theorem valueAt?_makePath {trie : Trie α} (formed : trie.WellFormed) (key : Bytes) :
    (trie.makePath root key).1.valueAt? (trie.makePath root key).2 = trie.get? key := by
  obtain ⟨label, labelled⟩ := formed
  obtain ⟨extended, ⟨after, grown⟩, found⟩ := makePath_spec labelled labelled.rooted key
  rw [← extended.get? labelled grown key, get?, found]

theorem size_makePath {trie : Trie α} (formed : trie.WellFormed) (key : Bytes) :
    (trie.makePath root key).1.size = trie.size := by
  obtain ⟨label, labelled⟩ := formed
  exact (makePath_spec labelled labelled.rooted key).1.size

section Update

variable {trie : Trie α} (formed : trie.WellFormed) (key : Bytes) (default : α) (change : α → α)

include formed

/-- The number that is kept is raised if the key is new. -/
theorem size_update :
    (trie.update key default change).size =
      if trie.get? key = none then trie.size + 1 else trie.size := by
  unfold update
  simp only [valueAt?_makePath formed, size_makePath formed, Option.isNone_iff_eq_none]

theorem mem_keys_update {other : Bytes} :
    other ∈ (trie.update key default change).keys ↔ other = key ∨ other ∈ trie.keys := by
  rw [mem_keys (wellFormed_update formed key default change), mem_keys formed,
    get?_update formed]
  by_cases same : other = key
  · simp [same]
  · simp [same]

/-- The keys are one more if the key is new. -/
theorem length_keys_update :
    (trie.update key default change).keys.length =
      if trie.get? key = none then trie.keys.length + 1 else trie.keys.length := by
  have nodup := nodup_keys (wellFormed_update formed key default change)
  split
  · next new =>
    have absent : key ∉ trie.keys := fun member => (mem_keys formed).mp member new
    have one_more : (trie.update key default change).keys.Perm (key :: trie.keys) := by
      rw [List.perm_ext_iff_of_nodup nodup (List.nodup_cons.mpr ⟨absent, nodup_keys formed⟩)]
      intro other
      rw [mem_keys_update formed, List.mem_cons]
    exact one_more.length_eq
  · next held =>
    have same : (trie.update key default change).keys.Perm trie.keys := by
      rw [List.perm_ext_iff_of_nodup nodup (nodup_keys formed)]
      intro other
      rw [mem_keys_update formed, or_iff_right_of_imp]
      rintro rfl
      exact (mem_keys formed).mpr held
    exact same.length_eq

theorem counted_update (counted : trie.Counted) : (trie.update key default change).Counted := by
  rw [Counted, size_update formed, length_keys_update formed, counted]

end Update

end Concordance.Trie
