import Concordance.Proofs.Trie.Lookup
import Mathlib.Data.List.Sort

/-!
# The order of the keys

A walk meets every key below the nodes it has still to visit exactly once, and it meets them in
lexicographic order. So the list of all entries is determined by what the keys lead to, however
the trie has come about, and so is the list of the entries below a key.
-/
namespace Concordance.Trie

variable {α : Type}

/-- Keys ascend, so none is listed twice. -/
def Ordered (entries : List (Bytes × α)) : Prop :=
  entries.Pairwise fun left right => left.1 < right.1

/-- Lists of entries in order are the same when they have the same members. -/
theorem eq_of_ordered {left right : List (Bytes × α)} (left_ordered : Ordered left)
    (right_ordered : Ordered right) (same : ∀ entry, entry ∈ left ↔ entry ∈ right) :
    left = right := by
  have irreflexive : Std.Irrefl fun left right : Bytes × α => left.1 < right.1 :=
    ⟨fun entry => List.lt_irrefl entry.1⟩
  have antisymmetric : Std.Antisymm fun left right : Bytes × α => left.1 < right.1 :=
    ⟨fun _ _ less more => absurd (List.lt_trans less more) (List.lt_irrefl _)⟩
  exact left_ordered.eq_of_mem_iff right_ordered same

/-! ### What a walk meets -/

/-- `key` lies at or below the node that `way` leads to, and has the given value. -/
def Below (trie : Trie α) (way : Nat × Bytes) (key : Bytes) (value : α) : Prop :=
  ∃ rest last, trie.descend? way.1 rest = some last ∧ trie.valueAt? last = some value ∧
    key = way.2.reverse ++ rest

theorem not_below_of_missing {trie : Trie α} {index : Nat} {path : Bytes}
    (missing : trie.nodes[index]? = none) (key : Bytes) (value : α) :
    ¬trie.Below (index, path) key value := by
  rintro ⟨rest, last, found, held, _⟩
  cases rest with
  | nil =>
    obtain rfl : index = last := Option.some.inj found
    simp [valueAt?, missing] at held
  | cons byte rest => simp [descend?, child?, missing] at found

theorem mem_ways {node : TrieNode α} {index : Nat} {path : Bytes} {way : Nat × Bytes} :
    way ∈ node.ways index path ↔
      ∃ byte child, (byte, child) ∈ node.children ∧ index < child ∧
        way = (child, byte :: path) := by
  simp only [TrieNode.ways, List.mem_map, List.mem_filter, decide_eq_true_eq]
  constructor
  · rintro ⟨⟨byte, child⟩, ⟨member, after⟩, rfl⟩
    exact ⟨byte, child, member, after, rfl⟩
  · rintro ⟨byte, child, member, after, rfl⟩
    exact ⟨(byte, child), ⟨member, after⟩, rfl⟩

/-- A key below a node ends there or goes on below one of its children. -/
theorem below_iff {trie : Trie α} {label : Nat → Bytes} (labelled : trie.Labelled label)
    {index : Nat} {path : Bytes} {node : TrieNode α} (visited : trie.nodes[index]? = some node)
    (key : Bytes) (value : α) :
    trie.Below (index, path) key value ↔
      node.value = some value ∧ key = path.reverse ∨
        ∃ way ∈ node.ways index path, trie.Below way key value := by
  constructor
  · rintro ⟨rest, last, found, held, rfl⟩
    cases rest with
    | nil =>
      obtain rfl : index = last := Option.some.inj found
      left
      simpa [valueAt?, visited] using held
    | cons byte rest =>
      right
      simp only [descend?] at found
      split at found
      · next child step =>
        have member := (labelled.mem_children visited).mpr step
        exact ⟨(child, byte :: path),
          mem_ways.mpr ⟨byte, child, member, (labelled.child step).1, rfl⟩,
          rest, last, found, held, by simp⟩
      · simp at found
  · rintro (⟨held, rfl⟩ | ⟨way, member, rest, last, found, held, rfl⟩)
    · exact ⟨[], index, rfl, by simpa [valueAt?, visited] using held, by simp⟩
    · obtain ⟨byte, child, edge, _, rfl⟩ := mem_ways.mp member
      have step := (labelled.mem_children visited).mp edge
      exact ⟨byte :: rest, last, by simpa only [descend?, step] using found, held, by simp⟩

theorem mem_walk {trie : Trie α} {label : Nat → Bytes} (labelled : trie.Labelled label)
    (found : List (Bytes × α)) (pending : List (Nat × Bytes)) (key : Bytes) (value : α) :
    (key, value) ∈ trie.walk found pending ↔
      (key, value) ∈ found ∨ ∃ way ∈ pending, trie.Below way key value := by
  -- along the walk, a key below a way still to go is found or comes to lie below another one
  fun_induction walk trie found pending with
  | case1 found => simp
  | case2 found index path rest missing ih =>
    rw [ih]
    simp [not_below_of_missing missing]
  | case3 found index path rest node visited here ih =>
    have kept : (node.value.map fun value => (path.reverse, value)).toList = here := by
      simp [here]
    -- a key below the node is found now, or below one of the children
    rw [kept, ih, List.exists_mem_cons_iff, below_iff labelled visited]
    simp only [List.mem_append, or_and_right, exists_or]
    have ends : (key, value) ∈ here ↔ node.value = some value ∧ key = path.reverse := by
      simp only [← kept, Option.mem_toList, Option.map_eq_some_iff, Prod.mk.injEq]
      constructor
      · rintro ⟨_, held, rfl, rfl⟩
        exact ⟨held, rfl⟩
      · rintro ⟨held, rfl⟩
        exact ⟨value, held, rfl, rfl⟩
    rw [ends]
    constructor
    · rintro ((now | before) | (child | later))
      · exact .inr (.inl (.inl now))
      · exact .inl before
      · exact .inr (.inl (.inr child))
      · exact .inr (.inr later)
    · rintro (before | (now | child) | later)
      · exact .inl (.inr before)
      · exact .inl (.inl now)
      · exact .inr (.inl child)
      · exact .inr (.inr later)

/-! ### In which order -/

/-- Every key that begins with `path` comes before every key that begins with `other`. -/
def Precedes (path other : Bytes) : Prop :=
  ∀ left right, path ++ left < other ++ right

theorem precedes_of_lt {path : Bytes} {byte other : UInt8} (less : byte < other) :
    Precedes (path ++ [byte]) (path ++ [other]) := by
  intro left right
  simp only [List.append_assoc, List.singleton_append]
  exact List.append_left_lt (List.cons_lt_cons_iff.mpr (.inl less))

theorem lt_extension (path : Bytes) (byte : UInt8) (rest : Bytes) :
    path < path ++ byte :: rest := by
  have less : path ++ [] < path ++ byte :: rest := List.append_left_lt (List.nil_lt_cons byte rest)
  rwa [List.append_nil] at less

/-- A walk is in order so far: the keys found ascend, they come before all that are still to be
found, and the ways still to go lead to later and later keys. -/
structure InOrder (found : List (Bytes × α)) (pending : List (Nat × Bytes)) : Prop where
  ascends : Ordered found.reverse
  before : ∀ entry ∈ found, ∀ way ∈ pending, ∀ rest, entry.1 < way.2.reverse ++ rest
  apart : pending.Pairwise fun left right => Precedes left.2.reverse right.2.reverse

theorem pairwise_ways {trie : Trie α} {label : Nat → Bytes} (labelled : trie.Labelled label)
    {index : Nat} {node : TrieNode α} (visited : trie.nodes[index]? = some node) (path : Bytes) :
    (node.ways index path).Pairwise fun left right =>
      Precedes left.2.reverse right.2.reverse := by
  refine List.pairwise_map.mpr (List.Pairwise.imp ?_ ((labelled.ascending visited).filter _))
  intro left right less
  simp only [List.reverse_cons]
  exact precedes_of_lt less

theorem InOrder.visit {trie : Trie α} {label : Nat → Bytes} (labelled : trie.Labelled label)
    {found : List (Bytes × α)} {index : Nat} {path : Bytes} {rest : List (Nat × Bytes)}
    {node : TrieNode α} (visited : trie.nodes[index]? = some node)
    (order : InOrder found ((index, path) :: rest)) :
    InOrder ((node.value.map fun value => (path.reverse, value)).toList ++ found)
      (node.ways index path ++ rest) := by
  obtain ⟨first, others⟩ := List.pairwise_cons.mp order.apart
  have ways_before {way : Nat × Bytes} (member : way ∈ node.ways index path) :
      ∃ byte, way.2.reverse = path.reverse ++ [byte] := by
    obtain ⟨byte, child, _, _, rfl⟩ := mem_ways.mp member
    exact ⟨byte, List.reverse_cons ..⟩
  refine ⟨?_, ?_, List.pairwise_append.mpr ⟨pairwise_ways labelled visited path, others, ?_⟩⟩
  · -- the key of the node itself comes after those found so far
    cases node.value with
    | none => exact order.ascends
    | some value =>
      simp only [Option.map_some, Option.toList_some, List.singleton_append, List.reverse_cons]
      refine List.pairwise_append.mpr ⟨order.ascends, List.pairwise_singleton .., ?_⟩
      intro entry member last is_last
      obtain rfl := List.mem_singleton.mp is_last
      have less := order.before entry (List.mem_reverse.mp member) (index, path)
        List.mem_cons_self []
      simpa using less
  · -- what has been found comes before the children and before what was waiting
    intro entry member way is_way more
    rcases List.mem_append.mp member with here | earlier
    · obtain ⟨value, _, rfl⟩ := Option.map_eq_some_iff.mp (Option.mem_toList.mp here)
      rcases List.mem_append.mp is_way with child | later
      · obtain ⟨byte, named⟩ := ways_before child
        rw [named, List.append_assoc]
        exact lt_extension path.reverse byte more
      · simpa using first way later [] more
    · rcases List.mem_append.mp is_way with child | later
      · obtain ⟨byte, named⟩ := ways_before child
        rw [named, List.append_assoc]
        exact order.before entry earlier (index, path) List.mem_cons_self _
      · exact order.before entry earlier way (List.mem_cons_of_mem _ later) more
  · -- the children come before what was waiting, as the node itself did
    intro way member later is_later left right
    obtain ⟨byte, named⟩ := ways_before member
    rw [named, List.append_assoc]
    exact first later is_later _ right

theorem ordered_walk {trie : Trie α} {label : Nat → Bytes} (labelled : trie.Labelled label)
    {found : List (Bytes × α)} {pending : List (Nat × Bytes)} (order : InOrder found pending) :
    Ordered (trie.walk found pending) := by
  -- each visit keeps the order, so what has been found in the end is in order
  fun_induction walk trie found pending with
  | case1 found => exact order.ascends
  | case2 found index path rest missing ih =>
    refine ih ⟨order.ascends, fun entry member way later => ?_, order.apart.of_cons⟩
    exact order.before entry member way (List.mem_cons_of_mem _ later)
  | case3 found index path rest node visited here ih =>
    have kept : (node.value.map fun value => (path.reverse, value)).toList = here := by
      simp [here]
    rw [kept]
    exact ih (kept ▸ order.visit labelled visited)

/-! ### The entries of a trie -/

theorem inOrder_single (way : Nat × Bytes) : InOrder ([] : List (Bytes × α)) [way] :=
  ⟨List.Pairwise.nil, by simp, List.pairwise_singleton ..⟩

theorem ordered_entries {trie : Trie α} (formed : trie.WellFormed) : Ordered trie.entries := by
  obtain ⟨label, labelled⟩ := formed
  exact ordered_walk labelled (inOrder_single _)

theorem ordered_entriesFrom {trie : Trie α} (formed : trie.WellFormed) (start : Bytes) :
    Ordered (trie.entriesFrom start) := by
  obtain ⟨label, labelled⟩ := formed
  unfold entriesFrom
  split
  · exact ordered_walk labelled (inOrder_single _)
  · exact List.Pairwise.nil

theorem get?_eq_some_iff {trie : Trie α} {key : Bytes} {value : α} :
    trie.get? key = some value ↔
      ∃ last, trie.descend? root key = some last ∧ trie.valueAt? last = some value := by
  unfold get?
  cases trie.descend? root key with
  | none => simp
  | some index => simp

/-- The entries below a key are those of the keys that begin with it. -/
theorem mem_entriesFrom {trie : Trie α} (formed : trie.WellFormed) {start key : Bytes}
    {value : α} :
    (key, value) ∈ trie.entriesFrom start ↔ trie.get? key = some value ∧ start <+: key := by
  obtain ⟨label, labelled⟩ := formed
  unfold entriesFrom
  rw [get?_eq_some_iff]
  constructor
  · intro member
    split at member
    · next index found =>
      rw [mem_walk labelled] at member
      simp only [List.not_mem_nil, false_or, List.mem_singleton, exists_eq_left] at member
      obtain ⟨rest, last, further, held, rfl⟩ := member
      rw [List.reverse_reverse]
      refine ⟨⟨last, ?_, held⟩, List.prefix_append ..⟩
      rw [descend?_append, found]
      exact further
    · simp at member
  · rintro ⟨⟨last, found, held⟩, rest, rfl⟩
    -- the way to the key passes the node that the walk begins with
    rw [descend?_append] at found
    obtain ⟨index, step, further⟩ := Option.bind_eq_some_iff.mp found
    rw [step]
    refine (mem_walk labelled ..).mpr (.inr ⟨_, List.mem_singleton_self _, ?_⟩)
    exact ⟨rest, last, further, held, by rw [List.reverse_reverse]⟩

/-- The entries are the keys with a value, each with its value. -/
theorem mem_entries {trie : Trie α} (formed : trie.WellFormed) {key : Bytes} {value : α} :
    (key, value) ∈ trie.entries ↔ trie.get? key = some value := by
  have below : (key, value) ∈ trie.entriesFrom [] ↔ trie.get? key = some value ∧ [] <+: key :=
    mem_entriesFrom formed
  simpa [entriesFrom, descend?, entries] using below

/-- What a trie lists depends only on what its keys lead to. -/
theorem entries_eq {left right : Trie α} (left_formed : left.WellFormed)
    (right_formed : right.WellFormed) (same : ∀ key, left.get? key = right.get? key) :
    left.entries = right.entries := by
  refine eq_of_ordered (ordered_entries left_formed) (ordered_entries right_formed) ?_
  rintro ⟨key, value⟩
  rw [mem_entries left_formed, mem_entries right_formed, same]

theorem entriesFrom_eq {left right : Trie α} (left_formed : left.WellFormed)
    (right_formed : right.WellFormed) (same : ∀ key, left.get? key = right.get? key)
    (start : Bytes) : left.entriesFrom start = right.entriesFrom start := by
  refine eq_of_ordered (ordered_entriesFrom left_formed start)
    (ordered_entriesFrom right_formed start) ?_
  rintro ⟨key, value⟩
  rw [mem_entriesFrom left_formed, mem_entriesFrom right_formed, same]

end Concordance.Trie
