import Concordance.Proofs.TermIndex
import Concordance.Proofs.Trie.Updates

/-!
# Walks that know nothing of trees

A walk keeps the ways that it has still to go and takes them one after the other. Nothing in that
keeps it from going round in circles or from leaving the nodes of a trie: that it ends depends on
the trie. A trie that has gone through updates is a tree, so a walk over it always comes to an end,
and then it has listed the keys that it was to list, in lexicographic order.
-/
namespace Concordance

namespace TrieNode

/-- Puts the children of a node on top of the ways still to go, the last one first, so that the one
with the least byte is the next to be taken. -/
def pushWays {α : Type} (node : TrieNode α) (key : Bytes) (pending : List (Nat × Bytes)) :
    List (Nat × Bytes) :=
  node.children.reverse.foldl (fun pending edge => (edge.2, key ++ [edge.1]) :: pending) pending

theorem pushWays_eq {α : Type} (node : TrieNode α) (key : Bytes) (pending : List (Nat × Bytes)) :
    node.pushWays key pending =
      node.children.map (fun edge => (edge.2, key ++ [edge.1])) ++ pending := by
  rw [pushWays, List.foldl_reverse]
  induction node.children with
  | nil => rfl
  | cons edge rest ih => rw [List.foldr_cons, ih, List.map_cons, List.cons_append]

end TrieNode

namespace Trie

variable {α : Type}

/-! ### One entry after the other -/

/-- What a walk comes to next: nothing if no way is left, otherwise the first key with a value, and
the ways that are left then. Every way leads to a node. -/
inductive Next (trie : Trie α) :
    List (Nat × Bytes) → Option ((Bytes × α) × List (Nat × Bytes)) → Prop
  | ended : Next trie [] none
  | found {index : Nat} {key : Bytes} {pending : List (Nat × Bytes)} {node : TrieNode α}
      {value : α} (visited : trie.nodes[index]? = some node) (held : node.value = some value) :
      Next trie ((index, key) :: pending) (some ((key, value), node.pushWays key pending))
  | passed {index : Nat} {key : Bytes} {pending : List (Nat × Bytes)} {node : TrieNode α}
      {outcome : Option ((Bytes × α) × List (Nat × Bytes))}
      (visited : trie.nodes[index]? = some node) (free : node.value = none)
      (later : Next trie (node.pushWays key pending) outcome) :
      Next trie ((index, key) :: pending) outcome

/-- All that a walk comes to until it has come to an end. -/
inductive Yields (trie : Trie α) : List (Nat × Bytes) → List (Bytes × α) → Prop
  | ended {pending : List (Nat × Bytes)} (next : trie.Next pending none) : Yields trie pending []
  | more {pending rest : List (Nat × Bytes)} {entry : Bytes × α} {entries : List (Bytes × α)}
      (next : trie.Next pending (some (entry, rest))) (later : Yields trie rest entries) :
      Yields trie pending (entry :: entries)

theorem Next.unique {trie : Trie α} {pending : List (Nat × Bytes)}
    {left right : Option ((Bytes × α) × List (Nat × Bytes))} (first : trie.Next pending left)
    (second : trie.Next pending right) : left = right := by
  -- the node at the front and its value decide which way the walk goes on
  induction first with
  | ended =>
    cases second
    rfl
  | found visited held =>
    cases second with
    | found again holds =>
      obtain rfl := Option.some.inj (visited.symm.trans again)
      obtain rfl := Option.some.inj (held.symm.trans holds)
      rfl
    | passed again free _ =>
      obtain rfl := Option.some.inj (visited.symm.trans again)
      rw [held] at free
      cases free
  | passed visited free _ ih =>
    cases second with
    | found again held =>
      obtain rfl := Option.some.inj (visited.symm.trans again)
      rw [held] at free
      cases free
    | passed again _ later =>
      obtain rfl := Option.some.inj (visited.symm.trans again)
      exact ih later

/-- A walk has one outcome. -/
theorem Yields.unique {trie : Trie α} {pending : List (Nat × Bytes)}
    {left right : List (Bytes × α)} (first : trie.Yields pending left)
    (second : trie.Yields pending right) : left = right := by
  induction first generalizing right with
  | ended next =>
    cases second with
    | ended _ => rfl
    | more other _ => cases next.unique other
  | more next _ ih =>
    cases second with
    | ended other => cases next.unique other
    | more other later =>
      obtain ⟨rfl, rfl⟩ := Prod.mk.inj (Option.some.inj (next.unique other))
      rw [ih later]

theorem Yields.passed {trie : Trie α} {index : Nat} {key : Bytes} {pending : List (Nat × Bytes)}
    {node : TrieNode α} {entries : List (Bytes × α)} (visited : trie.nodes[index]? = some node)
    (free : node.value = none) (later : trie.Yields (node.pushWays key pending) entries) :
    trie.Yields ((index, key) :: pending) entries := by
  cases later with
  | ended next => exact .ended (.passed visited free next)
  | more next rest => exact .more (.passed visited free next) rest

/-! ### Walks over a tree -/

/-- A way with its key the right way round. -/
def forward (way : Nat × Bytes) : Nat × Bytes := (way.1, way.2.reverse)

/-- In a tree all children come after their parents, so none is left out. -/
theorem forward_ways {trie : Trie α} {label : Nat → Bytes} (labelled : trie.Labelled label)
    {index : Nat} {node : TrieNode α} (visited : trie.nodes[index]? = some node) (path : Bytes)
    (pending : List (Nat × Bytes)) :
    (node.ways index path ++ pending).map forward =
      node.pushWays path.reverse (pending.map forward) := by
  rw [List.map_append, TrieNode.pushWays_eq, TrieNode.ways, List.filter_eq_self.mpr, List.map_map]
  · congr 1
    apply List.map_congr_left
    rintro ⟨byte, child⟩ _
    simp [forward]
  · rintro ⟨byte, child⟩ member
    exact decide_eq_true (labelled.child ((labelled.mem_children visited).mp member)).1

/-- A walk that goes on only to later nodes does what a walk over a tree does anyway. -/
theorem yields_walk {trie : Trie α} {label : Nat → Bytes} (labelled : trie.Labelled label)
    (found : List (Bytes × α)) (pending : List (Nat × Bytes))
    (inside : ∀ way ∈ pending, way.1 < trie.nodes.size) :
    ∃ entries, trie.walk found pending = found.reverse ++ entries ∧
      trie.Yields (pending.map forward) entries := by
  -- the entries found so far stay in front, and every visit turns to nodes that are there
  fun_induction walk trie found pending with
  | case1 found => exact ⟨[], by simp, .ended .ended⟩
  | case2 found index path rest missing ih =>
    have there := inside (index, path) List.mem_cons_self
    rw [Array.getElem?_eq_getElem there] at missing
    cases missing
  | case3 found index path rest node visited here ih =>
    have below : ∀ way ∈ node.ways index path ++ rest, way.1 < trie.nodes.size := by
      intro way member
      rcases List.mem_append.mp member with child | waiting
      · obtain ⟨byte, child, edge, _, rfl⟩ := mem_ways.mp child
        exact (labelled.child ((labelled.mem_children visited).mp edge)).2.1
      · exact inside way (List.mem_cons_of_mem _ waiting)
    obtain ⟨entries, walked, yields⟩ := ih below
    rw [forward_ways labelled visited] at yields
    have kept : (node.value.map fun value => (path.reverse, value)).toList = here := by
      simp [here]
    rw [kept, walked]
    cases held : node.value with
    | none =>
      rw [held] at kept
      refine ⟨entries, by rw [← kept]; rfl, ?_⟩
      exact .passed visited held yields
    | some value =>
      -- the key of the node is the first of those that are still to come
      rw [held] at kept
      refine ⟨(path.reverse, value) :: entries, by rw [← kept]; simp, ?_⟩
      exact .more (.found visited held) yields

/-- The way to the node that a walk below a key begins with, if the key leads to one. -/
def waysFrom (trie : Trie α) (start : Bytes) : List (Nat × Bytes) :=
  match trie.descend? root start with
  | some index => [(index, start)]
  | none => []

theorem yields_entries {trie : Trie α} (formed : trie.WellFormed) :
    trie.Yields [(root, [])] trie.entries := by
  obtain ⟨label, labelled⟩ := formed
  obtain ⟨entries, walked, yields⟩ := yields_walk labelled [] [(root, [])]
    (by simpa using labelled.rooted)
  rw [Trie.entries, walked]
  exact yields

theorem yields_entriesFrom {trie : Trie α} (formed : trie.WellFormed) (start : Bytes) :
    trie.Yields (trie.waysFrom start) (trie.entriesFrom start) := by
  obtain ⟨label, labelled⟩ := formed
  unfold waysFrom entriesFrom
  cases found : trie.descend? root start with
  | none => exact .ended .ended
  | some index =>
    have there := (labelled.descend labelled.rooted found).1
    obtain ⟨entries, walked, yields⟩ := yields_walk labelled [] [(index, start.reverse)]
      (by simpa using there)
    simp only [walked]
    simpa [forward] using yields

/-- The entries below a key are those whose keys begin with it, in the same order. -/
theorem entriesFrom_eq_filter {trie : Trie α} (formed : trie.WellFormed) (start : Bytes) :
    trie.entriesFrom start = trie.entries.filter fun entry => start.isPrefixOf entry.1 := by
  refine eq_of_ordered (ordered_entriesFrom formed start) ((ordered_entries formed).filter _) ?_
  rintro ⟨key, value⟩
  rw [mem_entriesFrom formed, List.mem_filter, mem_entries formed, List.isPrefixOf_iff_prefix]

/-- How a trie that holds what a table holds is listed. -/
structure Lists (trie : Trie α) (table : Std.TreeMap Bytes α) : Prop where
  /-- The walk from the root comes to an end, and it comes to these entries. -/
  ends : ∀ entries, trie.Yields [(root, [])] entries ↔ entries = trie.entries
  /-- Every key with a value is among them with its value as it is now. -/
  mem_entries : ∀ key value, (key, value) ∈ trie.entries ↔ table[key]? = some value
  /-- They stand in lexicographic order, so none stands there twice and a key stands before those
  that go on from it. -/
  ascending : trie.entries.Pairwise fun left right => left.1 < right.1
  length : trie.entries.length = trie.size
  /-- So does the walk below any key, be it one with a value, one that is only passed or one that
  leads nowhere. -/
  endsBelow : ∀ start entries,
    trie.Yields (trie.waysFrom start) entries ↔ entries = trie.entriesFrom start
  /-- It comes to the entries whose keys begin with that key. -/
  below : ∀ start,
    trie.entriesFrom start = trie.entries.filter fun entry => start.isPrefixOf entry.1

theorem Tabulates.lists {trie : Trie α} {table : Std.TreeMap Bytes α}
    (tabulates : trie.Tabulates table) : trie.Lists table where
  ends entries := by
    constructor
    · intro yields
      exact yields.unique (yields_entries tabulates.tree)
    · rintro rfl
      exact yields_entries tabulates.tree
  mem_entries key value := by rw [Trie.mem_entries tabulates.tree, tabulates.held]
  ascending := ordered_entries tabulates.tree
  length := by rw [tabulates.counted, keys, List.length_map]
  endsBelow start entries := by
    constructor
    · intro yields
      exact yields.unique (yields_entriesFrom tabulates.tree start)
    · rintro rfl
      exact yields_entriesFrom tabulates.tree start
  below := entriesFrom_eq_filter tabulates.tree

end Trie

/-! ### Offsets under all terms that begin alike -/

namespace TermIndex

/-- How a term index is listed to which offsets have been added one after the other. -/
structure Gathers (index : TermIndex) (additions : List (Bytes × Offset)) : Prop where
  /-- Every term with an offset stands there with its offsets, as they have been added. -/
  mem_entries : ∀ key offsets,
    (key, offsets) ∈ index.entries ↔ offsets = under key additions ∧ offsets ≠ []
  ascending : index.entries.Pairwise fun left right => left.1 < right.1
  /-- The offsets under terms that begin alike are those of one term after the other. -/
  offsetsForStart : ∀ start, index.offsetsForStart start =
    (index.entries.filter fun entry => (Text.encode start).isPrefixOf entry.1).flatMap (·.2)

theorem gathers_addAll (additions : List (Bytes × Offset)) :
    (empty.addAll additions).Gathers additions := by
  have formed := wellFormed_addAll wellFormed_empty additions
  refine {
    mem_entries := fun key offsets => ?_
    ascending := ?_
    offsetsForStart := fun start => ?_ }
  · rw [TermIndex.mem_entries formed, offsetsAt_addAll wellFormed_empty, offsetsAt_empty,
      List.nil_append]
  · exact List.pairwise_map.mpr (Trie.ordered_entries formed.tree)
  · rw [TermIndex.offsetsForStart, Trie.entriesFrom_eq_filter formed.tree, entries,
      List.filter_map, List.flatMap_map]
    rfl

end TermIndex

namespace Trie

/-- However a trie has been filled, a walk over it ends and lists its keys in order, from any of
them on; so the offsets under terms that begin alike are listed term by term. -/
theorem lists_updateAll (updates : List (Update α)) :
    (empty.updateAll updates).Lists (tabulate updates) ∧
      ∀ additions, (TermIndex.empty.addAll additions).Gathers additions :=
  ⟨(tabulates_updateAll updates).lists, TermIndex.gathers_addAll⟩

/-- A walk below a key that is only passed. -/
theorem lists_of_sample :
    (empty.updateAll sampleUpdates).Yields ((empty.updateAll sampleUpdates).waysFrom [97])
      [([97, 98], 3), ([97, 98, 99], 12)] := by
  obtain ⟨lists, _⟩ := lists_updateAll sampleUpdates
  exact (lists.endsBelow [97] _).mpr (by decide +kernel)

end Trie

end Concordance
