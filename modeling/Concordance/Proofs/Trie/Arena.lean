import Concordance.Proofs.Trie.Search
import Concordance.Proofs.Trie.Updates

/-!
# The nodes of a trie

The nodes lie in one array and refer to each other by their places in it. Nothing in that keeps two
nodes from sharing a child or a node from being lost, but updates only ever add a node together with
the edge that leads to it. So the nodes are a tree: every node but the root is the child of exactly
one node under exactly one byte. A node is added only on the way of a key that gets a value, so what
has no children has a value.
-/
namespace Concordance.Trie

variable {α : Type}

/-- An edge leads from the node at `index` to the one at `child`. -/
def HasEdge (trie : Trie α) (index : Nat) (byte : UInt8) (child : Nat) : Prop :=
  ∃ node, trie.nodes[index]? = some node ∧ (byte, child) ∈ node.children

/-- The number of nodes with a value. -/
def holders (trie : Trie α) : Nat := trie.nodes.toList.countP (·.value.isSome)

/-! ### Edges -/

section Labelled

variable {trie : Trie α} {label : Nat → Bytes} (labelled : trie.Labelled label)

include labelled

theorem Labelled.hasEdge_iff {index child : Nat} {byte : UInt8} :
    trie.HasEdge index byte child ↔ trie.child? index byte = some child := by
  constructor
  · rintro ⟨node, visited, member⟩
    exact (labelled.mem_children visited).mp member
  · intro step
    cases visited : trie.nodes[index]? with
    | none => simp [child?, visited] at step
    | some node => exact ⟨node, visited, (labelled.mem_children visited).mpr step⟩

/-- A node is named after its parent and the byte of the edge, so both can be told from its name. -/
theorem Labelled.hasEdge_unique {index other child : Nat} {byte bit : UInt8}
    (left : trie.HasEdge index byte child) (right : trie.HasEdge other bit child) :
    index = other ∧ byte = bit := by
  have inside {place : Nat} {byte : UInt8} (edge : trie.HasEdge place byte child) :
      place < trie.nodes.size := by
    obtain ⟨_, visited, _⟩ := edge
    exact (Array.getElem?_eq_some_iff.mp visited).1
  obtain ⟨_, _, named⟩ := labelled.child (labelled.hasEdge_iff.mp left)
  obtain ⟨_, _, named'⟩ := labelled.child (labelled.hasEdge_iff.mp right)
  obtain ⟨labels, bytes⟩ := List.append_inj' (named.symm.trans named') rfl
  refine ⟨?_, List.head_eq_of_cons_eq bytes⟩
  -- both parents are reached by the same key
  have reached := labelled.reached (inside left)
  rw [labels, labelled.reached (inside right)] at reached
  exact (Option.some.inj reached).symm

/-- The last step of the way to a node leads from its parent. -/
theorem Labelled.exists_hasEdge {child : Nat} (inside : child < trie.nodes.size)
    (below : child ≠ root) : ∃ index byte, trie.HasEdge index byte child := by
  have reached := labelled.reached inside
  cases last : (label child).getLast? with
  | none =>
    -- the empty key leads to the root
    rw [List.getLast?_eq_none_iff.mp last] at reached
    exact absurd (Option.some.inj reached).symm below
  | some byte =>
    obtain ⟨front, split⟩ := List.getLast?_eq_some_iff.mp last
    rw [split, descend?_append] at reached
    obtain ⟨index, _, step⟩ := Option.bind_eq_some_iff.mp reached
    refine ⟨index, byte, labelled.hasEdge_iff.mpr ?_⟩
    simp only [descend?] at step
    split at step
    · next next found => rw [found, step]
    · cases step

end Labelled

/-! ### Leaves -/

/-- Every node without children has a value, unless it is the root or the node at `index`. -/
def LeavesHold (trie : Trie α) (index : Nat) : Prop :=
  ∀ other < trie.nodes.size, other ≠ root → other ≠ index →
    (∀ byte, trie.child? other byte = none) → trie.valueAt? other ≠ none

theorem LeavesHold.step {trie : Trie α} {index next : Nat} {byte : UInt8}
    (leaves : trie.LeavesHold index) (step : trie.child? index byte = some next) :
    trie.LeavesHold next := by
  intro other inside below _ childless
  refine leaves other inside below ?_ childless
  rintro rfl
  rw [childless byte] at step
  cases step

theorem LeavesHold.sprout {trie : Trie α} {index : Nat} {byte : UInt8}
    (leaves : trie.LeavesHold index) (inside : index < trie.nodes.size) :
    (trie.sprout index byte).LeavesHold trie.nodes.size := by
  intro other within below old childless
  rw [size_nodes_sprout] at within
  have earlier : other < trie.nodes.size :=
    Nat.lt_of_le_of_ne (Nat.le_of_lt_succ within) old
  -- the node that has got a child is no leaf any more
  have away : other ≠ index := by
    rintro rfl
    have step := childless byte
    rw [child?_sprout trie inside, if_pos ⟨rfl, rfl⟩] at step
    cases step
  rw [valueAt?_sprout, if_neg old]
  refine leaves other earlier below away fun label => ?_
  have step := childless label
  rwa [child?_sprout trie inside, if_neg fun here => away here.1] at step

/-- The nodes that are made on the way of a key all get a child, except the last one. -/
theorem leavesHold_makePath {trie : Trie α} {label : Nat → Bytes} (labelled : trie.Labelled label)
    {index : Nat} (inside : index < trie.nodes.size) (leaves : trie.LeavesHold index)
    (key : Bytes) :
    (trie.makePath index key).1.LeavesHold (trie.makePath index key).2 := by
  induction key generalizing trie label index with
  | nil => exact leaves
  | cons byte rest ih =>
    simp only [makePath]
    split
    · next next step => exact ih labelled (labelled.child step).2.1 (leaves.step step)
    · next missing =>
      exact ih (labelled_sprout labelled inside missing) (by simp) (leaves.sprout inside)

theorem leavesHold_update {trie : Trie α} (formed : trie.WellFormed)
    (leaves : trie.LeavesHold root) (key : Bytes) (default : α) (change : α → α) :
    (trie.update key default change).LeavesHold root := by
  obtain ⟨label, labelled⟩ := formed
  have made := leavesHold_makePath labelled labelled.rooted leaves key
  intro other inside below _ childless
  rw [nodes_update, Array.size_modify] at inside
  rw [valueAt?_update trie key default change inside]
  split
  · simp
  · next away =>
    refine made other inside below away fun byte => ?_
    rw [← child?_update]
    exact childless byte

theorem leavesHold_empty : (empty : Trie α).LeavesHold root := by
  intro other inside below
  exact absurd (Nat.lt_one_iff.mp inside) below

/-! ### Values -/

/-- Changing one item changes the number of items of a kind by that item. -/
theorem countP_modify {β : Type} (items : List β) (kind : β → Bool) (change : β → β) {index : Nat}
    (inside : index < items.length) :
    (items.modify index change).countP kind + (if kind items[index] then 1 else 0) =
      items.countP kind + if kind (change items[index]) then 1 else 0 := by
  have whole : items = items.take index ++ items[index] :: items.drop (index + 1) := by simp
  have split := congrArg (List.countP kind) whole
  rw [List.countP_append, List.countP_cons] at split
  rw [List.modify_eq_take_cons_drop inside, List.countP_append, List.countP_cons]
  omega

theorem holders_sprout (trie : Trie α) {index : Nat} (inside : index < trie.nodes.size)
    (byte : UInt8) : (trie.sprout index byte).holders = trie.holders := by
  have there : index < (trie.nodes.push TrieNode.empty).toList.length := by
    rw [Array.length_toList, Array.size_push]
    exact Nat.lt_succ_of_lt inside
  -- the parent has the value that it had, and the new node has none
  have parent := countP_modify _ (·.value.isSome) (·.addChild byte trie.nodes.size) there
  rw [holders, holders, sprout, Array.toList_modify, Nat.add_right_cancel parent,
    Array.toList_push, List.countP_append, List.countP_singleton]
  rfl

theorem holders_makePath {trie : Trie α} {label : Nat → Bytes} (labelled : trie.Labelled label)
    {index : Nat} (inside : index < trie.nodes.size) (key : Bytes) :
    (trie.makePath index key).1.holders = trie.holders := by
  induction key generalizing trie label index with
  | nil => rfl
  | cons byte rest ih =>
    simp only [makePath]
    split
    · next next step => exact ih labelled (labelled.child step).2.1
    · next missing =>
      rw [ih (labelled_sprout labelled inside missing) (by simp), holders_sprout trie inside]

/-- The number that is kept is raised exactly if one more node has a value. -/
theorem size_eq_holders_update {trie : Trie α} (formed : trie.WellFormed)
    (counted : trie.size = trie.holders) (key : Bytes) (default : α) (change : α → α) :
    (trie.update key default change).size = (trie.update key default change).holders := by
  have absent := valueAt?_makePath formed key
  rw [size_update formed, ← absent, counted]
  obtain ⟨label, labelled⟩ := formed
  have kept := holders_makePath labelled labelled.rooted key
  obtain ⟨_, ⟨_, grown⟩, found⟩ := makePath_spec labelled labelled.rooted key
  have inside := (grown.descend_iff.mp found).1
  rw [← Array.length_toList] at inside
  have changed := countP_modify (trie.makePath root key).1.nodes.toList (·.value.isSome)
    (fun node => { node with value := some (change (node.value.getD default)) }) inside
  rw [← Array.toList_modify, ← nodes_update] at changed
  have visited : (trie.makePath root key).1.valueAt? (trie.makePath root key).2 =
      ((trie.makePath root key).1.nodes.toList[(trie.makePath root key).2]).value := by
    simp [valueAt?, (grown.descend_iff.mp found).1]
  rw [visited, ← kept]
  simp only [holders]
  cases held : ((trie.makePath root key).1.nodes.toList[(trie.makePath root key).2]).value with
  | none =>
    simp only [held, Option.isSome_none, Option.isSome_some, Bool.false_eq_true, if_false, if_true,
      Nat.add_zero] at changed
    rw [if_pos rfl, changed]
  | some value =>
    simp only [held, Option.isSome_some, if_true] at changed
    rw [if_neg (by simp), Nat.add_right_cancel changed]

/-! ### The whole array -/

/-- What updates keep up: the nodes form a tree, what has no children has a value, and the nodes
with a value are counted. -/
structure Tended (trie : Trie α) : Prop where
  tree : trie.WellFormed
  leaves : trie.LeavesHold root
  counted : trie.size = trie.holders

theorem tended_empty : (empty : Trie α).Tended where
  tree := wellFormed_empty
  leaves := leavesHold_empty
  counted := rfl

theorem Tended.update {trie : Trie α} (tended : trie.Tended) (key : Bytes) (default : α)
    (change : α → α) : (trie.update key default change).Tended where
  tree := wellFormed_update tended.tree key default change
  leaves := leavesHold_update tended.tree tended.leaves key default change
  counted := size_eq_holders_update tended.tree tended.counted key default change

theorem Tended.updateAll {trie : Trie α} (tended : trie.Tended) (updates : List (Update α)) :
    (trie.updateAll updates).Tended := by
  induction updates generalizing trie with
  | nil => exact tended
  | cons update rest ih => exact ih (tended.update ..)

/-- The nodes are a tree in which every leaf has a value. -/
structure Arena (trie : Trie α) : Prop where
  rooted : root < trie.nodes.size
  /-- An edge leads to a node that is there and comes later, so it never leads to the root. -/
  forward : ∀ index byte child, trie.HasEdge index byte child →
    index < child ∧ child < trie.nodes.size ∧ child ≠ root
  /-- Every other node is the child of exactly one node under exactly one byte. -/
  parent : ∀ child < trie.nodes.size, child ≠ root →
    ∃! edge : Nat × UInt8, trie.HasEdge edge.1 edge.2 child
  /-- So exactly one way leads from the root to each node. -/
  reached : ∀ index < trie.nodes.size, ∃! key, trie.descend? root key = some index
  /-- The edges of a node ascend, so no byte stands at two of them. -/
  ascending : ∀ (index : Nat) (node : TrieNode α), trie.nodes[index]? = some node →
    node.children.Pairwise fun left right => left.1 < right.1
  /-- So halving finds a child exactly if there is one. -/
  searched : ∀ (index : Nat) (node : TrieNode α), trie.nodes[index]? = some node → ∀ byte child,
    node.search? byte = some child ↔ (byte, child) ∈ node.children
  /-- What has no children has a value, apart from the root. -/
  leaves : ∀ (index : Nat) (node : TrieNode α), trie.nodes[index]? = some node → index ≠ root →
    node.children = [] → node.value ≠ none
  counted : trie.size = trie.holders

theorem Tended.arena {trie : Trie α} (tended : trie.Tended) : trie.Arena := by
  obtain ⟨label, labelled⟩ := tended.tree
  refine {
    rooted := labelled.rooted
    forward := fun index byte child edge => ?_
    parent := fun child inside below => ?_
    reached := fun index inside => ?_
    ascending := fun index node visited => labelled.ascending visited
    searched := fun index node visited byte child =>
      TrieNode.search?_eq_some_iff (labelled.ascending visited)
    leaves := fun index node visited below childless => ?_
    counted := tended.counted }
  · obtain ⟨later, inside, _⟩ := labelled.child (labelled.hasEdge_iff.mp edge)
    exact ⟨later, inside, Nat.ne_of_gt (Nat.zero_lt_of_lt later)⟩
  · obtain ⟨index, byte, edge⟩ := labelled.exists_hasEdge inside below
    refine ⟨(index, byte), edge, ?_⟩
    rintro ⟨other, bit⟩ another
    obtain ⟨rfl, rfl⟩ := labelled.hasEdge_unique another edge
    rfl
  · refine ⟨label index, labelled.reached inside, fun key found => ?_⟩
    exact (labelled.descend_iff.mp found).2.symm
  · have inside := (Array.getElem?_eq_some_iff.mp visited).1
    have held := tended.leaves index inside below below fun byte => by
      simp [child?, visited, childless]
    simpa only [valueAt?, visited] using held

/-- Makes updates that look for edges by halving, one after the other. -/
def updateAllByHalving (trie : Trie α) (updates : List (Update α)) : Trie α :=
  updates.foldl
    (fun trie update => trie.updateByHalving update.key update.default update.change) trie

theorem updateAllByHalving_eq {trie : Trie α} (formed : trie.WellFormed)
    (updates : List (Update α)) : trie.updateAllByHalving updates = trie.updateAll updates := by
  induction updates generalizing trie with
  | nil => rfl
  | cons update rest ih =>
    rw [updateAllByHalving, List.foldl_cons, updateByHalving_eq formed]
    exact ih (wellFormed_update formed ..)

/-- Whatever updates a trie has gone through, its nodes are a tree whose leaves have values; and the
same tree comes of updates that look for every edge, and for the place of every new one, by halving.
A key that is looked up by halving leads to the node that it leads to otherwise. -/
theorem arena_updateAll (updates : List (Update α)) :
    (empty.updateAll updates).Arena ∧
      empty.updateAllByHalving updates = empty.updateAll updates ∧
      ∀ index key, (empty.updateAll updates).descendByHalving? index key =
        (empty.updateAll updates).descend? index key := by
  have tended := tended_empty.updateAll updates
  obtain ⟨_, labelled⟩ := tended.tree
  refine ⟨tended.arena, updateAllByHalving_eq wellFormed_empty updates, ?_⟩
  intro index key
  exact labelled.descendByHalving?_eq index key

end Concordance.Trie
