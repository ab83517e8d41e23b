import Concordance.Word

/-!
# Tries

A trie maps byte strings to values. Its nodes lie in one array and refer to each other by their
index; the root is the first of them and a child comes after its parent. The edges of a node are
kept in ascending order of their bytes, so every walk meets the keys in lexicographic order, a
key before its extensions.
-/
namespace Concordance

/-- One node: its edges by ascending byte, each with the index of the child, and its value. -/
structure TrieNode (α : Type) where
  children : List (UInt8 × Nat)
  value : Option α
  deriving Repr

namespace TrieNode

variable {α : Type}

def empty : TrieNode α := ⟨[], none⟩

/-- Adds an edge before the first one with a greater byte. -/
def insertEdge (byte : UInt8) (child : Nat) : List (UInt8 × Nat) → List (UInt8 × Nat)
  | [] => [(byte, child)]
  | (other, target) :: rest =>
    if other < byte then (other, target) :: insertEdge byte child rest
    else (byte, child) :: (other, target) :: rest

def addChild (node : TrieNode α) (byte : UInt8) (child : Nat) : TrieNode α :=
  { node with children := insertEdge byte child node.children }

/-- The children of the node at `index`, which `path` leads to, last byte first, each with the way
that leads to it. What does not come after a node is no child of it. -/
def ways (node : TrieNode α) (index : Nat) (path : Bytes) : List (Nat × Bytes) :=
  (node.children.filter fun (_, child) => index < child).map
    fun (byte, child) => (child, byte :: path)

theorem length_ways_le (node : TrieNode α) (index : Nat) (path : Bytes) :
    (node.ways index path).length ≤ node.children.length := by
  simp only [ways, List.length_map]
  exact List.length_filter_le ..

theorem lt_of_mem_ways {node : TrieNode α} {index : Nat} {path : Bytes} {way : Nat × Bytes}
    (member : way ∈ node.ways index path) : index < way.1 := by
  simp only [ways, List.mem_map, List.mem_filter, decide_eq_true_eq] at member
  obtain ⟨edge, ⟨_, after⟩, rfl⟩ := member
  exact after

end TrieNode

structure Trie (α : Type) where
  nodes : Array (TrieNode α)
  /-- The number of keys with a value. -/
  size : Nat
  deriving Repr

namespace Trie

variable {α : Type}

/-- The index of the root. -/
def root : Nat := 0

def empty : Trie α := ⟨#[TrieNode.empty], 0⟩

def isEmpty (trie : Trie α) : Bool := trie.size == 0

/-- The child of a node under a byte. -/
def child? (trie : Trie α) (index : Nat) (byte : UInt8) : Option Nat :=
  match trie.nodes[index]? with
  | some node => node.children.lookup byte
  | none => none

/-- The node that `key` leads to from `index`. -/
def descend? (trie : Trie α) (index : Nat) : (key : Bytes) → Option Nat
  | [] => some index
  | byte :: rest =>
    match trie.child? index byte with
    | some next => trie.descend? next rest
    | none => none

def valueAt? (trie : Trie α) (index : Nat) : Option α :=
  match trie.nodes[index]? with
  | some node => node.value
  | none => none

/-- The value of a key. -/
def get? (trie : Trie α) (key : Bytes) : Option α :=
  match trie.descend? root key with
  | some index => trie.valueAt? index
  | none => none

/-- Adds a node as the child of `index` under `byte`. -/
def sprout (trie : Trie α) (index : Nat) (byte : UInt8) : Trie α :=
  let next := trie.nodes.size
  { trie with nodes := (trie.nodes.push TrieNode.empty).modify index (·.addChild byte next) }

/-- Makes the nodes on the way of `key` that are missing, and tells where the way ends. -/
def makePath (trie : Trie α) (index : Nat) : (key : Bytes) → Trie α × Nat
  | [] => (trie, index)
  | byte :: rest =>
    match trie.child? index byte with
    | some next => trie.makePath next rest
    | none =>
      let next := trie.nodes.size
      (trie.sprout index byte).makePath next rest

/-- Changes the value of `key`, which is `default` if it had none before. -/
def update (trie : Trie α) (key : Bytes) (default : α) (change : α → α) : Trie α :=
  let (trie, index) := trie.makePath root key
  -- the way is there now, so only the value is missing or present
  let size := if (trie.valueAt? index).isNone then trie.size + 1 else trie.size
  { nodes := trie.nodes.modify index fun node =>
      { node with value := some (change (node.value.getD default)) }
    size }

/-- Gives `key` the value `default` if it has none. -/
def insertIfNew (trie : Trie α) (key : Bytes) (default : α) : Trie α :=
  trie.update key default id

/-! ### Walks -/

/-- The number of edges. -/
def edgeCount (trie : Trie α) : Nat :=
  (trie.nodes.toList.flatMap (·.children)).length

/-- A bound on the nodes of a tree with so many levels, in which a node has at most `edges`
children. -/
def treeBound (edges : Nat) : (levels : Nat) → Nat
  | 0 => 1
  | levels + 1 => (edges + 1) * treeBound edges levels

theorem treeBound_pos (edges levels : Nat) : 0 < treeBound edges levels := by
  induction levels with
  | zero => exact Nat.one_pos
  | succ levels ih => exact Nat.mul_pos (Nat.succ_pos edges) ih

theorem treeBound_mono (edges : Nat) {fewer levels : Nat} (within : fewer ≤ levels) :
    treeBound edges fewer ≤ treeBound edges levels := by
  induction within with
  | refl => exact Nat.le_refl _
  | step _ ih => exact Nat.le_trans ih (Nat.le_mul_of_pos_left _ (Nat.succ_pos edges))

/-- A bound on the steps of a walk that still has to visit the nodes that `pending` leads to. Since
a child comes after its parent, the nodes from one on to the last are the levels below it. -/
def stepBound (trie : Trie α) : (pending : List (Nat × Bytes)) → Nat
  | [] => 0
  | (index, _) :: rest =>
    treeBound trie.edgeCount (trie.nodes.size - index) + trie.stepBound rest

theorem stepBound_append (trie : Trie α) (left right : List (Nat × Bytes)) :
    trie.stepBound (left ++ right) = trie.stepBound left + trie.stepBound right := by
  induction left with
  | nil => simp [stepBound]
  | cons way rest ih => rw [List.cons_append, stepBound, stepBound, ih, Nat.add_assoc]

theorem stepBound_le (trie : Trie α) (pending : List (Nat × Bytes)) (levels : Nat)
    (within : ∀ way ∈ pending, trie.nodes.size - way.1 ≤ levels) :
    trie.stepBound pending ≤ pending.length * treeBound trie.edgeCount levels := by
  induction pending with
  | nil => simp [stepBound]
  | cons way rest ih =>
    have first := treeBound_mono trie.edgeCount (within way List.mem_cons_self)
    have others := ih fun way member => within way (List.mem_cons_of_mem _ member)
    rw [stepBound, List.length_cons, Nat.succ_mul]
    omega

theorem length_children_le (trie : Trie α) {index : Nat} {node : TrieNode α}
    (found : trie.nodes[index]? = some node) : node.children.length ≤ trie.edgeCount := by
  have member : node ∈ trie.nodes.toList := by
    rw [Array.mem_toList_iff]
    exact Array.mem_of_getElem? found
  obtain ⟨before, after, split⟩ := List.append_of_mem member
  simp only [edgeCount, split, List.flatMap_append, List.flatMap_cons, List.length_append]
  omega

/-- Going on from a node to its children brings a walk closer to its end. -/
theorem stepBound_ways (trie : Trie α) {index : Nat} {node : TrieNode α} (path : Bytes)
    (found : trie.nodes[index]? = some node) :
    trie.stepBound (node.ways index path) <
      treeBound trie.edgeCount (trie.nodes.size - index) := by
  have inside : index < trie.nodes.size := by
    rw [Array.getElem?_eq_some_iff] at found
    exact found.1
  obtain ⟨levels, level⟩ : ∃ levels, trie.nodes.size - index = levels + 1 :=
    ⟨trie.nodes.size - index - 1, by omega⟩
  have below := trie.stepBound_le (node.ways index path) levels fun way member => by
    have after := TrieNode.lt_of_mem_ways member
    omega
  have few : (node.ways index path).length ≤ trie.edgeCount :=
    Nat.le_trans (node.length_ways_le index path) (trie.length_children_le found)
  have bound := Nat.mul_le_mul_right (treeBound trie.edgeCount levels) few
  have positive := treeBound_pos trie.edgeCount levels
  rw [level, treeBound, Nat.succ_mul]
  omega

/-- Visits the nodes that `pending` leads to and everything below them, each node before its
children. `found` holds the keys met before with their values, last first. -/
def walk (trie : Trie α) (found : List (Bytes × α)) (pending : List (Nat × Bytes)) :
    List (Bytes × α) :=
  match pending with
  | [] => found.reverse
  | (index, path) :: rest =>
    match _visited : trie.nodes[index]? with
    | none => trie.walk found rest
    | some node =>
      let here := (node.value.map fun value => (path.reverse, value)).toList
      trie.walk (here ++ found) (node.ways index path ++ rest)
termination_by trie.stepBound pending
decreasing_by
  · have positive := treeBound_pos trie.edgeCount (trie.nodes.size - index)
    rw [stepBound]
    omega
  · have closer := trie.stepBound_ways path (by assumption)
    rw [stepBound, stepBound_append]
    omega

/-- All keys with their values, in lexicographic order. -/
def entries (trie : Trie α) : List (Bytes × α) :=
  trie.walk [] [(root, [])]

/-- The keys that start with `start`, with their values, in lexicographic order. -/
def entriesFrom (trie : Trie α) (start : Bytes) : List (Bytes × α) :=
  match trie.descend? root start with
  | some index => trie.walk [] [(index, start.reverse)]
  | none => []

end Trie

end Concordance
