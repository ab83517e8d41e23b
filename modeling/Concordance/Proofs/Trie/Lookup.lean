import Concordance.Trie

/-!
# Looking up keys

Every node of a trie that has grown by updates lies at the end of exactly one way from the root.
`Labelled` names it after that way, so two keys that lead to the same node are the same key. An
update makes the nodes that are missing, and these hold nothing; what the other keys lead to
stays. Hence a trie behaves like a table from keys to values.
-/
namespace Concordance

namespace TrieNode

variable {α : Type}

/-- The edges of a node ascend by their bytes, so no byte labels two of them. -/
def Ascending (edges : List (UInt8 × Nat)) : Prop :=
  edges.Pairwise fun left right => left.1 < right.1

@[simp]
theorem mem_insertEdge {byte : UInt8} {child : Nat} {edges : List (UInt8 × Nat)}
    {edge : UInt8 × Nat} :
    edge ∈ insertEdge byte child edges ↔ edge = (byte, child) ∨ edge ∈ edges := by
  induction edges with
  | nil => simp [insertEdge]
  | cons first rest ih =>
    simp only [insertEdge]
    split
    · rw [List.mem_cons, ih, List.mem_cons]
      exact or_left_comm
    · rw [List.mem_cons]

theorem ascending_insertEdge {byte : UInt8} {child : Nat} {edges : List (UInt8 × Nat)}
    (ascending : Ascending edges) (fresh : ∀ edge ∈ edges, edge.1 ≠ byte) :
    Ascending (insertEdge byte child edges) := by
  induction edges with
  | nil => exact List.pairwise_singleton ..
  | cons first rest ih =>
    -- the new edge goes before the first one with a greater byte
    obtain ⟨before, ascends⟩ := List.pairwise_cons.mp ascending
    simp only [insertEdge]
    split
    · next smaller =>
      refine List.pairwise_cons.mpr ⟨fun edge member => ?_, ih ascends fun edge member =>
        fresh edge (List.mem_cons_of_mem _ member)⟩
      rcases mem_insertEdge.mp member with rfl | old
      · exact smaller
      · exact before edge old
    · next larger =>
      have after : byte < first.1 := by
        have differs := fresh first List.mem_cons_self
        exact UInt8.lt_of_le_of_ne (UInt8.not_lt.mp larger) (Ne.symm differs)
      refine List.pairwise_cons.mpr ⟨fun edge member => ?_, ascending⟩
      rcases List.mem_cons.mp member with rfl | later
      · exact after
      · exact UInt8.lt_trans after (before edge later)

/-- An edge is found by its byte exactly if it is there. -/
theorem lookup_eq_some_iff {edges : List (UInt8 × Nat)} (ascending : Ascending edges)
    {byte : UInt8} {child : Nat} :
    edges.lookup byte = some child ↔ (byte, child) ∈ edges := by
  induction edges with
  | nil => simp
  | cons first rest ih =>
    obtain ⟨before, ascends⟩ := List.pairwise_cons.mp ascending
    obtain ⟨other, target⟩ := first
    rw [List.lookup_cons, List.mem_cons]
    by_cases same : byte = other
    · subst same
      simp only [beq_self_eq_true, Option.some.injEq, Prod.mk.injEq, true_and]
      constructor
      · intro equal
        exact .inl equal.symm
      · rintro (equal | member)
        · exact equal.symm
        · -- the byte would come after itself
          exact absurd (before _ member) (UInt8.lt_irrefl _)
    · simp only [beq_eq_false_iff_ne.mpr same, Prod.mk.injEq, same, false_and, false_or]
      exact ih ascends

theorem lookup_insertEdge (byte : UInt8) (child : Nat) (edges : List (UInt8 × Nat))
    (other : UInt8) :
    (insertEdge byte child edges).lookup other =
      if other = byte then some child else edges.lookup other := by
  induction edges with
  | nil =>
    by_cases same : other = byte
    · simp [insertEdge, same]
    · simp [insertEdge, List.lookup_cons, same, beq_eq_false_iff_ne.mpr same]
  | cons first rest ih =>
    obtain ⟨here, target⟩ := first
    simp only [insertEdge]
    split
    · next smaller =>
      rw [List.lookup_cons, List.lookup_cons, ih]
      by_cases same : other = byte
      · subst same
        simp [beq_eq_false_iff_ne.mpr (UInt8.ne_of_lt smaller).symm]
      · simp only [if_neg same]
    · by_cases same : other = byte
      · simp [same]
      · simp [List.lookup_cons, same, beq_eq_false_iff_ne.mpr same]

end TrieNode

namespace Trie

variable {α : Type}

/-! ### Ways and labels -/

/-- `label` names every node after the key that leads to it. -/
structure Labelled (trie : Trie α) (label : Nat → Bytes) : Prop where
  rooted : root < trie.nodes.size
  label_root : label root = []
  child {index : Nat} {byte : UInt8} {child : Nat} :
    trie.child? index byte = some child →
      index < child ∧ child < trie.nodes.size ∧ label child = label index ++ [byte]
  ascending {index : Nat} {node : TrieNode α} :
    trie.nodes[index]? = some node → TrieNode.Ascending node.children
  reached {index : Nat} : index < trie.nodes.size → trie.descend? root (label index) = some index

/-- The nodes of a trie form a tree. -/
def WellFormed (trie : Trie α) : Prop := ∃ label, trie.Labelled label

theorem Labelled.mem_children {trie : Trie α} {label : Nat → Bytes}
    (labelled : trie.Labelled label) {index child : Nat} {node : TrieNode α} {byte : UInt8}
    (visited : trie.nodes[index]? = some node) :
    (byte, child) ∈ node.children ↔ trie.child? index byte = some child := by
  simp only [child?, visited]
  exact (TrieNode.lookup_eq_some_iff (labelled.ascending visited)).symm

theorem Labelled.descend {trie : Trie α} {label : Nat → Bytes} (labelled : trie.Labelled label)
    {index last : Nat} {key : Bytes} (inside : index < trie.nodes.size)
    (found : trie.descend? index key = some last) :
    last < trie.nodes.size ∧ label last = label index ++ key := by
  induction key generalizing index with
  | nil =>
    obtain rfl : index = last := Option.some.inj found
    exact ⟨inside, (List.append_nil _).symm⟩
  | cons byte rest ih =>
    simp only [descend?] at found
    split at found
    · next next step =>
      obtain ⟨_, below, named⟩ := labelled.child step
      obtain ⟨last_lt, last_label⟩ := ih below found
      exact ⟨last_lt, by rw [last_label, named, List.append_assoc, List.singleton_append]⟩
    · simp at found

/-- No way leads back: children come after their parents. -/
theorem Labelled.le_of_descend {trie : Trie α} {label : Nat → Bytes}
    (labelled : trie.Labelled label) {index last : Nat} {key : Bytes}
    (found : trie.descend? index key = some last) : index ≤ last := by
  induction key generalizing index with
  | nil => exact Nat.le_of_eq (Option.some.inj found)
  | cons byte rest ih =>
    simp only [descend?] at found
    split at found
    · next next step => exact Nat.le_trans (Nat.le_of_lt (labelled.child step).1) (ih found)
    · simp at found

/-- A key leads to a node exactly if the node is named after it. -/
theorem Labelled.descend_iff {trie : Trie α} {label : Nat → Bytes} (labelled : trie.Labelled label)
    {key : Bytes} {index : Nat} :
    trie.descend? root key = some index ↔ index < trie.nodes.size ∧ label index = key := by
  constructor
  · intro found
    obtain ⟨inside, named⟩ := labelled.descend labelled.rooted found
    exact ⟨inside, by rw [named, labelled.label_root, List.nil_append]⟩
  · rintro ⟨inside, rfl⟩
    exact labelled.reached inside

theorem descend?_append (trie : Trie α) (index : Nat) (left right : Bytes) :
    trie.descend? index (left ++ right) =
      (trie.descend? index left).bind (trie.descend? · right) := by
  induction left generalizing index with
  | nil => rfl
  | cons byte rest ih =>
    simp only [List.cons_append, descend?]
    split
    · exact ih _
    · rfl

theorem labelled_empty : (empty : Trie α).Labelled fun _ => [] where
  rooted := Nat.one_pos
  label_root := rfl
  child {index byte child} found := by
    cases index <;> simp [child?, empty, TrieNode.empty] at found
  ascending {index node} visited := by
    cases index with
    | zero =>
      obtain rfl : TrieNode.empty = node := by simpa [empty] using visited
      exact List.Pairwise.nil
    | succ index => simp [empty] at visited
  reached inside := by
    obtain rfl : _ = 0 := Nat.lt_one_iff.mp inside
    rfl

theorem wellFormed_empty : (empty : Trie α).WellFormed := ⟨_, labelled_empty⟩

/-! ### Growing -/

/-- `new` has the nodes of `old` with their edges and values, and further nodes without values. -/
structure Extends (old new : Trie α) : Prop where
  size : new.size = old.size
  nodes_le : old.nodes.size ≤ new.nodes.size
  child {index child : Nat} {byte : UInt8} :
    old.child? index byte = some child → new.child? index byte = some child
  child_new {index child : Nat} {byte : UInt8} :
    new.child? index byte = some child →
      old.child? index byte = some child ∨ old.nodes.size ≤ child
  value {index : Nat} : index < old.nodes.size → new.valueAt? index = old.valueAt? index
  value_new {index : Nat} : old.nodes.size ≤ index → new.valueAt? index = none

namespace Extends

theorem refl (trie : Trie α) : trie.Extends trie where
  size := rfl
  nodes_le := Nat.le_refl _
  child := id
  child_new := .inl
  value _ := rfl
  value_new beyond := by simp [valueAt?, beyond]

theorem trans {first second third : Trie α} (left : first.Extends second)
    (right : second.Extends third) : first.Extends third where
  size := right.size.trans left.size
  nodes_le := Nat.le_trans left.nodes_le right.nodes_le
  child found := right.child (left.child found)
  child_new found := by
    rcases right.child_new found with old | new
    · exact left.child_new old
    · exact .inr (Nat.le_trans left.nodes_le new)
  value inside := (right.value (Nat.lt_of_lt_of_le inside left.nodes_le)).trans (left.value inside)
  value_new {index} beyond := by
    by_cases inside : index < second.nodes.size
    · rw [right.value inside, left.value_new beyond]
    · exact right.value_new (Nat.not_lt.mp inside)

theorem descend {old new : Trie α} (grown : old.Extends new) {index last : Nat} {key : Bytes}
    (found : old.descend? index key = some last) : new.descend? index key = some last := by
  induction key generalizing index with
  | nil => exact found
  | cons byte rest ih =>
    simp only [descend?] at found ⊢
    split at found
    · next next step =>
      rw [grown.child step]
      exact ih found
    · simp at found

/-- What a key leads to in the larger trie is an old node that it led to before, or a new one. -/
theorem descend_new {old new : Trie α} (grown : old.Extends new) {label : Nat → Bytes}
    (labelled : new.Labelled label) {index last : Nat} {key : Bytes}
    (inside : index < new.nodes.size) (found : new.descend? index key = some last) :
    old.descend? index key = some last ∨ old.nodes.size ≤ last := by
  induction key generalizing index with
  | nil => exact .inl found
  | cons byte rest ih =>
    simp only [descend?] at found ⊢
    split at found
    · next next step =>
      obtain ⟨_, below, _⟩ := labelled.child step
      -- a way that has come to a new node never leads back to an old one
      rcases grown.child_new step with old_step | new_step
      · rw [old_step]
        exact ih below found
      · exact .inr (Nat.le_trans new_step (labelled.le_of_descend found))
    · simp at found

theorem get? {old new : Trie α} (grown : old.Extends new) {before after : Nat → Bytes}
    (old_labelled : old.Labelled before) (new_labelled : new.Labelled after) (key : Bytes) :
    new.get? key = old.get? key := by
  unfold Trie.get?
  -- the larger trie may have more ways, but what they lead to has no value
  cases found : new.descend? root key with
  | none =>
    cases earlier : old.descend? root key with
    | none => rfl
    | some index => simp [grown.descend earlier] at found
  | some index =>
    rcases grown.descend_new new_labelled new_labelled.rooted found with earlier | fresh
    · have inside := (old_labelled.descend old_labelled.rooted earlier).1
      rw [earlier]
      exact grown.value inside
    · cases earlier : old.descend? root key with
      | none => exact grown.value_new fresh
      | some other =>
        -- an old way still ends at the same node, which is not new
        obtain rfl : index = other := by
          simpa [found] using grown.descend earlier
        exact absurd (old_labelled.descend old_labelled.rooted earlier).1 (Nat.not_lt.mpr fresh)

end Extends

theorem getElem?_sprout (trie : Trie α) (index : Nat) (byte : UInt8) (other : Nat) :
    (trie.sprout index byte).nodes[other]? =
      if index = other then
        ((trie.nodes.push TrieNode.empty)[other]?).map (·.addChild byte trie.nodes.size)
      else (trie.nodes.push TrieNode.empty)[other]? := by
  simp only [sprout, Array.getElem?_modify]

@[simp]
theorem size_nodes_sprout (trie : Trie α) (index : Nat) (byte : UInt8) :
    (trie.sprout index byte).nodes.size = trie.nodes.size + 1 := by
  simp [sprout]

theorem child?_sprout (trie : Trie α) {index : Nat} (inside : index < trie.nodes.size)
    (byte : UInt8) (other : Nat) (label : UInt8) :
    (trie.sprout index byte).child? other label =
      if other = index ∧ label = byte then some trie.nodes.size else trie.child? other label := by
  -- the parent has one more edge, and the new node has none
  simp only [child?, getElem?_sprout, Array.getElem?_push]
  by_cases here : other = index
  · subst here
    rw [if_pos rfl, if_neg (Nat.ne_of_lt inside), Array.getElem?_eq_getElem inside]
    simp only [Option.map_some, TrieNode.addChild, TrieNode.lookup_insertEdge, true_and]
  · simp only [if_neg (Ne.symm here), here, false_and, if_false]
    by_cases last : other = trie.nodes.size
    · subst last
      simp [TrieNode.empty]
    · rw [if_neg last]

theorem valueAt?_sprout (trie : Trie α) (index : Nat) (byte : UInt8) (other : Nat) :
    (trie.sprout index byte).valueAt? other =
      if other = trie.nodes.size then none else trie.valueAt? other := by
  simp only [valueAt?, getElem?_sprout, Array.getElem?_push]
  by_cases last : other = trie.nodes.size
  · subst last
    by_cases here : index = trie.nodes.size <;> simp [here, TrieNode.empty, TrieNode.addChild]
  · rw [if_neg last, if_neg last]
    by_cases here : index = other
    · rw [if_pos here]
      cases trie.nodes[other]? <;> rfl
    · rw [if_neg here]

theorem extends_sprout (trie : Trie α) {index : Nat} (inside : index < trie.nodes.size)
    {byte : UInt8} (missing : trie.child? index byte = none) :
    trie.Extends (trie.sprout index byte) where
  size := rfl
  nodes_le := by simp
  child {other child label} found := by
    rw [child?_sprout trie inside, if_neg, found]
    rintro ⟨rfl, rfl⟩
    simp [missing] at found
  child_new {other child label} found := by
    rw [child?_sprout trie inside] at found
    split at found
    · exact .inr (Nat.le_of_eq (Option.some.inj found))
    · exact .inl found
  value below := by rw [valueAt?_sprout, if_neg (Nat.ne_of_lt below)]
  value_new {other} beyond := by
    rw [valueAt?_sprout]
    split
    · rfl
    · simp [valueAt?, beyond]

/-- The label of the new node is that of its parent and the byte of the new edge. -/
theorem labelled_sprout {trie : Trie α} {label : Nat → Bytes} (labelled : trie.Labelled label)
    {index : Nat} (inside : index < trie.nodes.size) {byte : UInt8}
    (missing : trie.child? index byte = none) :
    (trie.sprout index byte).Labelled fun other =>
      if other = trie.nodes.size then label index ++ [byte] else label other := by
  have grown := extends_sprout trie inside missing
  have old {other : Nat} (below : other < trie.nodes.size) : other ≠ trie.nodes.size :=
    Nat.ne_of_lt below
  refine ⟨?_, ?_, ?_, ?_, ?_⟩
  · exact Nat.lt_of_lt_of_le labelled.rooted grown.nodes_le
  · rw [if_neg (old labelled.rooted), labelled.label_root]
  · -- an edge is the new one or leads where it led before
    intro parent bit child found
    rw [child?_sprout trie inside] at found
    rw [size_nodes_sprout]
    split at found
    · next fresh =>
      obtain ⟨rfl, rfl⟩ := fresh
      obtain rfl := Option.some.inj found
      exact ⟨inside, Nat.lt_succ_self _, by rw [if_pos rfl, if_neg (old inside)]⟩
    · obtain ⟨later, below, named⟩ := labelled.child found
      exact ⟨later, Nat.lt_succ_of_lt below,
        by rw [if_neg (old below), if_neg (old (Nat.lt_trans later below)), named]⟩
  · -- only the parent has another edge than before, and the new node has none
    intro other node visited
    rw [getElem?_sprout, Array.getElem?_push] at visited
    split at visited
    · next here =>
      subst here
      rw [if_neg (old inside), Array.getElem?_eq_getElem inside, Option.map_some,
        Option.some.injEq] at visited
      have known := Array.getElem?_eq_getElem inside
      rw [← visited]
      refine TrieNode.ascending_insertEdge (labelled.ascending known) fun edge member same => ?_
      have found := (labelled.mem_children known).mp member
      rw [same, missing] at found
      simp at found
    · split at visited
      · rw [← Option.some.inj visited]
        exact List.Pairwise.nil
      · exact labelled.ascending visited
  · -- the new node is reached through its parent
    intro other below
    rw [size_nodes_sprout] at below
    split
    · next last =>
      subst last
      rw [descend?_append, grown.descend (labelled.reached inside), Option.bind_some]
      simp [descend?, child?_sprout trie inside]
    · next earlier =>
      exact grown.descend (labelled.reached (Nat.lt_of_le_of_ne (Nat.le_of_lt_succ below) earlier))

/-- Making a way leaves the old nodes alone and leads to the node where the way ends. -/
theorem makePath_spec {trie : Trie α} {label : Nat → Bytes} (labelled : trie.Labelled label)
    {index : Nat} (inside : index < trie.nodes.size) (key : Bytes) :
    trie.Extends (trie.makePath index key).1 ∧ (trie.makePath index key).1.WellFormed ∧
      (trie.makePath index key).1.descend? index key = some (trie.makePath index key).2 := by
  induction key generalizing trie label index with
  | nil => exact ⟨.refl trie, ⟨label, labelled⟩, rfl⟩
  | cons byte rest ih =>
    simp only [makePath]
    split
    · next next step =>
      -- the way goes on along an edge that is there
      obtain ⟨grown, formed, found⟩ := ih labelled (labelled.child step).2.1
      refine ⟨grown, formed, ?_⟩
      simpa only [descend?, grown.child step] using found
    · next missing =>
      -- from here on every node is a new one
      have sprouted := extends_sprout trie inside missing
      have fresh : trie.nodes.size < (trie.sprout index byte).nodes.size := by simp
      obtain ⟨grown, formed, found⟩ := ih (labelled_sprout labelled inside missing) fresh
      refine ⟨sprouted.trans grown, formed, ?_⟩
      have step : (trie.sprout index byte).child? index byte = some trie.nodes.size := by
        simp [child?_sprout trie inside]
      simpa only [descend?, grown.child step] using found

/-! ### Updating -/

section Update

variable (trie : Trie α) (key : Bytes) (default : α) (change : α → α)

theorem nodes_update :
    (trie.update key default change).nodes =
      (trie.makePath root key).1.nodes.modify (trie.makePath root key).2 fun node =>
        { node with value := some (change (node.value.getD default)) } := rfl

theorem child?_update (index : Nat) (byte : UInt8) :
    (trie.update key default change).child? index byte =
      (trie.makePath root key).1.child? index byte := by
  simp only [child?, nodes_update, Array.getElem?_modify]
  by_cases here : (trie.makePath root key).2 = index
  · rw [if_pos here]
    cases (trie.makePath root key).1.nodes[index]? <;> rfl
  · rw [if_neg here]

theorem descend?_update (index : Nat) (other : Bytes) :
    (trie.update key default change).descend? index other =
      (trie.makePath root key).1.descend? index other := by
  induction other generalizing index with
  | nil => rfl
  | cons byte rest ih => simp only [descend?, child?_update, ih]

theorem valueAt?_update {index : Nat} (inside : index < (trie.makePath root key).1.nodes.size) :
    (trie.update key default change).valueAt? index =
      if index = (trie.makePath root key).2 then
        some (change (((trie.makePath root key).1.valueAt? index).getD default))
      else (trie.makePath root key).1.valueAt? index := by
  simp only [valueAt?, nodes_update, Array.getElem?_modify, Array.getElem?_eq_getElem inside]
  by_cases here : index = (trie.makePath root key).2
  · simp [here]
  · simp [here, Ne.symm here]

end Update

theorem wellFormed_update {trie : Trie α} (formed : trie.WellFormed) (key : Bytes) (default : α)
    (change : α → α) : (trie.update key default change).WellFormed := by
  obtain ⟨label, labelled⟩ := formed
  obtain ⟨_, ⟨after, grown⟩, _⟩ := makePath_spec labelled labelled.rooted key
  -- an update changes no edge, so the labels are those after the way has been made
  refine ⟨after, ?_, grown.label_root, ?_, ?_, ?_⟩
  · simpa only [nodes_update, Array.size_modify] using grown.rooted
  · intro index byte child found
    rw [child?_update] at found
    simpa only [nodes_update, Array.size_modify] using grown.child found
  · -- the value of a node has nothing to do with its edges
    intro index node visited
    rw [nodes_update, Array.getElem?_modify] at visited
    split at visited
    · obtain ⟨before, known, rfl⟩ := Option.map_eq_some_iff.mp visited
      have ascends := grown.ascending known
      exact ascends
    · exact grown.ascending visited
  · intro index inside
    rw [nodes_update, Array.size_modify] at inside
    rw [descend?_update]
    exact grown.reached inside

/-- After an update the key has the changed value, and the other keys have what they had. -/
theorem get?_update {trie : Trie α} (formed : trie.WellFormed) (key : Bytes) (default : α)
    (change : α → α) (other : Bytes) :
    (trie.update key default change).get? other =
      if other = key then some (change ((trie.get? key).getD default)) else trie.get? other := by
  obtain ⟨label, labelled⟩ := formed
  obtain ⟨extended, ⟨after, grown⟩, found⟩ := makePath_spec labelled labelled.rooted key
  -- making the way changes no value, so only the last node has to be looked at
  have kept (key : Bytes) := extended.get? labelled grown key
  rw [← kept key, ← kept other]
  have last := (grown.descend_iff.mp found).2
  simp only [get?, descend?_update, found]
  cases step : (trie.makePath root key).1.descend? root other with
  | none =>
    rw [if_neg]
    rintro rfl
    simp [found] at step
  | some index =>
    obtain ⟨inside, named⟩ := grown.descend_iff.mp step
    simp only [valueAt?_update trie key default change inside]
    by_cases same : other = key
    · subst same
      obtain rfl : index = (trie.makePath root other).2 := by simpa [found] using step.symm
      simp
    · -- two keys that lead to one node are the same
      rw [if_neg same, if_neg]
      rintro rfl
      exact same (named.symm.trans last)

@[simp]
theorem get?_empty (key : Bytes) : (empty : Trie α).get? key = none := by
  cases key <;> rfl

end Trie

end Concordance
