import Concordance.Proofs.Trie.Lookup

/-!
# Looking for an edge by halving

The edges of a node ascend by their bytes, so an edge need not be looked for one by one: of the
edges among which it can be, the half that it cannot be in is left aside until one edge remains. The
same search tells where an edge that is missing has to be put. In edges that ascend it finds what
reading all of them finds, and puts a new edge where reading all of them would put it. So a key that
is looked up by halving leads to the node that it leads to otherwise, and an update by halving makes
the same trie.
-/
namespace Concordance

namespace Halving

variable {α : Type}

/-- The place where a search among the `size` items from `first` on comes to rest. `judge` tells how
an item stands to what is looked for. -/
def settle (judge : α → Ordering) (items : List α) (first size : Nat) : Nat :=
  if size ≤ 1 then first
  else
    let middle := first + size / 2
    if items[middle]?.any (judge · == .gt) then settle judge items first (size - size / 2)
    else settle judge items middle (size - size / 2)
termination_by size

/-- Where the item that is looked for stands, or else where it would have to be put. -/
def search (judge : α → Ordering) (items : List α) : Except Nat Nat :=
  let place := settle judge items 0 items.length
  match items[place]? with
  | none => .error place
  | some item =>
    match judge item with
    | .eq => .ok place
    | .lt => .error (place + 1)
    | .gt => .error place

/-- How many items come first, when those that do stand before all others. -/
def partitionPoint (first : α → Bool) (items : List α) : Nat :=
  match search (fun item => if first item then .lt else .gt) items with
  | .ok place => place
  | .error place => place

/-- Nothing that is too small stands behind anything else, and nothing that is too large before. -/
def Graded (judge : α → Ordering) (items : List α) : Prop :=
  items.Pairwise fun left right =>
    (judge left = .gt → judge right = .gt) ∧ (judge right = .lt → judge left = .lt)

/-- What stands before `place` is too small, the rest too large. -/
structure Divides (judge : α → Ordering) (items : List α) (place : Nat) : Prop where
  within : place ≤ items.length
  before : ∀ index item, items[index]? = some item → index < place → judge item = .lt
  after : ∀ index item, items[index]? = some item → place ≤ index → judge item = .gt

variable {judge : α → Ordering} {items : List α}

theorem Graded.gt (graded : Graded judge items) {index later : Nat} {item other : α}
    (found : items[index]? = some item) (found' : items[later]? = some other)
    (order : index ≤ later) (large : judge item = .gt) : judge other = .gt := by
  rcases Nat.eq_or_lt_of_le order with rfl | less
  · rw [found, Option.some.injEq] at found'
    rwa [← found']
  · obtain ⟨inside, rfl⟩ := List.getElem?_eq_some_iff.mp found
    obtain ⟨inside', rfl⟩ := List.getElem?_eq_some_iff.mp found'
    exact (List.pairwise_iff_getElem.mp graded index later inside inside' less).1 large

theorem Graded.lt (graded : Graded judge items) {index later : Nat} {item other : α}
    (found : items[index]? = some item) (found' : items[later]? = some other)
    (order : index ≤ later) (small : judge other = .lt) : judge item = .lt := by
  rcases Nat.eq_or_lt_of_le order with rfl | less
  · rw [found, Option.some.injEq] at found'
    rwa [found']
  · obtain ⟨inside, rfl⟩ := List.getElem?_eq_some_iff.mp found
    obtain ⟨inside', rfl⟩ := List.getElem?_eq_some_iff.mp found'
    exact (List.pairwise_iff_getElem.mp graded index later inside inside' less).2 small

/-- What a search has found out when it goes on among the `size` items from `first` on: behind them
everything is too large, and the first of them is not, unless it is the very first item. -/
structure Narrowed (judge : α → Ordering) (items : List α) (first size : Nat) : Prop where
  within : first + size ≤ items.length
  behind : ∀ index item, items[index]? = some item → first + size ≤ index → judge item = .gt
  front : first = 0 ∨ ∀ item, items[first]? = some item → judge item ≠ .gt

/-- Halving goes on until one item remains. -/
theorem narrowed_settle (graded : Graded judge items) {first size : Nat} (some : 0 < size)
    (narrowed : Narrowed judge items first size) :
    Narrowed judge items (settle judge items first size) 1 := by
  fun_induction settle judge items first size with
  | case1 first size small =>
    obtain rfl : size = 1 := by omega
    exact narrowed
  | case2 first size large middle passed ih =>
    -- the item in the middle and all behind it are too large
    have within := narrowed.within
    have there := List.getElem?_eq_getElem (l := items) (i := middle) (by omega)
    rw [there, Option.any_some, beq_iff_eq] at passed
    refine ih (by omega) ⟨by omega, fun index item found order => ?_, narrowed.front⟩
    exact graded.gt there found (by omega) passed
  | case3 first size large middle kept ih =>
    have within := narrowed.within
    have there := List.getElem?_eq_getElem (l := items) (i := middle) (by omega)
    rw [there, Option.any_some, beq_iff_eq] at kept
    refine ih (by omega) ⟨by omega, fun index item found order => ?_, .inr fun item found => ?_⟩
    · exact narrowed.behind index item found (by omega)
    · rw [there, Option.some.injEq] at found
      rwa [← found]

/-- What is found is what is looked for. -/
theorem judge_of_search {place : Nat} (found : search judge items = .ok place) :
    ∃ item, items[place]? = some item ∧ judge item = .eq := by
  unfold search at found
  dsimp only at found
  split at found
  · cases found
  · next item there =>
    split at found
    · next same =>
      cases found
      exact ⟨item, there, same⟩
    · cases found
    · cases found

/-- If it is missing, it belongs between what is too small and what is too large. -/
theorem divides_of_search (graded : Graded judge items) {place : Nat}
    (missing : search judge items = .error place) : Divides judge items place := by
  unfold search at missing
  dsimp only at missing
  by_cases empty : items = []
  · subst empty
    rw [List.getElem?_nil] at missing
    cases missing
    have start : settle judge ([] : List α) 0 0 = 0 := by
      rw [settle, if_pos (Nat.zero_le 1)]
    exact ⟨Nat.le_of_eq start, by simp, by simp⟩
  · have narrowed : Narrowed judge items 0 items.length :=
      ⟨by omega, fun index item found order => by
        have := (List.getElem?_eq_some_iff.mp found).1
        omega, .inl rfl⟩
    obtain ⟨within, behind, front⟩ :=
      narrowed_settle graded (List.length_pos_iff.mpr empty) narrowed
    generalize settle judge items 0 items.length = last at missing within behind front
    have there : items[last]? = some items[last] := List.getElem?_eq_getElem (by omega)
    rw [there] at missing
    dsimp only at missing
    split at missing
    · cases missing
    · next small =>
      -- everything up to the item where the search ends is too small
      cases missing
      exact ⟨by omega, fun index item found order =>
        graded.lt found there (by omega) small, behind⟩
    · next large =>
      -- the search ends at an item that is too large only if this is the very first one
      cases missing
      obtain rfl : place = 0 := front.resolve_right fun other => other _ there large
      exact ⟨Nat.zero_le _, fun index item _ order => absurd order (Nat.not_lt_zero _),
        fun index item found _ => graded.gt there found (Nat.zero_le _) large⟩

end Halving

namespace TrieNode

variable {α : Type} {byte : UInt8} {child : Nat} {edges : List (UInt8 × Nat)}

/-- The child under a byte, looked for by halving. -/
def search? (node : TrieNode α) (byte : UInt8) : Option Nat :=
  match Halving.search (fun edge => compare edge.1 byte) node.children with
  | .ok place => node.children[place]?.map (·.2)
  | .error _ => none

/-- Puts an edge before the first one with a byte that is no smaller, which is found by halving. -/
def placeEdge (byte : UInt8) (child : Nat) (edges : List (UInt8 × Nat)) : List (UInt8 × Nat) :=
  edges.insertIdx (Halving.partitionPoint (·.1 < byte) edges) (byte, child)

theorem graded_compare (ascending : Ascending edges) (byte : UInt8) :
    Halving.Graded (fun edge : UInt8 × Nat => compare edge.1 byte) edges := by
  refine ascending.imp fun {left right} less => ⟨fun large => ?_, fun small => ?_⟩
  · exact Std.compare_eq_gt.mpr (UInt8.lt_trans (Std.compare_eq_gt.mp large) less)
  · exact Std.compare_eq_lt.mpr (UInt8.lt_trans less (Std.compare_eq_lt.mp small))

/-- In edges that ascend, halving finds a child exactly if there is one. -/
theorem search?_eq_some_iff {node : TrieNode α} (ascending : Ascending node.children) :
    node.search? byte = some child ↔ (byte, child) ∈ node.children := by
  unfold search?
  constructor
  · intro found
    split at found
    · next place searched =>
      obtain ⟨edge, there, same⟩ := Halving.judge_of_search searched
      rw [there, Option.map_some, Option.some.injEq] at found
      rw [← Std.compare_eq_iff_eq.mp same, ← found]
      exact List.mem_of_getElem? there
    · cases found
  · intro member
    obtain ⟨index, stands⟩ := List.getElem?_of_mem member
    cases searched : Halving.search (fun edge : UInt8 × Nat => compare edge.1 byte)
        node.children with
    | ok place =>
      -- no other edge has the byte
      obtain ⟨⟨other, target⟩, there, same⟩ := Halving.judge_of_search searched
      obtain rfl : other = byte := Std.compare_eq_iff_eq.mp same
      have found := (lookup_eq_some_iff ascending).mpr (List.mem_of_getElem? there)
      rw [(lookup_eq_some_iff ascending).mpr member, Option.some.injEq] at found
      simp [there, found]
    | error place =>
      -- an edge with the byte would be neither too small nor too large
      have divides := Halving.divides_of_search (graded_compare ascending byte) searched
      have same : compare byte byte = .eq := Std.compare_eq_iff_eq.mpr rfl
      rcases Nat.lt_or_ge index place with small | large
      · rw [divides.before index _ stands small] at same
        cases same
      · rw [divides.after index _ stands large] at same
        cases same

theorem search?_eq_lookup {node : TrieNode α} (ascending : Ascending node.children)
    (byte : UInt8) : node.search? byte = node.children.lookup byte := by
  ext child
  rw [search?_eq_some_iff ascending, lookup_eq_some_iff ascending]

theorem insertEdge_eq_insertIdx {place : Nat} (within : place ≤ edges.length)
    (before : ∀ index edge, edges[index]? = some edge → index < place → edge.1 < byte)
    (after : ∀ index edge, edges[index]? = some edge → place ≤ index → ¬edge.1 < byte) :
    insertEdge byte child edges = edges.insertIdx place (byte, child) := by
  induction edges generalizing place with
  | nil =>
    obtain rfl : place = 0 := Nat.le_zero.mp within
    rfl
  | cons first rest ih =>
    obtain ⟨other, target⟩ := first
    cases place with
    | zero =>
      have large := after 0 _ rfl (Nat.le_refl 0)
      rw [insertEdge, if_neg large, List.insertIdx_zero]
    | succ place =>
      have small := before 0 _ rfl (Nat.succ_pos place)
      rw [insertEdge, if_pos small, List.insertIdx_succ_cons]
      congr 1
      refine ih (Nat.le_of_succ_le_succ within) (fun index edge found order => ?_)
        fun index edge found order => ?_
      · exact before (index + 1) edge found (Nat.succ_lt_succ order)
      · exact after (index + 1) edge found (Nat.succ_le_succ order)

/-- In edges that ascend, halving puts a new edge where it keeps them ascending. -/
theorem placeEdge_eq (ascending : Ascending edges) (byte : UInt8) (child : Nat) :
    placeEdge byte child edges = insertEdge byte child edges := by
  let judge : UInt8 × Nat → Ordering := fun edge => if edge.1 < byte then .lt else .gt
  have graded : Halving.Graded judge edges := by
    refine ascending.imp fun {left right} less => ⟨fun large => ?_, fun small => ?_⟩
    · have large : ¬left.1 < byte := by simpa [judge] using large
      exact if_neg fun small => large (UInt8.lt_trans less small)
    · have small : right.1 < byte := by simpa [judge] using small
      exact if_pos (UInt8.lt_trans less small)
  rw [placeEdge, Halving.partitionPoint]
  simp only [decide_eq_true_eq]
  split
  · next place searched =>
    obtain ⟨edge, _, same⟩ := Halving.judge_of_search searched
    split at same <;> cases same
  · next place searched =>
    have divides : Halving.Divides judge edges place :=
      Halving.divides_of_search graded searched
    refine (insertEdge_eq_insertIdx divides.within (fun index edge found order => ?_)
      fun index edge found order => ?_).symm
    · simpa [judge] using divides.before index edge found order
    · simpa [judge] using divides.after index edge found order

end TrieNode

namespace Trie

variable {α : Type}

/-! ### Lookups and updates that look for edges by halving -/

/-- The node that `key` leads to from `index`, where edges are looked for by halving. -/
def descendByHalving? (trie : Trie α) (index : Nat) : (key : Bytes) → Option Nat
  | [] => some index
  | byte :: rest =>
    match trie.nodes[index]?.bind (·.search? byte) with
    | some next => trie.descendByHalving? next rest
    | none => none

/-- Makes the nodes on the way of `key` that are missing, where edges are looked for and put in by
halving. -/
def makePathByHalving (trie : Trie α) (index : Nat) : (key : Bytes) → Trie α × Nat
  | [] => (trie, index)
  | byte :: rest =>
    match trie.nodes[index]?.bind (·.search? byte) with
    | some next => trie.makePathByHalving next rest
    | none =>
      let next := trie.nodes.size
      let nodes := (trie.nodes.push TrieNode.empty).modify index fun node =>
        { node with children := TrieNode.placeEdge byte next node.children }
      makePathByHalving { trie with nodes } next rest

/-- Changes the value of `key` at the end of such a way. -/
def updateByHalving (trie : Trie α) (key : Bytes) (default : α) (change : α → α) : Trie α :=
  let (trie, index) := trie.makePathByHalving root key
  let size := if (trie.valueAt? index).isNone then trie.size + 1 else trie.size
  { nodes := trie.nodes.modify index fun node =>
      { node with value := some (change (node.value.getD default)) }
    size }

theorem Labelled.search?_eq_child? {trie : Trie α} {label : Nat → Bytes}
    (labelled : trie.Labelled label) (index : Nat) (byte : UInt8) :
    trie.nodes[index]?.bind (·.search? byte) = trie.child? index byte := by
  unfold child?
  cases visited : trie.nodes[index]? with
  | none => rfl
  | some node => exact TrieNode.search?_eq_lookup (labelled.ascending visited) byte

/-- In a tree, a key leads to one node, whichever way its edges are looked for. -/
theorem Labelled.descendByHalving?_eq {trie : Trie α} {label : Nat → Bytes}
    (labelled : trie.Labelled label) (index : Nat) (key : Bytes) :
    trie.descendByHalving? index key = trie.descend? index key := by
  induction key generalizing index with
  | nil => rfl
  | cons byte rest ih =>
    -- the edge of the first byte is the same one for both, or missing for both
    rw [descendByHalving?, descend?, labelled.search?_eq_child?]
    cases trie.child? index byte with
    | some next => exact ih next
    | none => rfl

/-- In a tree, the edges of every node ascend, and so do those of the node that gets another one. -/
theorem makePathByHalving_eq {trie : Trie α} {label : Nat → Bytes}
    (labelled : trie.Labelled label) {index : Nat} (inside : index < trie.nodes.size)
    (key : Bytes) : trie.makePathByHalving index key = trie.makePath index key := by
  induction key generalizing trie label index with
  | nil => rfl
  | cons byte rest ih =>
    rw [makePathByHalving, makePath, labelled.search?_eq_child?]
    cases step : trie.child? index byte with
    | some next => exact ih labelled (labelled.child step).2.1
    | none =>
      have known := Array.getElem?_eq_getElem inside
      have same : (trie.nodes.push TrieNode.empty).modify index (fun node =>
            { node with children := TrieNode.placeEdge byte trie.nodes.size node.children }) =
          (trie.sprout index byte).nodes := by
        apply Array.ext_getElem?
        intro other
        rw [getElem?_sprout, Array.getElem?_modify]
        split
        · next here =>
          subst here
          rw [Array.getElem?_push, if_neg (Nat.ne_of_lt inside), known, Option.map_some,
            Option.map_some, TrieNode.addChild, TrieNode.placeEdge_eq (labelled.ascending known)]
        · rfl
      have whole : { trie with nodes := (trie.sprout index byte).nodes } =
          trie.sprout index byte := rfl
      simp only [same, whole]
      exact ih (labelled_sprout labelled inside step) (by simp)

theorem updateByHalving_eq {trie : Trie α} (formed : trie.WellFormed) (key : Bytes) (default : α)
    (change : α → α) :
    trie.updateByHalving key default change = trie.update key default change := by
  obtain ⟨label, labelled⟩ := formed
  rw [updateByHalving, makePathByHalving_eq labelled labelled.rooted, update]

end Trie

end Concordance
