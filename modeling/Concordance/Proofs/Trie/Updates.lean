import Concordance.Proofs.Table
import Concordance.Proofs.Trie.Size

/-!
# A trie as a table

Keys share nodes, and a node on the way of a long key may itself be the end of a shorter one. None
of this can be seen from outside: after any updates a trie answers like a table that has gone
through the same updates key by key. An update asks for the default of a key only if the key has no
value yet.
-/
namespace Concordance.Trie

variable {α : Type}

/-- A change of the value of a key, which gets a default first if it has none. -/
structure Update (α : Type) where
  key : Bytes
  default : α
  change : α → α

/-- Makes updates one after the other. -/
def updateAll (trie : Trie α) (updates : List (Update α)) : Trie α :=
  updates.foldl (fun trie update => trie.update update.key update.default update.change) trie

/-- The same update of a table, which keeps each key apart from the others. -/
def Update.tabulate (table : Std.TreeMap Bytes α) (update : Update α) : Std.TreeMap Bytes α :=
  table.insert update.key (update.change (table[update.key]?.getD update.default))

/-- What a table holds after updates. -/
def tabulate (updates : List (Update α)) : Std.TreeMap Bytes α :=
  updates.foldl Update.tabulate ∅

/-- A trie holds what a table holds, and keeps the same number. -/
structure Tabulates (trie : Trie α) (table : Std.TreeMap Bytes α) : Prop where
  tree : trie.WellFormed
  counted : trie.Counted
  held : ∀ key, trie.get? key = table[key]?
  size : trie.size = table.size

theorem tabulates_empty : (empty : Trie α).Tabulates ∅ where
  tree := wellFormed_empty
  counted := counted_empty
  held key := by simp
  size := by simp [empty]

/-- An update keeps a trie and a table together. -/
theorem Tabulates.update {trie : Trie α} {table : Std.TreeMap Bytes α}
    (tabulates : trie.Tabulates table) (update : Update α) :
    (trie.update update.key update.default update.change).Tabulates (update.tabulate table) where
  tree := wellFormed_update tabulates.tree ..
  counted := counted_update tabulates.tree _ _ _ tabulates.counted
  held key := by
    rw [get?_update tabulates.tree, Update.tabulate, Table.getElem?_insert, tabulates.held,
      tabulates.held]
  size := by
    rw [size_update tabulates.tree, Update.tabulate, Std.TreeMap.size_insert, tabulates.held,
      tabulates.size]
    -- the number grows for a key that leads to nothing, which is one that the table does not have
    cases held : table[update.key]? with
    | none => simp [Std.TreeMap.contains_eq_isSome_getElem?, held]
    | some value => simp [Std.TreeMap.contains_eq_isSome_getElem?, held]

/-- So do any updates. -/
theorem Tabulates.updateAll {trie : Trie α} {table : Std.TreeMap Bytes α}
    (tabulates : trie.Tabulates table) (updates : List (Update α)) :
    (trie.updateAll updates).Tabulates (updates.foldl Update.tabulate table) := by
  induction updates generalizing trie table with
  | nil => exact tabulates
  | cons update rest ih => exact ih (tabulates.update update)

theorem tabulates_updateAll (updates : List (Update α)) :
    (empty.updateAll updates).Tabulates (tabulate updates) :=
  tabulates_empty.updateAll updates

/-! ### The keys of a table -/

/-- A table has a value for the keys of its updates and for no other key. -/
theorem getElem?_tabulate_ne_none {updates : List (Update α)} {key : Bytes} :
    (tabulate updates)[key]? ≠ none ↔ ∃ update ∈ updates, update.key = key := by
  -- along the updates, a key has a value if it had one before or is one of those updated
  have from_table (table : Std.TreeMap Bytes α) :
      (updates.foldl Update.tabulate table)[key]? ≠ none ↔
        table[key]? ≠ none ∨ ∃ update ∈ updates, update.key = key := by
    induction updates generalizing table with
    | nil => simp
    | cons update rest ih =>
      rw [List.foldl_cons, ih, Update.tabulate, Table.getElem?_insert, List.exists_mem_cons_iff]
      by_cases here : key = update.key
      · simp [here]
      · simp [here, Ne.symm here]
  rw [tabulate, from_table]
  simp

/-! ### Defaults that have to be computed -/

/-- Changes the value of a key whose default is computed on request. The value is looked up when the
way of the key has been made. -/
def updateM {m : Type → Type} [Monad m] (trie : Trie α) (key : Bytes) (default : m α)
    (change : α → α) : m (Trie α) := do
  let (trie, index) := trie.makePath root key
  let size := if (trie.valueAt? index).isNone then trie.size + 1 else trie.size
  let value ←
    match trie.valueAt? index with
    | some value => pure value
    | none => default
  return {
    nodes := trie.nodes.modify index fun node => { node with value := some (change value) }
    size }

/-- An update writes the changed value where the way of the key ends. -/
theorem update_eq (trie : Trie α) (key : Bytes) {default value : α} (change : α → α)
    (looked :
      ((trie.makePath root key).1.valueAt? (trie.makePath root key).2).getD default = value) :
    trie.update key default change =
      { nodes := (trie.makePath root key).1.nodes.modify (trie.makePath root key).2 fun node =>
          { node with value := some (change value) }
        size :=
          if ((trie.makePath root key).1.valueAt? (trie.makePath root key).2).isNone then
            (trie.makePath root key).1.size + 1
          else (trie.makePath root key).1.size } := by
  have written : (trie.update key default change).nodes =
      (trie.makePath root key).1.nodes.modify (trie.makePath root key).2 fun node =>
        { node with value := some (change value) } := by
    rw [nodes_update]
    apply Array.ext_getElem?
    intro other
    rw [Array.getElem?_modify, Array.getElem?_modify]
    by_cases here : (trie.makePath root key).2 = other
    · -- the value in the node is the one that has been looked up
      rw [if_pos here, if_pos here, ← looked, valueAt?, here]
      cases (trie.makePath root key).1.nodes[other]? <;> rfl
    · rw [if_neg here, if_neg here]
  rw [← written]
  rfl

section Request

variable {m : Type → Type} [Monad m] {trie : Trie α} (formed : trie.WellFormed)
  {key : Bytes}

include formed

/-- A default that is not needed is not asked for, so it does not matter which one it is. -/
theorem updateM_of_held [LawfulMonad m] (held : trie.get? key ≠ none) (ask : m α) (default : α)
    (change : α → α) :
    trie.updateM key ask change = pure (trie.update key default change) := by
  obtain ⟨value, found⟩ := Option.ne_none_iff_exists'.mp held
  have there := (valueAt?_makePath formed key).trans found
  have looked :
      ((trie.makePath root key).1.valueAt? (trie.makePath root key).2).getD default = value := by
    rw [there, Option.getD_some]
  rw [update_eq trie key change looked]
  simp only [updateM, there, pure_bind]

/-- A default that is needed is asked for once. -/
theorem updateM_of_free (free : trie.get? key = none) (ask : m α) (change : α → α) :
    trie.updateM key ask change = ask >>= fun default => pure (trie.update key default change) := by
  have missing := (valueAt?_makePath formed key).trans free
  simp only [updateM, missing]
  apply bind_congr
  intro default
  have looked :
      ((trie.makePath root key).1.valueAt? (trie.makePath root key).2).getD default = default := by
    rw [missing, Option.getD_none]
  rw [update_eq trie key change looked, missing]

end Request

/-- With a default that needs no computation this is the update itself. -/
theorem updateM_pure {trie : Trie α} (formed : trie.WellFormed) (key : Bytes) (default : α)
    (change : α → α) :
    (trie.updateM key (pure default) change : Id (Trie α)) = trie.update key default change := by
  by_cases free : trie.get? key = none
  · rw [updateM_of_free formed free]
    rfl
  · rw [updateM_of_held formed free _ default]
    rfl

/-! ### A trie after any updates -/

/-- What a trie answers that has gone through updates. -/
structure Mirrors (trie : Trie α) (updates : List (Update α)) : Prop where
  /-- Every key leads to what a table holds after the same updates. -/
  get? : ∀ key, trie.get? key = (tabulate updates)[key]?
  /-- A key without an update has no value, even where the way of another key passes. -/
  absent : ∀ key, trie.get? key = none ↔ ∀ update ∈ updates, update.key ≠ key
  /-- The keys are counted once, however often they are updated. -/
  size : trie.size = {key | ∃ update ∈ updates, update.key = key}.ncard
  isEmpty : trie.isEmpty = true ↔ updates = []

/-- What one more update does to a trie, and what it needs for that. -/
structure Changes (trie : Trie α) (key : Bytes) (change : α → α) : Prop where
  here : ∀ default,
    (trie.update key default change).get? key = some (change ((trie.get? key).getD default))
  others : ∀ default other, other ≠ key →
    (trie.update key default change).get? other = trie.get? other
  /-- A key without a value takes the default, which is computed once. -/
  asks : trie.get? key = none → ∀ {m : Type → Type} [Monad m] [LawfulMonad m] (ask : m α),
    trie.updateM key ask change = ask >>= fun default => pure (trie.update key default change)
  /-- For a key with a value no default is computed. -/
  spares : trie.get? key ≠ none → ∀ {m : Type → Type} [Monad m] [LawfulMonad m] (ask : m α)
    (default : α), trie.updateM key ask change = pure (trie.update key default change)

theorem changes_of_formed {trie : Trie α} (formed : trie.WellFormed) (key : Bytes)
    (change : α → α) : trie.Changes key change where
  here default := by rw [get?_update formed, if_pos rfl]
  others default other differs := by rw [get?_update formed, if_neg differs]
  asks free _ _ _ ask := updateM_of_free formed free ask change
  spares held _ _ _ ask default := updateM_of_held formed held ask default change

theorem mirrors_of_tabulates {trie : Trie α} {updates : List (Update α)}
    (tabulates : trie.Tabulates (tabulate updates)) : trie.Mirrors updates := by
  have keys (key : Bytes) : (∃ value, (tabulate updates)[key]? = some value) ↔
      ∃ update ∈ updates, update.key = key := by
    rw [← getElem?_tabulate_ne_none, Option.ne_none_iff_exists']
  refine { get? := tabulates.held, absent := fun key => ?_, size := ?_, isEmpty := ?_ }
  · rw [tabulates.held, ← not_iff_not, ← ne_eq, getElem?_tabulate_ne_none]
    simp
  · rw [tabulates.size, Table.size_eq_ncard]
    simp only [keys]
  · rw [Trie.isEmpty, tabulates.size, ← Std.TreeMap.isEmpty_eq_size_eq_zero]
    constructor
    · intro none
      -- a key that has been updated would be counted
      apply List.eq_nil_iff_forall_not_mem.mpr
      intro update member
      obtain ⟨value, held⟩ := (keys update.key).mpr ⟨update, member, rfl⟩
      rw [Std.TreeMap.getElem?_of_isEmpty none] at held
      cases held
    · rintro rfl
      rfl

/-- Whatever updates a trie has gone through, it answers like a table after the same updates, and
one more update changes its own key and nothing else. -/
theorem mirrors_updateAll (updates : List (Update α)) :
    (empty.updateAll updates).Mirrors updates ∧
      ∀ key change, (empty.updateAll updates).Changes key change := by
  have tabulates := tabulates_updateAll updates
  refine ⟨mirrors_of_tabulates tabulates, ?_⟩
  intro key change
  exact changes_of_formed tabulates.tree key change

/-- Two words of which one goes on from the other, and the second update of the shorter one. -/
def sampleUpdates : List (Update Nat) :=
  [⟨[97, 98], 1, id⟩, ⟨[97, 98, 99], 2, (· + 10)⟩, ⟨[97, 98], 7, (· * 3)⟩]

/-- A default that leaves a trace of being computed. -/
def countedDefault : StateM Nat Nat := do
  modify (· + 1)
  return 0

/-- The way of both words passes a node that is no word, so only there a default is computed. -/
theorem mirrors_of_sample :
    (empty.updateAll sampleUpdates).descend? root [97] = some 1 ∧
      (empty.updateAll sampleUpdates).get? [97] = none ∧
      (((empty.updateAll sampleUpdates).updateM [97] countedDefault id).run 0).2 = 1 ∧
      (((empty.updateAll sampleUpdates).updateM [97, 98] countedDefault id).run 0).2 = 0 := by
  obtain ⟨mirrors, changes⟩ := mirrors_updateAll sampleUpdates
  have free : (empty.updateAll sampleUpdates).get? [97] = none := by
    rw [mirrors.absent]
    decide
  have held : (empty.updateAll sampleUpdates).get? [97, 98] ≠ none := by
    rw [Ne, mirrors.absent]
    decide
  refine ⟨by decide, free, ?_, ?_⟩
  · rw [(changes [97] id).asks free countedDefault]
    rfl
  · rw [(changes [97, 98] id).spares held countedDefault 0]
    rfl

end Concordance.Trie
