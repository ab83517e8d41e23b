import Concordance.LinkIndex
import Concordance.Proofs.Table

/-!
# Owners and references

The two directions of a link index say the same: an identifier owns an offset exactly if it refers
to it. Setting a reference keeps this up, since the old offset forgets the identifier that the new
one takes. So an index is determined by its references, also in the order of what it lists.
-/
namespace Concordance.LinkIndex

/-! ### One direction at a time -/

theorem mem_ownersOf {index : LinkIndex} {id : LinkId} {offset : Offset} :
    id ∈ index.ownersOf offset ↔ ∃ ids, index.owners[offset]? = some ids ∧ id ∈ ids := by
  unfold ownersOf
  cases index.owners[offset]? with
  | none => simp
  | some ids => simp

/-- No offset is listed without an owner. -/
def Filled (index : LinkIndex) : Prop :=
  ∀ (offset : Offset) (ids : Std.TreeSet LinkId),
    index.owners[offset]? = some ids → ids.isEmpty = false

@[simp]
theorem referenceOf?_release (index : LinkIndex) (id : LinkId) (offset : Offset) (other : LinkId) :
    (index.release id offset).referenceOf? other = index.referenceOf? other := by
  simp only [referenceOf?, release]
  split
  · rfl
  · split <;> rfl

theorem getElem?_release (index : LinkIndex) (id : LinkId) (offset other : Offset) :
    (index.release id offset).owners[other]? =
      if other = offset then
        (index.owners[offset]?.map (·.erase id)).filter fun ids => !ids.isEmpty
      else index.owners[other]? := by
  simp only [release]
  split
  · next missing =>
    split
    · next same => rw [same, missing]; rfl
    · rfl
  · next ids found =>
    split
    · next emptied =>
      rw [Table.getElem?_erase, found, Option.map_some,
        Option.filter_some_neg (by rw [emptied]; rfl)]
    · next left =>
      rw [Table.getElem?_insert, found, Option.map_some,
        Option.filter_some_pos (by rw [Bool.eq_false_iff.mpr left]; rfl)]

theorem mem_ownersOf_release {index : LinkIndex} {id other : LinkId} {offset place : Offset} :
    other ∈ (index.release id offset).ownersOf place ↔
      other ∈ index.ownersOf place ∧ ¬(other = id ∧ place = offset) := by
  -- at the offset itself the set has lost one owner, and at the others nothing has changed
  simp only [mem_ownersOf, getElem?_release]
  by_cases same : place = offset
  · subst same
    simp only [if_true, Option.filter_eq_some_iff, Option.map_eq_some_iff, and_true]
    constructor
    · rintro ⟨_, ⟨⟨ids, found, rfl⟩, _⟩, member⟩
      obtain ⟨differs, old⟩ := Table.mem_erase.mp member
      exact ⟨⟨ids, found, old⟩, differs⟩
    · rintro ⟨⟨ids, found, old⟩, differs⟩
      -- an owner is left, so the offset is still listed
      have kept : other ∈ ids.erase id := Table.mem_erase.mpr ⟨differs, old⟩
      refine ⟨_, ⟨⟨ids, found, rfl⟩, ?_⟩, kept⟩
      rw [Std.TreeSet.isEmpty_eq_false_iff_exists_mem.mpr ⟨other, kept⟩]
      rfl
  · simp [same]

theorem filled_release {index : LinkIndex} (filled : index.Filled) (id : LinkId)
    (offset : Offset) : (index.release id offset).Filled := by
  intro place ids found
  rw [getElem?_release] at found
  split at found
  · simpa using (Option.filter_eq_some_iff.mp found).2
  · exact filled place ids found

theorem mem_ownersOf_own {index : LinkIndex} {id other : LinkId} {offset place : Offset} :
    other ∈ (index.own id offset).ownersOf place ↔
      other = id ∧ place = offset ∨ other ∈ index.ownersOf place := by
  simp only [mem_ownersOf, own, Table.getElem?_insert]
  by_cases same : place = offset
  · subst same
    rw [if_pos rfl]
    simp only [Option.some.injEq, exists_eq_left', Table.mem_insert, and_true]
    cases found : index.owners[place]? with
    | none => simp
    | some ids => simp
  · simp [same]

theorem filled_own {index : LinkIndex} (filled : index.Filled) (id : LinkId) (offset : Offset) :
    (index.own id offset).Filled := by
  intro place ids found
  rw [own, Table.getElem?_insert] at found
  split at found
  · rw [← Option.some.inj found]
    exact Std.TreeSet.isEmpty_insert
  · exact filled place ids found

/-! ### Both directions -/

/-- An identifier owns an offset exactly if it refers to it. -/
structure Sound (index : LinkIndex) : Prop where
  inverse {id : LinkId} {offset : Offset} :
    id ∈ index.ownersOf offset ↔ index.referenceOf? id = some offset
  filled : index.Filled

theorem sound_empty : empty.Sound where
  inverse {id offset} := by simp [empty, mem_ownersOf, referenceOf?]
  filled offset ids found := by simp [empty] at found

theorem referenceOf?_own (index : LinkIndex) (id : LinkId) (offset : Offset) (other : LinkId) :
    (LinkIndex.own { index with references := index.references.insert id offset } id
        offset).referenceOf? other =
      if other = id then some offset else index.referenceOf? other :=
  Table.getElem?_insert index.references id offset other

/-- After a reference has been set it is there, and the other identifiers refer to what they
referred to. -/
theorem referenceOf?_setReference (index : LinkIndex) (id : LinkId) (offset : Offset)
    (other : LinkId) :
    (index.setReference id offset).1.referenceOf? other =
      if other = id then some offset else index.referenceOf? other := by
  unfold setReference
  split
  · next old found =>
    split
    · next same =>
      by_cases here : other = id
      · rw [if_pos here, here, found, same]
      · rw [if_neg here]
    · rw [referenceOf?_own, referenceOf?_release]
  · rw [referenceOf?_own]

/-- An identifier that owns nothing may take any offset. -/
theorem sound_own {index : LinkIndex} (filled : index.Filled) {id : LinkId}
    (free : ∀ {other place}, other ∈ index.ownersOf place ↔
      other ≠ id ∧ index.referenceOf? other = some place) (offset : Offset) :
    (LinkIndex.own { index with references := index.references.insert id offset } id
      offset).Sound := by
  refine ⟨fun {other place} => ?_, filled_own filled id offset⟩
  rw [referenceOf?_own]
  -- the identifier owns the new offset, and the others own what they refer to
  refine mem_ownersOf_own.trans ((or_congr_right free).trans ?_)
  by_cases here : other = id
  · simp [here, eq_comm]
  · simp [here]

theorem sound_setReference {index : LinkIndex} (sound : index.Sound) (id : LinkId)
    (offset : Offset) : (index.setReference id offset).1.Sound := by
  unfold setReference
  split
  · next old found =>
    split
    · exact sound
    · -- the old offset was the only one that the identifier owned
      refine sound_own (filled_release sound.filled id old) (fun {other place} => ?_) offset
      rw [mem_ownersOf_release, referenceOf?_release, sound.inverse]
      by_cases here : other = id
      · subst here
        simp [found, eq_comm]
      · simp [here]
  · next missing =>
    refine sound_own sound.filled (fun {other place} => ?_) offset
    rw [sound.inverse]
    by_cases here : other = id
    · simp [here, missing]
    · simp [here]

theorem referenceOf?_setReferences (index : LinkIndex) (ids : List LinkId) (offset : Offset)
    (other : LinkId) :
    (index.setReferences ids offset).referenceOf? other =
      if other ∈ ids then some offset else index.referenceOf? other := by
  induction ids generalizing index with
  | nil => simp [setReferences]
  | cons id rest ih =>
    rw [setReferences, List.foldl_cons, ← setReferences, ih, referenceOf?_setReference]
    by_cases later : other ∈ rest
    · simp [later]
    · by_cases here : other = id <;> simp [later, here]

/-! ### Setting references one after the other -/

/-- Sets references one after the other. -/
def setAll (index : LinkIndex) (settings : List (LinkId × Offset)) : LinkIndex :=
  settings.foldl (fun index setting => (index.setReference setting.1 setting.2).1) index

/-- What an identifier was last set to. -/
def last? (settings : List (LinkId × Offset)) (id : LinkId) : Option Offset :=
  settings.reverse.lookup id

/-- An identifier that was never set has no last offset. -/
theorem last?_eq_none_iff {settings : List (LinkId × Offset)} {id : LinkId} :
    last? settings id = none ↔ ∀ setting ∈ settings, setting.1 ≠ id := by
  simp only [last?, List.lookup_eq_none_iff, List.mem_reverse, bne_iff_ne, ne_comm]

theorem sound_setAll {index : LinkIndex} (sound : index.Sound)
    (settings : List (LinkId × Offset)) : (index.setAll settings).Sound := by
  induction settings generalizing index with
  | nil => exact sound
  | cons setting rest ih => exact ih (sound_setReference sound ..)

/-- An identifier refers to what it was last set to, or still to what it referred to before. -/
theorem referenceOf?_setAll (index : LinkIndex) (settings : List (LinkId × Offset))
    (id : LinkId) :
    (index.setAll settings).referenceOf? id = (last? settings id).or (index.referenceOf? id) := by
  induction settings generalizing index with
  | nil => rfl
  | cons setting rest ih =>
    rw [setAll, List.foldl_cons, ← setAll, ih, referenceOf?_setReference, last?, last?,
      List.reverse_cons, List.lookup_append, Option.or_assoc, List.lookup_cons, List.lookup_nil]
    -- the first setting counts only where no later one does
    congr 1
    by_cases here : id = setting.1
    · rw [if_pos here, beq_iff_eq.mpr here, Option.some_or]
    · rw [if_neg here, beq_eq_false_iff_ne.mpr here, Option.none_or]

/-! ### What an index lists -/

theorem ownersOf_ascending (index : LinkIndex) (offset : Offset) :
    (index.ownersOf offset).Pairwise fun left right => compare left right = .lt := by
  unfold ownersOf
  split
  · exact Std.TreeSet.ordered_toList
  · exact List.Pairwise.nil

theorem entries_ascending (index : LinkIndex) :
    index.entries.Pairwise fun left right => compare left.1 right.1 = .lt := by
  rw [entries, List.pairwise_map]
  exact Std.TreeMap.ordered_keys_toList

theorem mem_entries_iff {index : LinkIndex} {offset : Offset} {ids : List LinkId} :
    (offset, ids) ∈ index.entries ↔
      ∃ set, index.owners[offset]? = some set ∧ ids = set.toList := by
  simp only [entries, List.mem_map, Prod.exists, Prod.mk.injEq,
    Std.TreeMap.mem_toList_iff_getElem?_eq_some]
  constructor
  · rintro ⟨_, set, found, rfl, rfl⟩
    exact ⟨set, found, rfl⟩
  · rintro ⟨set, found, rfl⟩
    exact ⟨offset, set, found, rfl, rfl⟩

/-- If every listed offset has an owner, the offsets with an owner are those that are listed. -/
theorem mem_entries {index : LinkIndex} (filled : index.Filled) {offset : Offset}
    {ids : List LinkId} :
    (offset, ids) ∈ index.entries ↔ ids = index.ownersOf offset ∧ ids ≠ [] := by
  rw [mem_entries_iff, ownersOf]
  constructor
  · rintro ⟨set, found, rfl⟩
    refine ⟨by rw [found], fun none => ?_⟩
    have some := filled _ set found
    rw [← Std.TreeSet.isEmpty_toList, none] at some
    simp at some
  · rintro ⟨same, owned⟩
    cases found : index.owners[offset]? with
    | none =>
      rw [found] at same
      exact absurd same owned
    | some set =>
      rw [found] at same
      exact ⟨set, rfl, same⟩

/-- Indexes with the same references list the same owners. -/
theorem ownersOf_eq {left right : LinkIndex} (left_sound : left.Sound) (right_sound : right.Sound)
    (same : ∀ id, left.referenceOf? id = right.referenceOf? id) (offset : Offset) :
    left.ownersOf offset = right.ownersOf offset := by
  -- both lists are in order, so it is enough that they have the same members
  refine Table.eq_of_ascending id (ownersOf_ascending left offset)
    (ownersOf_ascending right offset) fun id => ?_
  rw [left_sound.inverse, right_sound.inverse, same]

theorem entries_eq {left right : LinkIndex} (left_sound : left.Sound) (right_sound : right.Sound)
    (same : ∀ id, left.referenceOf? id = right.referenceOf? id) :
    left.entries = right.entries := by
  refine Table.eq_of_ascending (·.1) (entries_ascending left) (entries_ascending right) ?_
  rintro ⟨offset, ids⟩
  rw [mem_entries left_sound.filled, mem_entries right_sound.filled,
    ownersOf_eq left_sound right_sound same]

end Concordance.LinkIndex
