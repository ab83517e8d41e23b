import Concordance.Proofs.LinkIndex

/-!
# A link index after any settings

However often identifiers have been moved from one offset to another and back, the index says what
the last setting of each identifier says, from both sides and also in its numbers. A setting changes
the reference of its own identifier or nothing at all, and tells which of both.
-/
namespace Concordance

namespace LinkIndex

/-- What an index says after references have been set one after the other. -/
structure Reflects (index : LinkIndex) (settings : List (LinkId × Offset)) : Prop where
  /-- An identifier refers to what it was last set to. -/
  referenceOf? : ∀ id, index.referenceOf? id = last? settings id
  /-- The owners of an offset are in order, so none is listed twice. -/
  ascending : ∀ offset, (index.ownersOf offset).Pairwise (· < ·)
  /-- They are the identifiers that refer to it. -/
  mem_ownersOf : ∀ offset id, id ∈ index.ownersOf offset ↔ index.referenceOf? id = some offset
  /-- The offsets that are listed are in order, so none is listed twice. -/
  listed : (index.entries.map (·.1)).Pairwise (· < ·)
  /-- They are the offsets with an owner, and stand beside all their owners. -/
  mem_entries : ∀ offset ids, (offset, ids) ∈ index.entries ↔ ids = index.ownersOf offset ∧ ids ≠ []
  /-- As many identifiers are linked as have ever been set. -/
  linkedCount : index.linkedCount = {id | ∃ offset, (id, offset) ∈ settings}.ncard
  /-- There are as many offsets as are referred to. -/
  offsetCount : index.offsetCount = {offset | ∃ id, last? settings id = some offset}.ncard

/-- What setting a reference changes, and what it tells about that. -/
structure Moves (index : LinkIndex) (id : LinkId) (offset : Offset) : Prop where
  reference : (index.setReference id offset).1.referenceOf? id = some offset
  /-- The others refer to what they referred to. -/
  others : ∀ other, other ≠ id →
    (index.setReference id offset).1.referenceOf? other = index.referenceOf? other
  /-- They own what they owned. -/
  owners : ∀ other, other ≠ id → ∀ place,
    other ∈ (index.setReference id offset).1.ownersOf place ↔ other ∈ index.ownersOf place
  told : (index.setReference id offset).2 = true ↔
    (index.setReference id offset).1.referenceOf? id ≠ index.referenceOf? id
  unchanged : (index.setReference id offset).2 = false → (index.setReference id offset).1 = index

variable {index : LinkIndex} {settings : List (LinkId × Offset)}

/-! ### One setting -/

theorem snd_setReference (index : LinkIndex) (id : LinkId) (offset : Offset) :
    (index.setReference id offset).2 = true ↔ index.referenceOf? id ≠ some offset := by
  unfold setReference
  split
  · next old found =>
    rw [found]
    split
    · next same => simp [same]
    · next differs => simp [differs]
  · next missing => simp [missing]

theorem setReference_of_same {id : LinkId} {offset : Offset}
    (same : index.referenceOf? id = some offset) :
    index.setReference id offset = (index, false) := by
  simp [setReference, same]

theorem Sound.moves (sound : index.Sound) (id : LinkId) (offset : Offset) :
    index.Moves id offset where
  reference := by rw [referenceOf?_setReference, if_pos rfl]
  others other differs := by rw [referenceOf?_setReference, if_neg differs]
  owners other differs place := by
    rw [(sound_setReference sound id offset).inverse, sound.inverse, referenceOf?_setReference,
      if_neg differs]
  told := by
    rw [snd_setReference, referenceOf?_setReference, if_pos rfl, ne_comm]
  unchanged silent := by
    have same : index.referenceOf? id = some offset := by
      by_contra differs
      rw [(snd_setReference index id offset).mpr differs] at silent
      cases silent
    rw [setReference_of_same same]

/-! ### Any settings -/

/-- An offset is listed exactly if somebody refers to it. -/
theorem Sound.exists_owners_iff (sound : index.Sound) {offset : Offset} :
    (∃ ids, index.owners[offset]? = some ids) ↔ ∃ id, index.referenceOf? id = some offset := by
  constructor
  · rintro ⟨ids, found⟩
    obtain ⟨id, member⟩ :=
      Std.TreeSet.isEmpty_eq_false_iff_exists_mem.mp (sound.filled offset ids found)
    exact ⟨id, sound.inverse.mp (LinkIndex.mem_ownersOf.mpr ⟨ids, found, member⟩)⟩
  · rintro ⟨id, refers⟩
    obtain ⟨ids, found, _⟩ := LinkIndex.mem_ownersOf.mp (sound.inverse.mpr refers)
    exact ⟨ids, found⟩

/-- An identifier has a last offset exactly if it has been set. -/
theorem exists_last?_iff {id : LinkId} :
    (∃ offset, last? settings id = some offset) ↔ ∃ offset, (id, offset) ∈ settings := by
  rw [← Option.ne_none_iff_exists', Ne, last?_eq_none_iff]
  simp

theorem reflects_setAll_empty (settings : List (LinkId × Offset)) :
    (empty.setAll settings).Reflects settings := by
  have sound := sound_setAll sound_empty settings
  have refers (id : LinkId) : (empty.setAll settings).referenceOf? id = last? settings id := by
    rw [referenceOf?_setAll]
    simp [empty, LinkIndex.referenceOf?]
  refine {
    referenceOf? := refers
    ascending := fun offset => ?_
    mem_ownersOf := fun offset id => sound.inverse
    listed := ?_
    mem_entries := fun offset ids => LinkIndex.mem_entries sound.filled
    linkedCount := ?_
    offsetCount := ?_ }
  · exact (ownersOf_ascending _ offset).imp Std.compare_eq_lt.mp
  · rw [List.pairwise_map]
    exact (entries_ascending _).imp Std.compare_eq_lt.mp
  · rw [LinkIndex.linkedCount, Table.size_eq_ncard]
    congr 1
    ext id
    exact (exists_congr fun offset => by rw [← refers]; rfl).trans exists_last?_iff
  · rw [LinkIndex.offsetCount, Table.size_eq_ncard]
    congr 1
    ext offset
    exact sound.exists_owners_iff.trans (exists_congr fun id => by rw [refers])

/-- Whatever references have been set, the index says what the last setting of each identifier says,
and one more setting changes the reference of its identifier and nothing else. -/
theorem lastSet_of_setAll (settings : List (LinkId × Offset)) :
    (empty.setAll settings).Reflects settings ∧
      ∀ id offset, (empty.setAll settings).Moves id offset := by
  refine ⟨reflects_setAll_empty settings, fun id offset => ?_⟩
  exact (sound_setAll sound_empty settings).moves id offset

/-- Both identifiers leave the first offset, and one of them comes back. -/
def sampleSettings : List (LinkId × Offset) := [(1, 0), (2, 0), (1, 30), (2, 30), (1, 0)]

theorem lastSet_of_sample :
    1 ∈ (empty.setAll sampleSettings).ownersOf 0 ∧ 2 ∉ (empty.setAll sampleSettings).ownersOf 0 ∧
      ((empty.setAll sampleSettings).setReference 2 30).2 = false ∧
      1 ∈ ((empty.setAll sampleSettings).setReference 2 0).1.ownersOf 0 := by
  obtain ⟨reflects, moves⟩ := lastSet_of_setAll sampleSettings
  have first : 1 ∈ (empty.setAll sampleSettings).ownersOf 0 := by
    rw [reflects.mem_ownersOf, reflects.referenceOf?]
    decide
  have second : (empty.setAll sampleSettings).referenceOf? 2 = some 30 := by
    rw [reflects.referenceOf?]
    decide
  refine ⟨first, ?_, ?_, ?_⟩
  · rw [reflects.mem_ownersOf, second]
    decide
  · rw [← Bool.not_eq_true, (moves 2 30).told, (moves 2 30).reference, second]
    simp
  · exact ((moves 2 0).owners 1 (by decide) 0).mpr first

end LinkIndex

end Concordance
