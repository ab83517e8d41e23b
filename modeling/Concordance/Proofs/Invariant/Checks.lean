import Concordance.Invariant
import Concordance.Proofs.LinkIndex
import Concordance.Proofs.Table

/-!
# What the checks mean

A check passes exactly if the invariant holds. This is so for every store, whatever its indexes and
its log hold.
-/
namespace Concordance.Invariant

theorem check_eq_ok_iff {invariant : Invariant} {store : Store} {disk : Disk} :
    invariant.check store disk = .ok () ↔ invariant.offenders store disk = none := by
  unfold check
  cases invariant.offenders store disk <;> simp

/-- Nothing is reported exactly if all checks pass. -/
theorem violations_eq_nil_iff {invariants : List Invariant} {store : Store} {disk : Disk} :
    violations invariants store disk = [] ↔
      ∀ invariant ∈ invariants, invariant.check store disk = .ok () := by
  rw [violations, List.filterMap_eq_nil_iff]
  refine forall₂_congr fun invariant _ => ?_
  cases invariant.check store disk <;> simp

/-! ### Owners and references -/

theorem owns_eq_true_iff {links : LinkIndex} {id : LinkId} {offset : Offset} :
    links.owns id offset = true ↔ id ∈ links.ownersOf offset := by
  rw [LinkIndex.mem_ownersOf, LinkIndex.owns]
  cases links.owners[offset]? with
  | none => simp
  | some set => simp

/-- An identifier is missing among the owners of the offset that it refers to. -/
def Unowned (store : Store) (id : UInt64) : Prop :=
  ∃ offset, store.links.referenceOf? id = some offset ∧ id ∉ store.links.ownersOf offset

/-- An offset is listed without an owner, or an identifier owns an offset that it does not refer
to. -/
def Stale (store : Store) (subject : UInt64) : Prop :=
  (∃ ids, store.links.owners[subject]? = some ids ∧ ids.isEmpty = true) ∨
    ∃ offset, subject ∈ store.links.ownersOf offset ∧ store.links.referenceOf? subject ≠ some offset

variable {store : Store}

theorem mem_unowned {id : UInt64} : id ∈ unowned store.links ↔ Unowned store id := by
  simp only [unowned, LinkIndex.pairs, List.mem_map, List.mem_filter, Prod.exists,
    Std.TreeMap.mem_toList_iff_getElem?_eq_some, Bool.not_eq_true', ← Bool.not_eq_true,
    owns_eq_true_iff, exists_and_right, exists_eq_right]
  rfl

theorem unowned_eq_nil_iff :
    unowned store.links = [] ↔
      ∀ id offset, store.links.referenceOf? id = some offset →
        id ∈ store.links.ownersOf offset := by
  rw [List.eq_nil_iff_forall_not_mem]
  simp only [mem_unowned, Unowned, not_exists, not_and, not_not]

theorem mem_stale {subject : UInt64} : subject ∈ stale store.links ↔ Stale store subject := by
  simp only [stale, List.mem_flatMap, Prod.exists, LinkIndex.mem_entries_iff, List.mem_append,
    List.mem_filter, bne_iff_ne]
  constructor
  · rintro ⟨offset, _, ⟨ids, found, rfl⟩, vacant | ⟨member, astray⟩⟩
    · rw [Std.TreeSet.isEmpty_toList] at vacant
      split at vacant
      · next empty =>
        obtain rfl := List.mem_singleton.mp vacant
        exact .inl ⟨ids, found, empty⟩
      · exact absurd vacant List.not_mem_nil
    · refine .inr ⟨offset, LinkIndex.mem_ownersOf.mpr ⟨ids, found, ?_⟩, astray⟩
      exact Std.TreeSet.mem_toList.mp member
  · rintro (⟨ids, found, empty⟩ | ⟨offset, owned, astray⟩)
    · refine ⟨subject, _, ⟨ids, found, rfl⟩, .inl ?_⟩
      rw [Std.TreeSet.isEmpty_toList, if_pos empty]
      exact List.mem_singleton_self subject
    · obtain ⟨ids, found, member⟩ := LinkIndex.mem_ownersOf.mp owned
      exact ⟨offset, _, ⟨ids, found, rfl⟩, .inr ⟨Std.TreeSet.mem_toList.mpr member, astray⟩⟩

theorem stale_eq_nil_iff :
    stale store.links = [] ↔
      store.links.Filled ∧
        ∀ id offset, id ∈ store.links.ownersOf offset →
          store.links.referenceOf? id = some offset := by
  rw [List.eq_nil_iff_forall_not_mem]
  simp only [mem_stale, Stale, not_or, not_exists, not_and, ne_eq, not_not, Bool.not_eq_true,
    forall_and]
  rfl

/-- The first check passes exactly if both directions of the link index say the same. -/
theorem check_ownersMatchReferences {disk : Disk} :
    ownersMatchReferences.check store disk = .ok () ↔ store.links.Sound := by
  have both : store.links.Sound ↔ unowned store.links = [] ∧ stale store.links = [] := by
    rw [unowned_eq_nil_iff, stale_eq_nil_iff]
    constructor
    · intro sound
      exact ⟨fun _ _ => sound.inverse.mpr, sound.filled, fun _ _ => sound.inverse.mp⟩
    · rintro ⟨owned, filled, referred⟩
      exact ⟨fun {id offset} => ⟨referred id offset, owned id offset⟩, filled⟩
  rw [check_eq_ok_iff, both]
  dsimp only [ownersMatchReferences]
  cases unowned store.links with
  | cons id rest => simp
  | nil => cases stale store.links <;> simp

/-! ### Offsets and the log -/

/-- An offset lies inside the log if there is room for the size of its record. -/
theorem isOutside_eq_false {logEnd offset : Offset}
    (inside : offset.toNat + Word.width ≤ logEnd.toNat) : isOutside logEnd offset = false := by
  rw [isOutside, decide_eq_false_iff_not, Nat.not_lt]
  exact Nat.le_trans (Nat.min_le_left ..) inside

/-- An offset that the link index lists, with or without an owner. -/
def Listed (store : Store) (offset : Offset) : Prop :=
  ∃ ids, store.links.owners[offset]? = some ids

/-- An offset that stands under a term or is listed in the link index. -/
def Mentioned (store : Store) (offset : Offset) : Prop :=
  (∃ entry ∈ store.terms.entries, offset ∈ entry.2) ∨ Listed store offset

theorem listed_iff {offset : Offset} :
    offset ∈ store.links.entries.map (·.1) ↔ Listed store offset := by
  simp only [List.mem_map, Prod.exists, LinkIndex.mem_entries_iff, exists_and_right,
    exists_eq_right]
  constructor
  · rintro ⟨_, ids, found, _⟩
    exact ⟨ids, found⟩
  · rintro ⟨ids, found⟩
    exact ⟨_, ids, found, rfl⟩

theorem mem_outside {offset : Offset} :
    offset ∈ outside store ↔
      Mentioned store offset ∧ isOutside store.log.nextOffset offset = true := by
  simp only [outside, Std.TreeSet.mem_toList, Std.TreeSet.mem_ofList, List.contains_iff_mem,
    List.mem_filter, List.mem_append, listed_iff, List.mem_flatMap]
  rfl

theorem outside_eq_nil_iff :
    outside store = [] ↔
      (∀ offset ∈ store.terms.entries.flatMap (·.2),
        isOutside store.log.nextOffset offset = false) ∧
      ∀ entry ∈ store.links.entries, isOutside store.log.nextOffset entry.1 = false := by
  have owned : (∀ entry ∈ store.links.entries, isOutside store.log.nextOffset entry.1 = false) ↔
      ∀ offset, Listed store offset → isOutside store.log.nextOffset offset = false := by
    simp only [← listed_iff, List.forall_mem_map]
  rw [owned, List.eq_nil_iff_forall_not_mem]
  simp only [mem_outside, Mentioned, ← List.mem_flatMap, not_and, Bool.not_eq_true, or_imp,
    forall_and]

theorem check_offsetsWithinLog {disk : Disk} :
    offsetsWithinLog.check store disk = .ok () ↔
      (∀ offset ∈ store.terms.entries.flatMap (·.2),
        isOutside store.log.nextOffset offset = false) ∧
      ∀ entry ∈ store.links.entries, isOutside store.log.nextOffset entry.1 = false := by
  rw [check_eq_ok_iff, ← outside_eq_nil_iff]
  dsimp only [offsetsWithinLog]
  cases outside store <;> simp

/-! ### Content and terms -/

theorem unreadable_eq_nil_iff {reader : LogReader} :
    unreadable store reader = [] ↔
      ∀ entry ∈ store.links.entries, ∃ content, reader.readString entry.1 = .ok content := by
  rw [unreadable, List.filter_eq_nil_iff, List.forall_mem_map]
  refine forall₂_congr fun entry _ => ?_
  cases reader.readString entry.1 <;> simp

theorem unindexed_eq_nil_iff {reader : LogReader} :
    unindexed store reader = [] ↔
      ∀ entry ∈ store.links.entries, ∀ content, reader.readString entry.1 = .ok content →
        ∀ term ∈ store.termsOf content, entry.1 ∈ store.terms.posting term := by
  rw [unindexed, List.filter_eq_nil_iff, List.forall_mem_map]
  refine forall₂_congr fun entry _ => ?_
  cases reader.readString entry.1 <;> simp

/-- The last check passes exactly if the log can be opened and the string of every owned offset can
be read and is indexed under each of its terms. -/
theorem check_linkedContentIndexed {disk : Disk} :
    linkedContentIndexed.check store disk = .ok () ↔
      ∃ reader, store.log.reader disk = .ok reader ∧
        ∀ entry ∈ store.links.entries, ∃ content, reader.readString entry.1 = .ok content ∧
          ∀ term ∈ store.termsOf content, entry.1 ∈ store.terms.posting term := by
  rw [check_eq_ok_iff]
  dsimp only [linkedContentIndexed]
  cases store.log.reader disk with
  | error error => simp
  | ok reader =>
    have both : (unreadable store reader = [] ∧ unindexed store reader = []) ↔
        ∀ entry ∈ store.links.entries, ∃ content, reader.readString entry.1 = .ok content ∧
          ∀ term ∈ store.termsOf content, entry.1 ∈ store.terms.posting term := by
      rw [unreadable_eq_nil_iff, unindexed_eq_nil_iff]
      constructor
      · rintro ⟨reads, finds⟩ entry member
        obtain ⟨content, read⟩ := reads entry member
        exact ⟨content, read, finds entry member content read⟩
      · intro all
        refine ⟨fun entry member => ?_, fun entry member content read => ?_⟩
        · obtain ⟨content, read, _⟩ := all entry member
          exact ⟨content, read⟩
        · obtain ⟨other, same, finds⟩ := all entry member
          obtain rfl : content = other := by rw [read] at same; exact Except.ok.inj same
          exact finds
    simp only [Except.ok.injEq, exists_eq_left']
    -- the check looks for strings that cannot be read before it looks for their terms
    rw [← both]
    cases unreadable store reader with
    | cons offset rest => simp
    | nil => cases unindexed store reader <;> simp

end Concordance.Invariant
