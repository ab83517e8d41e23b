import Concordance.Proofs.Invariant.Checks
import Concordance.Proofs.TermIndex

/-!
# What the checks report

The checks are made for stores in which something is wrong, so nothing is taken for granted about
the store here: the owners may contradict the references, offsets may lie anywhere, and the log may
hold anything. An invariant can be broken in several ways, which a check looks for one after the
other. The first one that it finds is reported, together with all that it concerns.
-/
namespace Concordance.Invariant

/-! ### Breaches -/

/-- A way in which an invariant can be broken. -/
structure Breach where
  description : String
  /-- Whether the store has the breach. -/
  present : Prop
  /-- Which offsets and identifiers the breach concerns. -/
  concerns : UInt64 → Prop
  /-- What else is said about it. -/
  context : List (String × String)

/-- A breach that is there if it concerns anything. -/
def Breach.among (description : String) (concerns : UInt64 → Prop)
    (context : List (String × String)) : Breach :=
  ⟨description, ∃ subject, concerns subject, concerns, context⟩

/-- A check passes if there is no breach. Otherwise it reports the first one, with exactly those
subjects that are concerned. -/
inductive Reports (name : String) : List Breach → Except Violation Unit → Prop
  | passed : Reports name [] (.ok ())
  | reported {breach : Breach} {rest : List Breach} {subjects : List UInt64}
      (present : breach.present)
      (exact : ∀ subject, subject ∈ subjects ↔ breach.concerns subject) :
      Reports name (breach :: rest) (.error ⟨name, breach.description, subjects, breach.context⟩)
  | absent {breach : Breach} {rest : List Breach} {outcome : Except Violation Unit}
      (absent : ¬breach.present) (later : Reports name rest outcome) :
      Reports name (breach :: rest) outcome

variable {name : String} {breaches : List Breach} {outcome : Except Violation Unit}

/-- A check that reports the first breach passes exactly if there is none. -/
theorem Reports.ok_iff (reports : Reports name breaches outcome) :
    outcome = .ok () ↔ ∀ breach ∈ breaches, ¬breach.present := by
  induction reports with
  | passed => simp
  | reported present _ =>
    constructor
    · intro passes
      cases passes
    · intro none
      exact absurd present (none _ List.mem_cons_self)
  | absent absent _ ih => rw [ih, List.forall_mem_cons, and_iff_right absent]

/-- To look for a breach is to list what it concerns and to see whether the list is empty. -/
theorem Reports.look {description : String} {concerns : UInt64 → Prop}
    {context : List (String × String)} {subjects : List UInt64}
    (exact : ∀ subject, subject ∈ subjects ↔ concerns subject)
    (later : Reports name breaches outcome) :
    Reports name (.among description concerns context :: breaches)
      (if subjects.isEmpty then outcome
      else .error ⟨name, description, subjects, context⟩) := by
  cases subjects with
  | nil =>
    refine .absent ?_ later
    rintro ⟨subject, concerned⟩
    exact absurd ((exact subject).mpr concerned) List.not_mem_nil
  | cons first rest => exact .reported ⟨first, (exact first).mp List.mem_cons_self⟩ exact

/-! ### What each invariant asks for -/

/-- The record at an offset is the text `content`. -/
def Reads (store : Store) (disk : Disk) (offset : Offset) (content : String) : Prop :=
  store.log.read disk offset = .ok (Text.encode content)

def ownerBreaches (store : Store) : List Breach :=
  [.among "Identifiers reference offsets that do not list them as owners" (Unowned store) [],
    .among "Owner sets hold identifiers referencing other offsets" (Stale store) []]

/-- The only way for an offset to break the invariant is to leave no room for a size before the end
of the log. -/
def offsetBreaches (store : Store) : List Breach :=
  [.among "Offsets past the end of the content log"
    (fun offset => Mentioned store offset ∧
      store.log.nextOffset.toNat < offset.toNat + Word.width)
    [("next_offset", toString store.log.nextOffset)]]

def contentBreaches (store : Store) (disk : Disk) : List Breach :=
  [⟨"Content log cannot be opened", ∃ error, store.log.reader disk = .error error,
      fun _ => False, []⟩,
    .among "Linked offsets cannot be read"
      (fun offset => Listed store offset ∧ ∀ content, ¬Reads store disk offset content) [],
    .among "Searchable strings missing from their terms\x27 offsets"
      (fun offset => Listed store offset ∧ ∃ content, Reads store disk offset content ∧
        ∃ term ∈ store.termsOf content, offset ∉ store.terms.offsetsFor term) []]

/-! ### What the checks list -/

variable {store : Store} {disk : Disk}

/-- Where no offset reaches the greatest word, the room for a size is measured exactly. -/
theorem isOutside_iff {logEnd offset : Offset} (below : logEnd.toNat < UInt64.size - 1) :
    isOutside logEnd offset = true ↔ logEnd.toNat < offset.toNat + Word.width := by
  rw [isOutside, decide_eq_true_iff, Nat.lt_min]
  exact and_iff_left below

theorem pairwise_outside (store : Store) : (outside store).Pairwise (· < ·) :=
  Std.TreeSet.ordered_toList.imp Std.compare_eq_lt.mp

/-- A reader reads a text exactly if it reads its bytes. -/
theorem readString_eq_ok_iff {reader : LogReader} {offset : Offset} {content : String} :
    reader.readString offset = .ok content ↔ reader.read offset = .ok (Text.encode content) := by
  rw [LogReader.readString]
  cases reader.read offset with
  | error error => simp
  | ok bytes =>
    simp only [LogReader.textOf, Except.ok.injEq, ← Text.decode?_eq_some_iff]
    cases Text.decode? bytes <;> simp

theorem reads_iff {reader : LogReader} (opened : store.log.reader disk = .ok reader)
    {offset : Offset} {content : String} :
    Reads store disk offset content ↔ reader.readString offset = .ok content := by
  rw [Reads, ContentLog.read, opened, readString_eq_ok_iff]

theorem mem_unreadable {reader : LogReader} (opened : store.log.reader disk = .ok reader)
    {offset : Offset} :
    offset ∈ unreadable store reader ↔
      Listed store offset ∧ ∀ content, ¬Reads store disk offset content := by
  simp only [unreadable, List.mem_filter, listed_iff, reads_iff opened]
  cases reader.readString offset <;> simp

theorem mem_unindexed {reader : LogReader} (opened : store.log.reader disk = .ok reader)
    {offset : Offset} :
    offset ∈ unindexed store reader ↔
      Listed store offset ∧ ∃ content, Reads store disk offset content ∧
        ∃ term ∈ store.termsOf content, offset ∉ store.terms.offsetsFor term := by
  simp only [unindexed, List.mem_filter, listed_iff, reads_iff opened]
  cases reader.readString offset with
  | error error => simp
  | ok content => simp [TermIndex.offsetsFor]

/-! ### What the checks report -/

theorem reports_ownersMatchReferences (store : Store) (disk : Disk) :
    Reports ownersMatchReferences.name (ownerBreaches store)
      (ownersMatchReferences.check store disk) := by
  -- what is looked for one after the other is what the check lists one after the other
  have looked : Reports ownersMatchReferences.name (ownerBreaches store) _ :=
    .look (fun _ => mem_unowned) (.look (fun _ => mem_stale) .passed)
  unfold check
  dsimp only [ownersMatchReferences]
  generalize unowned store.links = missing, stale store.links = astray at looked ⊢
  cases missing with
  | cons id rest => exact looked
  | nil => cases astray <;> exact looked

theorem reports_offsetsWithinLog {store : Store} (disk : Disk)
    (below : store.log.nextOffset.toNat < UInt64.size - 1) :
    Reports offsetsWithinLog.name (offsetBreaches store) (offsetsWithinLog.check store disk) := by
  have exact (offset : Offset) : offset ∈ outside store ↔ Mentioned store offset ∧
      store.log.nextOffset.toNat < offset.toNat + Word.width := by
    rw [mem_outside, isOutside_iff below]
  have looked : Reports offsetsWithinLog.name (offsetBreaches store) _ := .look exact .passed
  unfold check
  dsimp only [offsetsWithinLog]
  generalize outside store = offsets at looked ⊢
  cases offsets <;> exact looked

theorem reports_linkedContentIndexed (store : Store) (disk : Disk) :
    Reports linkedContentIndexed.name (contentBreaches store disk)
      (linkedContentIndexed.check store disk) := by
  unfold check
  dsimp only [linkedContentIndexed]
  cases opened : store.log.reader disk with
  | error error => exact .reported ⟨error, opened⟩ fun _ => by simp
  | ok reader =>
    dsimp only
    have looked : Reports linkedContentIndexed.name (contentBreaches store disk) _ :=
      .absent (by simp [opened])
        (.look (fun _ => mem_unreadable opened) (.look (fun _ => mem_unindexed opened) .passed))
    generalize unreadable store reader = lost, unindexed store reader = hidden at looked ⊢
    cases lost with
    | cons offset rest => exact looked
    | nil => cases hidden <;> exact looked

/-- Where the expected end of the log is the greatest word, sums are cut off there, and no offset is
reported whatever it is. -/
theorem check_offsetsWithinLog_of_greatest {store : Store} (disk : Disk)
    (greatest : store.log.nextOffset.toNat = UInt64.size - 1) :
    offsetsWithinLog.check store disk = .ok () := by
  have none (offset : Offset) : isOutside store.log.nextOffset offset = false := by
    rw [isOutside, decide_eq_false_iff_not, greatest, Nat.not_lt]
    exact Nat.min_le_right ..
  exact check_offsetsWithinLog.mpr ⟨fun offset _ => none offset, fun entry _ => none entry.1⟩

theorem subjects_offsetsWithinLog {violation : Violation}
    (refused : offsetsWithinLog.check store disk = .error violation) :
    violation.subjects = outside store := by
  unfold check at refused
  dsimp only [offsetsWithinLog] at refused
  generalize outside store = offsets at refused ⊢
  cases offsets <;> cases refused
  rfl

/-- The third check asks for nothing but the strings of all listed offsets and their terms. -/
theorem check_linkedContentIndexed_iff :
    linkedContentIndexed.check store disk = .ok () ↔
      (∃ reader, store.log.reader disk = .ok reader) ∧
        ∀ offset, Listed store offset → ∃ content, Reads store disk offset content ∧
          ∀ term ∈ store.termsOf content, offset ∈ store.terms.offsetsFor term := by
  rw [check_linkedContentIndexed]
  constructor
  · rintro ⟨reader, opened, all⟩
    refine ⟨⟨reader, opened⟩, fun offset listed => ?_⟩
    obtain ⟨entry, member, rfl⟩ := List.mem_map.mp (listed_iff.mpr listed)
    obtain ⟨content, read, found⟩ := all entry member
    refine ⟨content, (reads_iff opened).mpr read, fun term inside => ?_⟩
    exact Array.mem_toList_iff.mpr (found term inside)
  · rintro ⟨⟨reader, opened⟩, all⟩
    refine ⟨reader, opened, fun entry member => ?_⟩
    obtain ⟨content, reads, found⟩ := all entry.1 (listed_iff.mp (List.mem_map_of_mem member))
    refine ⟨content, (reads_iff opened).mp reads, fun term inside => ?_⟩
    exact Array.mem_toList_iff.mp (found term inside)

/-! ### What the checks decide -/

/-- What the checks of a store promise, whatever the store and the disk hold. -/
structure Decided (store : Store) (disk : Disk) : Prop where
  /-- The first check passes exactly if identifiers own what they refer to, and nothing else, and no
  offset is listed without an owner. -/
  owners : ownersMatchReferences.check store disk = .ok () ↔
    (∀ id offset, store.links.referenceOf? id = some offset ↔ id ∈ store.links.ownersOf offset) ∧
      store.links.Filled
  /-- The second check passes exactly if a size fits between each offset and the end of the log. -/
  offsets : store.log.nextOffset.toNat < UInt64.size - 1 →
    (offsetsWithinLog.check store disk = .ok () ↔
      ∀ offset, Mentioned store offset →
        offset.toNat + Word.width ≤ store.log.nextOffset.toNat)
  /-- The third check passes exactly if the log can be opened, and the string at each listed offset
  can be read and is indexed under each of its terms. -/
  content : linkedContentIndexed.check store disk = .ok () ↔
    (∃ reader, store.log.reader disk = .ok reader) ∧
      ∀ offset, Listed store offset → ∃ content, Reads store disk offset content ∧
        ∀ term ∈ store.termsOf content, offset ∈ store.terms.offsetsFor term
  ownersReported :
    Reports ownersMatchReferences.name (ownerBreaches store)
      (ownersMatchReferences.check store disk)
  offsetsReported : store.log.nextOffset.toNat < UInt64.size - 1 →
    Reports offsetsWithinLog.name (offsetBreaches store) (offsetsWithinLog.check store disk)
  contentReported :
    Reports linkedContentIndexed.name (contentBreaches store disk)
      (linkedContentIndexed.check store disk)
  /-- Offsets are reported in ascending order, each of them once. -/
  ascending : ∀ violation, offsetsWithinLog.check store disk = .error violation →
    violation.subjects.Pairwise (· < ·)
  /-- What stands under a term is what a lookup finds there, if the nodes of the term index are in
  order. -/
  indexed : store.terms.WellFormed → ∀ offset,
    (∃ entry ∈ store.terms.entries, offset ∈ entry.2) ↔ ∃ key, offset ∈ store.terms.offsetsAt key

/-- The checks decide the invariants for every store, also for one that no sequence of requests
leads to. -/
theorem checks_decide (store : Store) (disk : Disk) : Decided store disk := by
  refine {
    owners := ?_
    offsets := fun below => ?_
    content := ?_
    ownersReported := reports_ownersMatchReferences store disk
    offsetsReported := fun below => reports_offsetsWithinLog disk below
    contentReported := reports_linkedContentIndexed store disk
    ascending := fun violation refused => ?_
    indexed := fun formed offset => ?_ }
  · rw [check_ownersMatchReferences]
    constructor
    · intro sound
      exact ⟨fun _ _ => sound.inverse.symm, sound.filled⟩
    · rintro ⟨inverse, filled⟩
      exact ⟨(inverse _ _).symm, filled⟩
  · rw [(reports_offsetsWithinLog disk below).ok_iff]
    simp only [offsetBreaches, List.forall_mem_singleton, Breach.among, not_exists, not_and,
      Nat.not_lt]
  · exact check_linkedContentIndexed_iff
  · rw [subjects_offsetsWithinLog refused]
    exact pairwise_outside store
  · rw [← TermIndex.mem_flatMap_entries formed, List.mem_flatMap]

/-- Identifier 1 refers to an offset that lists another owner, and a term has an offset that is too
close to the end of the log. -/
def crooked : Store where
  config := .standard
  log := ⟨"log", 20⟩
  terms := TermIndex.empty.append [97] 13
  links := ⟨(∅ : Std.TreeMap LinkId Offset).insert 1 8,
    (∅ : Std.TreeMap Offset (Std.TreeSet LinkId)).insert 8 (Std.TreeSet.ofList [(2 : LinkId)])⟩

theorem checks_decide_crooked :
    crooked.log.nextOffset.toNat < UInt64.size - 1 ∧
      ownersMatchReferences.check crooked .empty ≠ .ok () ∧
      offsetsWithinLog.check crooked .empty ≠ .ok () ∧
      linkedContentIndexed.check crooked .empty ≠ .ok () := by
  have decided := checks_decide crooked .empty
  have below : crooked.log.nextOffset.toNat < UInt64.size - 1 := by decide
  refine ⟨below, ?_, ?_, ?_⟩
  · intro passed
    have owner := ((decided.owners.mp passed).1 1 8).mp (by decide)
    exact absurd owner (by decide)
  · intro passed
    have formed := TermIndex.wellFormed_append TermIndex.wellFormed_empty [97] 13
    have posted := (decided.indexed formed 13).mpr ⟨[97], by decide⟩
    have within := (decided.offsets below).mp passed 13 (.inl posted)
    exact absurd within (by decide)
  · intro passed
    obtain ⟨reader, opened⟩ := (decided.content.mp passed).1
    cases opened

end Concordance.Invariant
