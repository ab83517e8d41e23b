import Concordance.Proofs.Invariant.Checks
import Concordance.Proofs.Store.Session

/-!
# The invariants of a session

A store that is coherent with its log satisfies all invariants, so every store of a session does, no
matter what has failed before.
-/
namespace Concordance

variable {config : Config} {disk : Disk} {log : Bytes} {archive : Archive} {store : Store}

namespace Coherent

theorem toNat_nextOffset (coherent : Coherent config disk log archive store) :
    store.log.nextOffset.toNat = log.length := by
  rw [coherent.expected, UInt64.toNat_ofNat_of_lt' (Disk.size_lt coherent.files.bounded)]

theorem indexed_within (coherent : Coherent config disk log archive store) {key : Bytes}
    {offset : Offset} (listed : offset ∈ store.terms.offsetsAt key) :
    offset.toNat + Word.width ≤ store.log.nextOffset.toNat := by
  obtain ⟨string, archived, _⟩ := coherent.indexed.mem_offsetsAt.mp listed
  have inside : offset.toNat + Word.width + Text.size string ≤ log.length :=
    coherent.indexed.end_le archived
  rw [coherent.toNat_nextOffset]
  omega

/-- The string of an owned offset is in the log, and in the archive if it can be searched for. -/
theorem stored_of_owned (coherent : Coherent config disk log archive store) {offset : Offset}
    (owned : store.ownersOf offset ≠ []) :
    ∃ string, HasRecord log offset (Text.encode string) ∧
      (config.Searches string → (offset, string) ∈ archive) := by
  obtain ⟨id, owner⟩ := List.exists_mem_of_ne_nil _ owned
  exact coherent.linked.stored id offset (coherent.linked.sound.inverse.mp owner)

theorem owned_within (coherent : Coherent config disk log archive store) {offset : Offset}
    (owned : store.ownersOf offset ≠ []) :
    offset.toNat + Word.width ≤ store.log.nextOffset.toNat := by
  obtain ⟨string, has, _⟩ := coherent.stored_of_owned owned
  have inside := has.end_le
  rw [coherent.toNat_nextOffset]
  omega

/-- The string of an owned offset can be read and is found under each of its terms. -/
theorem owned_indexed (coherent : Coherent config disk log archive store) {reader : LogReader}
    (shows : reader.Shows log) (freely : reader.ReadsFreely) {offset : Offset}
    (owned : store.ownersOf offset ≠ []) :
    ∃ content, reader.readString offset = .ok content ∧
      ∀ term ∈ store.termsOf content, offset ∈ store.terms.posting term := by
  obtain ⟨string, has, archived⟩ := coherent.stored_of_owned owned
  refine ⟨string, LogReader.readString_eq_ok shows freely has, fun term has_term => ?_⟩
  -- a string that is not searched for has no terms here, so there is nothing to find
  by_cases searches : config.Searches string
  · rw [Store.termsOf_eq coherent.config_eq searches] at has_term
    exact coherent.indexed.mem_posting_of_mem (archived searches) has_term
  · rw [Store.termsOf_eq_nil coherent.config_eq searches] at has_term
    simp at has_term

end Coherent

namespace Invariant

/-- A store that is coherent with its log passes every check. -/
theorem violations_of_coherent (coherent : Coherent config disk log archive store)
    (freely : store.ReadsFreely disk) : violations all store disk = [] := by
  obtain ⟨reader, opened, shows⟩ := Store.reader_eq_ok coherent
  have filled := coherent.linked.sound.filled
  rw [violations_eq_nil_iff]
  simp only [all, List.mem_cons, List.not_mem_nil, or_false, forall_eq_or_imp, forall_eq]
  refine ⟨check_ownersMatchReferences.mpr coherent.linked.sound,
    check_offsetsWithinLog.mpr ⟨fun offset member => ?_, ?_⟩,
    check_linkedContentIndexed.mpr ⟨reader, opened, ?_⟩⟩
  · obtain ⟨key, listed⟩ := (TermIndex.mem_flatMap_entries coherent.indexed.formed).mp member
    exact isOutside_eq_false (coherent.indexed_within listed)
  · rintro ⟨offset, ids⟩ member
    obtain ⟨rfl, owned⟩ := (LinkIndex.mem_entries filled).mp member
    exact isOutside_eq_false (coherent.owned_within owned)
  · rintro ⟨offset, ids⟩ member
    obtain ⟨rfl, owned⟩ := (LinkIndex.mem_entries filled).mp member
    exact coherent.owned_indexed shows (freely reader opened) owned

/-- Nothing is ever wrong with the store of a session: identifiers own what they refer to and
nothing else, all offsets lie within the log, and linked strings can be read and found. -/
theorem violations_of_reached (reached : Session.Reached config ⟨some store, disk⟩)
    (freely : store.ReadsFreely disk) :
    violations all store disk = [] ∧
      (∀ id offset, id ∈ store.ownersOf offset ↔ store.offsetOf? id = some offset) ∧
      (∀ entry ∈ store.links.entries, entry.2 ≠ []) ∧
      (∀ entry ∈ store.terms.entries, ∀ offset ∈ entry.2,
        offset.toNat + Word.width ≤ store.log.nextOffset.toNat) ∧
      (∀ offset, store.ownersOf offset ≠ [] →
        offset.toNat + Word.width ≤ store.log.nextOffset.toNat) ∧
      ∀ offset, store.ownersOf offset ≠ [] →
        ∃ content, store.log.readString disk offset = .ok content ∧
          (Text.size content < config.threshold.toNat →
            ∀ term ∈ config.tokenizer.split content, offset ∈ store.terms.offsetsFor term) := by
  obtain ⟨log, archive, intact⟩ := reached.intact
  have coherent := intact.coherent store rfl
  obtain ⟨reader, opened, shows⟩ := Store.reader_eq_ok coherent
  refine ⟨violations_of_coherent coherent freely, fun id offset => coherent.linked.sound.inverse,
    ?_, ?_, fun offset => coherent.owned_within, fun offset owned => ?_⟩
  · rintro ⟨offset, ids⟩ member
    exact ((LinkIndex.mem_entries coherent.linked.sound.filled).mp member).2
  · rintro ⟨key, offsets⟩ member offset listed
    obtain ⟨rfl, _⟩ := (TermIndex.mem_entries coherent.indexed.formed).mp member
    exact coherent.indexed_within listed
  · obtain ⟨content, read, finds⟩ := coherent.owned_indexed shows (freely reader opened) owned
    refine ⟨content, by rw [ContentLog.readString, opened]; exact read, fun small term has => ?_⟩
    have searches : config.Searches content := ⟨small, List.ne_nil_of_mem has⟩
    rw [← Store.termsOf_eq coherent.config_eq searches] at has
    exact Array.mem_toList_iff.mpr (finds term has)

/-- Nothing is wrong after a string has been cut short. -/
theorem violations_of_sample :
    Store.sampleSecond.2.1.ownersOf 0 = [1] ∧
      violations all Store.sampleSecond.2.1 Store.sampleSecond.2.2 = [] :=
  ⟨by decide +kernel, (violations_of_reached Store.reached_sample Store.readsFreely_sample).1⟩

end Invariant

end Concordance
