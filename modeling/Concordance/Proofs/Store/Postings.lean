import Concordance.Proofs.Store.Sharing
import Concordance.Proofs.Tokenizer
import Mathlib.Data.Finset.Card
import Mathlib.Data.Finset.Dedup

/-!
# What stands under a term

The offsets under a term ascend, because the log only grows and an offset is added when its record
is written. A string stands at one offset only, so under each term this offset stands as often as
the string has the term, and terms that no indexed string has are not in the index.
-/
namespace Concordance

variable {config : Config} {disk : Disk} {log : Bytes} {archive : Archive} {store : Store}
  {offset : Offset} {string : String}

/-- The terms of all archived strings. -/
def Archive.terms (config : Config) (archive : Archive) : Finset String :=
  (archive.flatMap fun entry => config.tokenizer.split entry.2).toFinset

theorem Archive.mem_terms {term : String} :
    term ∈ archive.terms config ↔
      ∃ offset string, (offset, string) ∈ archive ∧ term ∈ config.tokenizer.split string := by
  simp only [terms, List.mem_toFinset, List.mem_flatMap, Prod.exists]

namespace Indexed

variable {terms : TermIndex}

/-- A later string stands at a later offset. -/
theorem pairwise_lt (indexed : Indexed config log archive terms) :
    archive.Pairwise fun left right => left.1 < right.1 := by
  refine indexed.apart.imp fun {left right} before => ?_
  have width : 0 < Word.width := Nat.succ_pos _
  rw [UInt64.lt_iff_toNat_lt]
  omega

/-- The offsets under a term ascend. One is repeated if its string repeats the term. -/
theorem ascending_offsetsAt (indexed : Indexed config log archive terms) (key : Bytes) :
    (terms.offsetsAt key).Pairwise (· ≤ ·) := by
  rw [indexed.listed, Archive.under, List.pairwise_flatMap]
  constructor
  · intro entry _
    exact List.pairwise_replicate.mpr (.inr (UInt64.le_refl _))
  · refine indexed.pairwise_lt.imp fun {left right} less => ?_
    intro first here second there
    rw [List.eq_of_mem_replicate here, List.eq_of_mem_replicate there]
    exact UInt64.le_of_lt less

/-- An archived string stands under each term as often as it has the term. -/
theorem count_offsetsAt (indexed : Indexed config log archive terms)
    (archived : (offset, string) ∈ archive) (key : Bytes) :
    (terms.offsetsAt key).count offset =
      ((config.tokenizer.split string).map Text.encode).count key := by
  obtain ⟨before, after, split⟩ := List.append_of_mem archived
  have apart := indexed.pairwise_lt
  rw [split, List.pairwise_append, List.pairwise_cons] at apart
  obtain ⟨_, ⟨behind, _⟩, ahead⟩ := apart
  -- no other entry of the archive has the offset
  have none_before : offset ∉ Archive.under config before key := by
    intro member
    obtain ⟨other, earlier, _⟩ := Archive.mem_under.mp member
    have less : offset < offset := ahead _ earlier (offset, string) List.mem_cons_self
    exact UInt64.lt_irrefl _ less
  have none_after : offset ∉ Archive.under config after key := by
    intro member
    obtain ⟨other, later, _⟩ := Archive.mem_under.mp member
    have less : offset < offset := behind _ later
    exact UInt64.lt_irrefl _ less
  rw [Archive.under] at none_before none_after
  rw [indexed.listed, split, Archive.under, List.flatMap_append, List.flatMap_cons,
    List.count_append, List.count_append, List.count_eq_zero.mpr none_before,
    List.count_eq_zero.mpr none_after, List.count_replicate_self, Nat.zero_add, Nat.add_zero]

/-- The index has entries for the terms of the archived strings. -/
theorem mem_map_entries (indexed : Indexed config log archive terms) {key : Bytes} :
    key ∈ terms.entries.map (·.1) ↔
      ∃ entry ∈ archive, ∃ term ∈ config.tokenizer.split entry.2, Text.encode term = key := by
  constructor
  · intro member
    obtain ⟨⟨_, offsets⟩, entry, rfl⟩ := List.mem_map.mp member
    obtain ⟨rfl, filled⟩ := (TermIndex.mem_entries indexed.formed).mp entry
    obtain ⟨offset, listed⟩ := List.exists_mem_of_ne_nil _ filled
    obtain ⟨string, archived, has⟩ := indexed.mem_offsetsAt.mp listed
    exact ⟨(offset, string), archived, has⟩
  · rintro ⟨⟨offset, string⟩, archived, has⟩
    have listed := indexed.mem_offsetsAt.mpr ⟨string, archived, has⟩
    exact List.mem_map_of_mem
      ((TermIndex.mem_entries indexed.formed).mpr ⟨rfl, List.ne_nil_of_mem listed⟩)

/-- The index has as many terms as the archived strings have together. -/
theorem size_eq (indexed : Indexed config log archive terms) :
    terms.size = (archive.terms config).card := by
  have same : (terms.entries.map (·.1)).toFinset = (archive.terms config).image Text.encode := by
    ext key
    simp only [List.mem_toFinset, indexed.mem_map_entries, Finset.mem_image, Archive.mem_terms]
    constructor
    · rintro ⟨⟨offset, string⟩, archived, term, has, encoded⟩
      exact ⟨term, ⟨offset, string, archived, has⟩, encoded⟩
    · rintro ⟨term, ⟨offset, string, archived, has⟩, encoded⟩
      exact ⟨(offset, string), archived, term, has, encoded⟩
  -- no two terms have the same bytes, and no term has two entries
  rw [← Finset.card_image_of_injective _ fun _ _ => Text.encode_injective, ← same,
    List.toFinset_card_of_nodup (TermIndex.nodup_map_entries indexed.formed),
    TermIndex.size_eq indexed.formed]

end Indexed

namespace Store

/-- The offsets under a term ascend, and no term is listed that is empty or has none. An offset
under some term is that of a string short enough to be searched for, and stands under every term as
often as this string has it. So the number of terms is that of the terms of all indexed strings. -/
theorem postings_exact (reached : Session.Reached config ⟨some store, disk⟩) :
    (∀ term, (store.terms.offsetsFor term).Pairwise (· ≤ ·)) ∧
    (∀ key offsets, (key, offsets) ∈ store.terms.entries → offsets ≠ [] ∧
      ∃ term, term ≠ "" ∧ key = Text.encode term ∧ offsets = store.terms.offsetsFor term) ∧
    (store.ReadsFreely disk →
      (∀ term, ∀ offset ∈ store.terms.offsetsFor term,
        ∃ content, store.HoldsIndexed disk offset content ∧
          Text.size content < config.threshold.toNat ∧
          ∀ other, (store.terms.offsetsFor other).count offset =
            (config.tokenizer.split content).count other) ∧
      ∃ terms : Finset String, store.stats.termCount = terms.card ∧
        ∀ term, term ∈ terms ↔ ∃ offset content, store.HoldsIndexed disk offset content ∧
          term ∈ config.tokenizer.split content) := by
  obtain ⟨log, archive, intact⟩ := reached.intact
  have coherent := intact.coherent store rfl
  have indexed := coherent.indexed
  refine ⟨fun term => ?_, fun key offsets listed => ?_, fun freely => ⟨?_, ?_⟩⟩
  · rw [TermIndex.offsetsFor_eq]
    exact indexed.ascending_offsetsAt _
  · obtain ⟨rfl, filled⟩ := (TermIndex.mem_entries indexed.formed).mp listed
    obtain ⟨offset, member⟩ := List.exists_mem_of_ne_nil _ filled
    obtain ⟨string, _, term, has, rfl⟩ := indexed.mem_offsetsAt.mp member
    exact ⟨filled, term, Tokenizer.ne_empty_of_mem_split has, rfl,
      (TermIndex.offsetsFor_eq ..).symm⟩
  · intro term offset member
    rw [TermIndex.offsetsFor_eq] at member
    obtain ⟨string, archived, _⟩ := indexed.mem_offsetsAt.mp member
    refine ⟨string, (coherent.holdsIndexed_iff freely).mpr archived,
      (indexed.searched _ archived).1, fun other => ?_⟩
    rw [TermIndex.offsetsFor_eq, indexed.count_offsetsAt archived,
      List.count_map_of_injective _ _ fun _ _ => Text.encode_injective]
  · refine ⟨archive.terms config, indexed.size_eq, fun term => ?_⟩
    simp only [Archive.mem_terms, coherent.holdsIndexed_iff freely]

/-- A third identifier is linked to a string that has a term twice. -/
def sampleTwice : Except StoreError Offset × Store × Disk :=
  sampleMoved.2.1.link 3 "ab ab" sampleMoved.2.2

/-- The string stands twice under its term and not under the other one. -/
theorem postings_exact_of_sample :
    sampleTwice.2.1.log.readString sampleTwice.2.2 29 = .ok "ab ab" ∧
      (sampleTwice.2.1.terms.offsetsFor "ab").Pairwise (· ≤ ·) ∧
      (sampleTwice.2.1.terms.offsetsFor "ab").count 29 = 2 ∧
      (sampleTwice.2.1.terms.offsetsFor "cd").count 29 = 0 := by
  have reached : Session.Reached sampleConfig ⟨some sampleTwice.2.1, sampleTwice.2.2⟩ := by
    rw [sampleTwice]
    exact reached_moved.link 3 "ab ab"
  have freely : sampleTwice.2.1.ReadsFreely sampleTwice.2.2 :=
    readsFreely_of_logEnd 42 (by decide +kernel) (by decide)
  obtain ⟨ascending, _, exact⟩ := postings_exact reached
  obtain ⟨counts, _⟩ := exact freely
  obtain ⟨content, ⟨_, read⟩, _, count⟩ := counts "ab" 29 (by decide +kernel)
  have bytes : sampleTwice.2.1.log.read sampleTwice.2.2 29 = .ok (Text.encode "ab ab") := by
    decide +kernel
  obtain rfl := Text.encode_injective (Except.ok.inj (read.symm.trans bytes))
  exact ⟨by decide +kernel, ascending "ab", (count "ab").trans (by decide +kernel),
    (count "cd").trans (by decide +kernel)⟩

end Store

end Concordance
