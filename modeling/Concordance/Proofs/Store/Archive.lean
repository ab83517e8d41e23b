import Concordance.Proofs.ContentLog
import Concordance.Proofs.LinkIndex
import Concordance.Proofs.TermIndex
import Concordance.Store.Basic

/-!
# The archive

What a term index holds is settled by its archive: the searchable strings that have been stored,
each with the offset of its record, in the order of the log. No string is stored twice. Each string
stands under its terms as often as it has them, so that a string which is found under one of its
terms is found under all of them.
-/
namespace Concordance

open Disk (sizeLimit)

/-- The searchable strings of a log with their offsets, in the order in which they were stored. -/
abbrev Archive := List (Offset × String)

/-- Whether strings like this one are looked up and indexed. -/
def Config.Searches (config : Config) (string : String) : Prop :=
  Text.size string < config.threshold.toNat ∧ config.tokenizer.split string ≠ []

namespace Archive

/-- The offsets of the archived strings with a term, as often as they have it. -/
def under (config : Config) (archive : Archive) (key : Bytes) : List Offset :=
  archive.flatMap fun entry =>
    List.replicate (((config.tokenizer.split entry.2).map Text.encode).count key) entry.1

theorem mem_under {config : Config} {archive : Archive} {key : Bytes} {offset : Offset} :
    offset ∈ archive.under config key ↔
      ∃ string, (offset, string) ∈ archive ∧
        ∃ term ∈ config.tokenizer.split string, Text.encode term = key := by
  simp only [under, List.mem_flatMap, List.mem_replicate, Ne, List.count_eq_zero, not_not,
    List.mem_map, Prod.exists]
  constructor
  · rintro ⟨_, string, member, has, rfl⟩
    exact ⟨string, member, has⟩
  · rintro ⟨string, member, has⟩
    exact ⟨offset, string, member, has, rfl⟩

end Archive

/-! ### What the term index holds -/

/-- A term index holds the archived strings, whose records are in the log. -/
structure Indexed (config : Config) (log : Bytes) (archive : Archive) (terms : TermIndex) :
    Prop where
  formed : terms.WellFormed
  listed : ∀ key, terms.offsetsAt key = archive.under config key
  searched : ∀ entry ∈ archive, config.Searches entry.2
  stored : ∀ entry ∈ archive, HasRecord log entry.1 (Text.encode entry.2)
  apart : archive.Pairwise fun left right =>
    left.1.toNat + Word.width + Text.size left.2 ≤ right.1.toNat
  distinct : (archive.map (·.2)).Nodup

namespace Indexed

variable {config : Config} {log : Bytes} {archive : Archive} {terms : TermIndex}

theorem empty (config : Config) (log : Bytes) : Indexed config log [] TermIndex.empty where
  formed := TermIndex.wellFormed_empty
  listed key := by rw [TermIndex.offsetsAt_empty]; rfl
  searched := by simp
  stored := by simp
  apart := List.Pairwise.nil
  distinct := List.nodup_nil

theorem mono {longer : Bytes} (indexed : Indexed config log archive terms)
    (grown : log <+: longer) : Indexed config longer archive terms :=
  { indexed with stored := fun entry member => (indexed.stored entry member).mono grown }

/-- An index that lists the same holds the same. -/
theorem congr {other : TermIndex} (indexed : Indexed config log archive terms)
    (formed : other.WellFormed) (same : ∀ key, other.offsetsAt key = terms.offsetsAt key) :
    Indexed config log archive other :=
  { indexed with
    formed := formed
    listed := fun key => (same key).trans (indexed.listed key) }

theorem mem_offsetsAt (indexed : Indexed config log archive terms) {key : Bytes}
    {offset : Offset} :
    offset ∈ terms.offsetsAt key ↔
      ∃ string, (offset, string) ∈ archive ∧
        ∃ term ∈ config.tokenizer.split string, Text.encode term = key := by
  rw [indexed.listed, Archive.mem_under]

theorem mem_posting (indexed : Indexed config log archive terms) {term : String}
    {offset : Offset} :
    offset ∈ terms.posting term ↔
      ∃ string, (offset, string) ∈ archive ∧ term ∈ config.tokenizer.split string := by
  -- no two terms have the same bytes
  rw [← Array.mem_toList_iff]
  refine (indexed.mem_offsetsAt).trans (exists_congr fun string => and_congr_right fun _ => ?_)
  constructor
  · rintro ⟨other, has, same⟩
    rwa [← Text.encode_injective same]
  · intro has
    exact ⟨term, has, rfl⟩

/-- A string that is archived is found under each of its terms. -/
theorem mem_posting_of_mem (indexed : Indexed config log archive terms) {string term : String}
    {offset : Offset} (member : (offset, string) ∈ archive)
    (has : term ∈ config.tokenizer.split string) : offset ∈ terms.posting term :=
  indexed.mem_posting.mpr ⟨string, member, has⟩

theorem end_le (indexed : Indexed config log archive terms) {entry : Offset × String}
    (member : entry ∈ archive) :
    entry.1.toNat + Word.width + Text.size entry.2 ≤ log.length := by
  have inside := (indexed.stored entry member).end_le
  rwa [Text.length_encode] at inside

/-! ### Storing another string -/

/-- A string that is not archived yet is stored at the end of the log. -/
theorem append (indexed : Indexed config log archive terms) (bounded : log.length ≤ sizeLimit)
    {string : String} (searched : config.Searches string) (new : string ∉ archive.map (·.2)) :
    Indexed config (log ++ logRecord (Text.encode string))
      (archive ++ [(UInt64.ofNat log.length, string)])
      (terms.indexTerms (config.tokenizer.split string) (UInt64.ofNat log.length)) := by
  have fits := Disk.size_lt bounded
  -- the old entries stay where they are, and the new record begins behind all of them
  have grown := indexed.mono (List.prefix_append log (logRecord (Text.encode string)))
  refine ⟨TermIndex.wellFormed_indexTerms indexed.formed .., fun key => ?_, ?_, ?_, ?_, ?_⟩
  · rw [TermIndex.offsetsAt_indexTerms indexed.formed, indexed.listed, Archive.under,
      Archive.under, List.flatMap_append, List.flatMap_singleton]
  · intro entry member
    rcases List.mem_append.mp member with old | here
    · exact indexed.searched entry old
    · rw [List.mem_singleton.mp here]
      exact searched
  · intro entry member
    rcases List.mem_append.mp member with old | here
    · exact grown.stored entry old
    · rw [List.mem_singleton.mp here]
      exact HasRecord.append log _ fits
  · refine List.pairwise_append.mpr ⟨indexed.apart, List.pairwise_singleton .., ?_⟩
    intro entry old last here
    rw [List.mem_singleton.mp here, UInt64.toNat_ofNat_of_lt' fits]
    exact indexed.end_le old
  · rw [List.map_append, List.nodup_append]
    refine ⟨indexed.distinct, List.nodup_singleton _, fun other old last here same => new ?_⟩
    rw [List.mem_singleton.mp here] at same
    rwa [same] at old

end Indexed

/-! ### What the identifiers refer to -/

/-- Every identifier refers to a string of the log, and to its archived record if it has one. -/
structure Linked (config : Config) (log : Bytes) (archive : Archive) (links : LinkIndex) :
    Prop where
  sound : links.Sound
  stored : ∀ id offset, links.referenceOf? id = some offset →
    ∃ string, HasRecord log offset (Text.encode string) ∧
      (config.Searches string → (offset, string) ∈ archive)

namespace Linked

variable {config : Config} {log : Bytes} {archive : Archive} {links : LinkIndex}

theorem empty (config : Config) (log : Bytes) (archive : Archive) :
    Linked config log archive LinkIndex.empty where
  sound := LinkIndex.sound_empty
  stored id offset found := by simp [LinkIndex.empty, LinkIndex.referenceOf?] at found

theorem mono {longer : Bytes} {larger : Archive} (linked : Linked config log archive links)
    (grown : log <+: longer) (kept : archive ⊆ larger) : Linked config longer larger links where
  sound := linked.sound
  stored id offset found := by
    obtain ⟨string, has, archived⟩ := linked.stored id offset found
    exact ⟨string, has.mono grown, fun searches => kept (archived searches)⟩

/-- An index with the same references refers to the same strings. -/
theorem congr {other : LinkIndex} (linked : Linked config log archive links) (sound : other.Sound)
    (same : ∀ id, other.referenceOf? id = links.referenceOf? id) :
    Linked config log archive other where
  sound := sound
  stored id offset found := linked.stored id offset ((same id).symm.trans found)

theorem setReference (linked : Linked config log archive links) (id : LinkId) {offset : Offset}
    {string : String} (has : HasRecord log offset (Text.encode string))
    (archived : config.Searches string → (offset, string) ∈ archive) :
    Linked config log archive (links.setReference id offset).1 where
  sound := LinkIndex.sound_setReference linked.sound id offset
  stored other place found := by
    -- only one identifier refers to another record than before
    rw [LinkIndex.referenceOf?_setReference] at found
    split at found
    · obtain rfl := Option.some.inj found
      exact ⟨string, has, archived⟩
    · exact linked.stored other place found

end Linked

end Concordance
