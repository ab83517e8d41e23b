import Concordance.Proofs.Store.Searching

/-!
# Searching for terms

A query for terms finds the identifiers whose string is short enough and has all of the terms, or
some of them. It does so without reading a string, so it relies on the term index: the offsets under
a term are those of the archived strings that have it. Neither the order of the terms nor how often
one is repeated changes the answer, and nothing is lost by giving up early.
-/
namespace Concordance

/-- What a query asks of a list of terms, given which of them are there. -/
def TermMode.Asks : (mode : TermMode) → (terms : List String) → (has : String → Prop) → Prop
  | .and, terms, has => terms ≠ [] ∧ ∀ term ∈ terms, has term
  | .or, terms, has => ∃ term ∈ terms, has term

namespace TermMode.Asks

variable {mode : TermMode} {terms other : List String} {has : String → Prop}

theorem exists_mem (asked : mode.Asks terms has) : ∃ term ∈ terms, has term := by
  cases mode with
  | and =>
    obtain ⟨term, member⟩ := List.exists_mem_of_ne_nil _ asked.1
    exact ⟨term, member, asked.2 term member⟩
  | or => exact asked

theorem imp {has' : String → Prop} (asked : mode.Asks terms has)
    (kept : ∀ term, has term → has' term) : mode.Asks terms has' := by
  cases mode with
  | and => exact ⟨asked.1, fun term member => kept term (asked.2 term member)⟩
  | or =>
    obtain ⟨term, member, found⟩ := asked
    exact ⟨term, member, kept term found⟩

/-- Only which terms are in the list counts. -/
theorem congr (same : ∀ term, term ∈ other ↔ term ∈ terms) :
    mode.Asks other has ↔ mode.Asks terms has := by
  cases mode with
  | and => simp only [Asks, ne_eq, List.eq_nil_iff_forall_not_mem, same]
  | or => simp only [Asks, same]

end TermMode.Asks

namespace Store

variable {config : Config} {disk : Disk} {log : Bytes} {archive : Archive} {store : Store}

/-! ### Offsets under several terms -/

theorem mem_offsetsForTerm {term : String} {offset : Offset} :
    offset ∈ store.offsetsForTerm term ↔ offset ∈ store.terms.offsetsFor term := by
  rw [offsetsForTerm, Std.TreeSet.mem_ofList, List.contains_iff_mem]

/-- Goes through all of the terms, even if nothing is left to find on the way. -/
def combineAll (store : Store) (mode : TermMode) (found : Std.TreeSet Offset)
    (terms : List String) : Std.TreeSet Offset :=
  terms.foldl (fun found term => combine mode found (store.offsetsForTerm term)) found

/-- All terms together keep the offsets that are under each of them. -/
theorem mem_combineAll_and {found : Std.TreeSet Offset} {terms : List String} {offset : Offset} :
    offset ∈ store.combineAll .and found terms ↔
      offset ∈ found ∧ ∀ term ∈ terms, offset ∈ store.terms.offsetsFor term := by
  unfold combineAll
  induction terms generalizing found with
  | nil => simp
  | cons term rest ih =>
    rw [List.foldl_cons, ih, combine, Std.TreeSet.mem_inter_iff, mem_offsetsForTerm,
      List.forall_mem_cons, and_assoc]

/-- All terms together add the offsets that are under one of them. -/
theorem mem_combineAll_or {found : Std.TreeSet Offset} {terms : List String} {offset : Offset} :
    offset ∈ store.combineAll .or found terms ↔
      offset ∈ found ∨ ∃ term ∈ terms, offset ∈ store.terms.offsetsFor term := by
  unfold combineAll
  induction terms generalizing found with
  | nil => simp
  | cons term rest ih =>
    rw [List.foldl_cons, ih, combine, Std.TreeSet.mem_union_iff, mem_offsetsForTerm, or_assoc]
    simp only [List.mem_cons, exists_eq_or_imp]

/-- Giving up as soon as nothing is left loses nothing. -/
theorem mem_offsetsForMore {mode : TermMode} {found : Std.TreeSet Offset} {terms : List String}
    {offset : Offset} :
    offset ∈ store.offsetsForMore mode found terms ↔
      offset ∈ store.combineAll mode found terms := by
  induction terms generalizing found with
  | nil => rfl
  | cons term rest ih =>
    rw [offsetsForMore]
    split
    · next exhausted =>
      obtain ⟨rfl, empty⟩ := exhausted
      -- what is not found by now is not found under further terms either
      have gone : offset ∉ found := Std.TreeSet.isEmpty_iff_forall_not_mem.mp empty offset
      exact iff_of_false gone fun kept => gone (mem_combineAll_and.mp kept).1
    · exact ih

/-- An offset is found for a list of terms exactly if it is under all or some of them. -/
theorem mem_offsetsForTerms {terms : List String} {mode : TermMode} {offset : Offset} :
    offset ∈ store.offsetsForTerms terms mode ↔
      mode.Asks terms fun term => offset ∈ store.terms.offsetsFor term := by
  cases terms with
  | nil => cases mode <;> simp [offsetsForTerms, TermMode.Asks]
  | cons term rest =>
    rw [offsetsForTerms, mem_offsetsForMore]
    cases mode with
    | and => simp [mem_combineAll_and, mem_offsetsForTerm, TermMode.Asks]
    | or => simp [mem_combineAll_or, mem_offsetsForTerm, TermMode.Asks]

/-! ### Queries for terms -/

/-- The offsets for a list of terms are those of the archived strings that have what is asked. -/
theorem mem_offsetsForTerms_archived (searchable : Searchable config disk log archive store)
    {terms : List String} {mode : TermMode} {offset : Offset} :
    offset ∈ store.offsetsForTerms terms mode ↔
      ∃ string, (offset, string) ∈ archive ∧
        mode.Asks terms fun term => term ∈ config.tokenizer.split string := by
  have listed (term : String) : offset ∈ store.terms.offsetsFor term ↔
      ∃ string, (offset, string) ∈ archive ∧ term ∈ config.tokenizer.split string := by
    rw [TermIndex.offsetsFor, Array.mem_toList_iff, searchable.indexed.mem_posting]
  rw [mem_offsetsForTerms]
  constructor
  · intro asked
    -- all terms that lead to the offset are terms of the one string that it holds
    obtain ⟨term, _, found⟩ := asked.exists_mem
    obtain ⟨string, archived, _⟩ := (listed term).mp found
    refine ⟨string, archived, asked.imp fun term found => ?_⟩
    obtain ⟨other, archived', has⟩ := (listed term).mp found
    rwa [searchable.string_unique (searchable.hasRecord archived) (searchable.hasRecord archived')]
  · rintro ⟨string, archived, asked⟩
    exact asked.imp fun term has => (listed term).mpr ⟨string, archived, has⟩

/-- A query for terms finds the identifiers whose string is short enough and has what is asked. -/
theorem mem_identifiersForTerms (coherent : Coherent config disk log archive store)
    (freely : store.ReadsFreely disk) {terms : List String} {mode : TermMode} {id : LinkId} :
    id ∈ store.identifiersForTerms terms mode ↔
      ∃ content, store.stringFor disk id = .ok content ∧
        Text.size content < config.threshold.toNat ∧
          mode.Asks terms fun term => term ∈ config.tokenizer.split content := by
  have found (offset : Offset) : offset ∈ (store.offsetsForTerms terms mode).toList ↔
      ∃ string, (offset, string) ∈ archive ∧
        mode.Asks terms fun term => term ∈ config.tokenizer.split string := by
    rw [Std.TreeSet.mem_toList, mem_offsetsForTerms_archived coherent.searchable]
  rw [identifiersForTerms, mem_ownersOfAll_iff coherent freely found]
  refine exists_congr fun content => and_congr_right fun _ => ?_
  constructor
  · rintro ⟨⟨short, _⟩, asked⟩
    exact ⟨short, asked⟩
  · rintro ⟨short, asked⟩
    -- a string that has a term that is asked for is not without terms
    obtain ⟨_, _, has⟩ := asked.exists_mem
    exact ⟨⟨short, List.ne_nil_of_mem has⟩, asked⟩

/-- A query for terms finds the identifiers whose string is short enough and has all of the terms,
or some of them; a query for no term finds nothing. Giving up early changes no answer, and neither
does the order of the terms or repeating one. -/
theorem identifiersForTerms_spec (reached : Session.Reached config ⟨some store, disk⟩)
    (freely : store.ReadsFreely disk) (terms : List String) :
    (terms ≠ [] → ∀ id, id ∈ store.identifiersForTerms terms .and ↔
      ∃ content, store.stringFor disk id = .ok content ∧
        Text.size content < config.threshold.toNat ∧
          ∀ term ∈ terms, term ∈ config.tokenizer.split content) ∧
    (terms ≠ [] → ∀ id, id ∈ store.identifiersForTerms terms .or ↔
      ∃ content, store.stringFor disk id = .ok content ∧
        Text.size content < config.threshold.toNat ∧
          ∃ term ∈ terms, term ∈ config.tokenizer.split content) ∧
    (∀ mode, (store.identifiersForTerms [] mode).isEmpty = true) ∧
    (∀ mode first rest, store.identifiersForTerms (first :: rest) mode =
      store.ownersOfAll (store.combineAll mode (store.offsetsForTerm first) rest).toList) ∧
    ∀ mode other, (∀ term, term ∈ other ↔ term ∈ terms) →
      store.identifiersForTerms other mode = store.identifiersForTerms terms mode := by
  obtain ⟨log, archive, intact⟩ := reached.intact
  have coherent := intact.coherent store rfl
  refine ⟨fun some id => ?_, fun _ id => mem_identifiersForTerms coherent freely, fun mode => rfl,
    fun mode first rest => ?_, fun mode other same => ?_⟩
  · rw [mem_identifiersForTerms coherent freely]
    simp only [TermMode.Asks, ne_eq, some, not_false_eq_true, true_and]
  · rw [identifiersForTerms, offsetsForTerms, Table.toList_eq fun _ => mem_offsetsForMore]
  · rw [identifiersForTerms, identifiersForTerms, Table.toList_eq fun offset => ?_]
    rw [mem_offsetsForTerms, mem_offsetsForTerms, TermMode.Asks.congr same]

/-- Both strings have both terms, which may be given in any order and twice. A term that neither of
them has leaves all of the terms unfound, but some of them are found. -/
theorem identifiersForTerms_of_sample :
    (1 ∈ sampleMoved.2.1.identifiersForTerms ["cd", "ab", "cd"] .and ∧
        2 ∈ sampleMoved.2.1.identifiersForTerms ["cd", "ab", "cd"] .and) ∧
      1 ∉ sampleMoved.2.1.identifiersForTerms ["a", "cd"] .and ∧
      1 ∈ sampleMoved.2.1.identifiersForTerms ["a", "cd"] .or := by
  obtain ⟨first, second⟩ := stringFor_moved
  obtain ⟨all, _⟩ := identifiersForTerms_spec reached_moved readsFreely_moved ["cd", "ab", "cd"]
  obtain ⟨none, some, _⟩ := identifiersForTerms_spec reached_moved readsFreely_moved ["a", "cd"]
  refine ⟨⟨?_, ?_⟩, fun member => ?_, ?_⟩
  · exact (all (by decide) 1).mpr ⟨"cd ab", first, by decide +kernel⟩
  · exact (all (by decide) 2).mpr ⟨"ab cd", second, by decide +kernel⟩
  · obtain ⟨content, current, _, has⟩ := (none (by decide) 1).mp member
    rw [first] at current
    obtain rfl := Except.ok.inj current
    exact absurd has (by decide +kernel)
  · exact (some (by decide) 1).mpr ⟨"cd ab", first, by decide +kernel⟩

end Store

end Concordance
