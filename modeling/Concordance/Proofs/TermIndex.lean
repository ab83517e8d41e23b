import Concordance.Proofs.Trie.Size
import Concordance.TermIndex

/-!
# What stands under a term

A term index is a table from terms, given by their bytes, to lists of offsets. Adding an offset
lengthens the list of one term and leaves the others alone, and a term stands in the index only
if there is an offset under it. All that can be asked of an index is settled by this table.
-/
namespace Concordance.TermIndex

/-- The offsets under a term that is given by its bytes. -/
def offsetsAt (index : TermIndex) (key : Bytes) : List Offset :=
  ((index.postings.get? key).getD #[]).toList

/-- The terms form a tree and have been counted, and each of them has an offset. -/
structure WellFormed (index : TermIndex) : Prop where
  tree : index.postings.WellFormed
  counted : index.postings.Counted
  filled {key : Bytes} {posting : Array Offset} :
    index.postings.get? key = some posting → posting.toList ≠ []

theorem offsetsFor_eq (index : TermIndex) (term : String) :
    index.offsetsFor term = index.offsetsAt (Text.encode term) := rfl

@[simp]
theorem offsetsAt_empty (key : Bytes) : empty.offsetsAt key = [] := by
  simp [offsetsAt, empty]

theorem wellFormed_empty : empty.WellFormed where
  tree := Trie.wellFormed_empty
  counted := Trie.counted_empty
  filled found := by simp [empty] at found

/-! ### Adding offsets -/

theorem offsetsAt_append {index : TermIndex} (formed : index.WellFormed) (term : Bytes)
    (offset : Offset) (key : Bytes) :
    (index.append term offset).offsetsAt key =
      index.offsetsAt key ++ if key = term then [offset] else [] := by
  simp only [offsetsAt, append, Trie.get?_update formed.tree]
  split
  · next same =>
    rw [same, Option.getD_some, Array.toList_push]
  · rw [List.append_nil]

theorem wellFormed_append {index : TermIndex} (formed : index.WellFormed) (term : Bytes)
    (offset : Offset) : (index.append term offset).WellFormed where
  tree := Trie.wellFormed_update formed.tree term #[] (·.push offset)
  counted := Trie.counted_update formed.tree term #[] (·.push offset) formed.counted
  filled {key posting} found := by
    simp only [append, Trie.get?_update formed.tree] at found
    split at found
    · rw [← Option.some.inj found, Array.toList_push]
      simp
    · exact formed.filled found

/-- Adds offsets under one term after another. -/
def addAll (index : TermIndex) (additions : List (Bytes × Offset)) : TermIndex :=
  additions.foldl (fun index addition => index.append addition.1 addition.2) index

/-- The offsets that are added under one term. -/
def under (key : Bytes) (additions : List (Bytes × Offset)) : List Offset :=
  (additions.filter (·.1 = key)).map (·.2)

theorem wellFormed_addAll {index : TermIndex} (formed : index.WellFormed)
    (additions : List (Bytes × Offset)) : (index.addAll additions).WellFormed := by
  induction additions generalizing index with
  | nil => exact formed
  | cons addition rest ih => exact ih (wellFormed_append formed ..)

theorem offsetsAt_addAll {index : TermIndex} (formed : index.WellFormed)
    (additions : List (Bytes × Offset)) (key : Bytes) :
    (index.addAll additions).offsetsAt key = index.offsetsAt key ++ under key additions := by
  induction additions generalizing index with
  | nil => exact (List.append_nil _).symm
  | cons addition rest ih =>
    have added := ih (wellFormed_append formed addition.1 addition.2)
    rw [addAll, List.foldl_cons, ← addAll, added, offsetsAt_append formed, List.append_assoc]
    -- the first addition goes under the term or does not, and the rest is appended behind it
    rw [under, under, List.filter_cons]
    by_cases same : addition.1 = key
    · rw [if_pos same.symm, if_pos (decide_eq_true same)]
      rfl
    · rw [if_neg (Ne.symm same), if_neg (by simpa using same)]
      rfl

theorem indexTerms_eq (index : TermIndex) (terms : List String) (offset : Offset) :
    index.indexTerms terms offset =
      index.addAll (terms.map fun term => (Text.encode term, offset)) := by
  rw [indexTerms, addAll, List.foldl_map]

theorem wellFormed_indexTerms {index : TermIndex} (formed : index.WellFormed)
    (terms : List String) (offset : Offset) : (index.indexTerms terms offset).WellFormed := by
  rw [indexTerms_eq]
  exact wellFormed_addAll formed _

/-- Indexing a string adds its offset under each term as often as the term occurs. -/
theorem offsetsAt_indexTerms {index : TermIndex} (formed : index.WellFormed)
    (terms : List String) (offset : Offset) (key : Bytes) :
    (index.indexTerms terms offset).offsetsAt key =
      index.offsetsAt key ++ List.replicate ((terms.map Text.encode).count key) offset := by
  rw [indexTerms_eq, offsetsAt_addAll formed]
  congr 1
  -- each occurrence of the term adds the offset once more
  induction terms with
  | nil => rfl
  | cons term rest ih =>
    rw [under] at ih
    rw [List.map_cons, List.map_cons, List.count_cons, under, List.filter_cons]
    by_cases same : Text.encode term = key
    · rw [if_pos (decide_eq_true same), List.map_cons, ih, same, beq_self_eq_true, if_pos rfl,
        List.replicate_succ]
    · rw [if_neg (by simpa using same), ih, beq_eq_false_iff_ne.mpr same, if_neg nofun,
        Nat.add_zero]

/-- Indexes the terms of one string after another, each with the offset of the string. -/
def indexAll (index : TermIndex) (strings : List (List String × Offset)) : TermIndex :=
  strings.foldl (fun index string => index.indexTerms string.1 string.2) index

theorem wellFormed_indexAll {index : TermIndex} (formed : index.WellFormed)
    (strings : List (List String × Offset)) : (index.indexAll strings).WellFormed := by
  induction strings generalizing index with
  | nil => exact formed
  | cons string rest ih => exact ih (wellFormed_indexTerms formed ..)

theorem offsetsAt_indexAll {index : TermIndex} (formed : index.WellFormed)
    (strings : List (List String × Offset)) (key : Bytes) :
    (index.indexAll strings).offsetsAt key =
      index.offsetsAt key ++ strings.flatMap fun string =>
        List.replicate ((string.1.map Text.encode).count key) string.2 := by
  induction strings generalizing index with
  | nil => exact (List.append_nil _).symm
  | cons string rest ih =>
    rw [indexAll, List.foldl_cons, ← indexAll, ih (wellFormed_indexTerms formed ..),
      offsetsAt_indexTerms formed, List.flatMap_cons, List.append_assoc]

theorem offsetsAt_indexAll_of_absent {strings : List (List String × Offset)} {key : Bytes}
    (absent : ∀ string ∈ strings, ∀ term ∈ string.1, Text.encode term ≠ key) :
    (empty.indexAll strings).offsetsAt key = [] := by
  rw [offsetsAt_indexAll wellFormed_empty, offsetsAt_empty, List.nil_append]
  refine List.flatMap_eq_nil_iff.mpr fun string member => ?_
  have missing : key ∉ string.1.map Text.encode := by
    intro found
    obtain ⟨term, inside, same⟩ := List.mem_map.mp found
    exact absent string member term inside same
  rw [List.count_eq_zero_of_not_mem missing, List.replicate_zero]

/-- Two runs that agree on what stands under every term agree on what stands under any bytes. -/
theorem offsetsAt_indexAll_congr {left right : List (List String × Offset)}
    (same : ∀ term, (empty.indexAll left).offsetsFor term = (empty.indexAll right).offsetsFor term)
    (key : Bytes) :
    (empty.indexAll left).offsetsAt key = (empty.indexAll right).offsetsAt key := by
  by_cases text : ∃ term, Text.encode term = key
  · obtain ⟨term, rfl⟩ := text
    exact same term
  · -- nothing stands under bytes that are no text
    have none (term : String) : Text.encode term ≠ key := fun found => text ⟨term, found⟩
    rw [offsetsAt_indexAll_of_absent fun _ _ term _ => none term,
      offsetsAt_indexAll_of_absent fun _ _ term _ => none term]

/-! ### What an index answers -/

theorem get?_eq_some_iff {index : TermIndex} (formed : index.WellFormed) {key : Bytes}
    {posting : Array Offset} :
    index.postings.get? key = some posting ↔
      posting.toList = index.offsetsAt key ∧ posting.toList ≠ [] := by
  constructor
  · intro found
    exact ⟨by rw [offsetsAt, found, Option.getD_some], formed.filled found⟩
  · rintro ⟨same, filled⟩
    unfold offsetsAt at same
    cases found : index.postings.get? key with
    | none =>
      rw [found] at same
      exact absurd same filled
    | some other =>
      rw [found] at same
      exact congrArg some (Array.toList_inj.mp same.symm)

/-- The entries are the terms that have an offset, each with all of its offsets. -/
theorem mem_entries {index : TermIndex} (formed : index.WellFormed) {key : Bytes}
    {offsets : List Offset} :
    (key, offsets) ∈ index.entries ↔ offsets = index.offsetsAt key ∧ offsets ≠ [] := by
  simp only [entries, List.mem_map, Prod.exists, Prod.mk.injEq, Trie.mem_entries formed.tree,
    get?_eq_some_iff formed]
  constructor
  · rintro ⟨_, posting, ⟨same, filled⟩, rfl, rfl⟩
    exact ⟨same, filled⟩
  · rintro ⟨same, filled⟩
    exact ⟨key, offsets.toArray, ⟨same, filled⟩, rfl, rfl⟩

/-- An offset stands in an entry exactly if it stands under a term. -/
theorem mem_flatMap_entries {index : TermIndex} (formed : index.WellFormed) {offset : Offset} :
    offset ∈ index.entries.flatMap (·.2) ↔ ∃ key, offset ∈ index.offsetsAt key := by
  simp only [List.mem_flatMap, Prod.exists, mem_entries formed]
  constructor
  · rintro ⟨key, _, ⟨rfl, _⟩, member⟩
    exact ⟨key, member⟩
  · rintro ⟨key, member⟩
    exact ⟨key, _, ⟨rfl, List.ne_nil_of_mem member⟩, member⟩

theorem map_entries (index : TermIndex) : index.entries.map (·.1) = index.postings.keys := by
  rw [entries, Trie.keys, List.map_map]
  rfl

/-- The number of terms is that of the entries. -/
theorem size_eq {index : TermIndex} (formed : index.WellFormed) :
    index.size = (index.entries.map (·.1)).length := by
  rw [map_entries]
  exact formed.counted

/-- No term has two entries. -/
theorem nodup_map_entries {index : TermIndex} (formed : index.WellFormed) :
    (index.entries.map (·.1)).Nodup := by
  rw [map_entries]
  exact Trie.nodup_keys formed.tree

/-- The offsets under the terms that begin with a text. -/
theorem mem_offsetsForStart {index : TermIndex} (formed : index.WellFormed) {start : String}
    {offset : Offset} :
    offset ∈ index.offsetsForStart start ↔
      ∃ key, Text.encode start <+: key ∧ offset ∈ index.offsetsAt key := by
  simp only [offsetsForStart, List.mem_flatMap, Prod.exists, Trie.mem_entriesFrom formed.tree,
    get?_eq_some_iff formed]
  constructor
  · rintro ⟨key, posting, ⟨⟨same, _⟩, begins⟩, member⟩
    exact ⟨key, begins, same ▸ member⟩
  · rintro ⟨key, begins, member⟩
    exact ⟨key, (index.offsetsAt key).toArray, ⟨⟨rfl, List.ne_nil_of_mem member⟩, begins⟩, member⟩

section Same

variable {left right : TermIndex} (left_formed : left.WellFormed) (right_formed : right.WellFormed)
  (same : ∀ key, left.offsetsAt key = right.offsetsAt key)

include left_formed right_formed same

theorem get?_eq_of_offsetsAt_eq (key : Bytes) :
    left.postings.get? key = right.postings.get? key := by
  refine Option.ext fun posting => ?_
  rw [get?_eq_some_iff left_formed, get?_eq_some_iff right_formed, same]

theorem entries_eq : left.entries = right.entries := by
  rw [entries, Trie.entries_eq left_formed.tree right_formed.tree
    (get?_eq_of_offsetsAt_eq left_formed right_formed same), entries]

theorem offsetsForStart_eq (start : String) :
    left.offsetsForStart start = right.offsetsForStart start := by
  rw [offsetsForStart, Trie.entriesFrom_eq left_formed.tree right_formed.tree
    (get?_eq_of_offsetsAt_eq left_formed right_formed same), offsetsForStart]

end Same

end Concordance.TermIndex
