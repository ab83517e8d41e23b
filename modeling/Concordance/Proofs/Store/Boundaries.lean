import Concordance.Proofs.Store.Replies

/-!
# Queries that begin where a term may begin

If terms stand between delimiters, a string is found by every part of it that begins with a term or
with a delimiter. Cut out of the string, such a part may lose the end of its first term, but never
the beginning: what is left of this term begins the term that stands there in the string. This is
all that a search in the term index needs, and the comparison with the string does the rest.
-/
namespace Concordance

namespace Tokenizer

variable {tokenizer : Tokenizer}

/-- A query stands at the beginning of a string, or a delimiter separates it from what comes before
it. The delimiter may belong to either. -/
def AtBoundary (tokenizer : Tokenizer) (before query : String) : Prop :=
  before = "" ∨
    (∃ char, before.toList.getLast? = some char ∧ char ∈ tokenizer.delimiters.toList) ∨
      ∃ char, query.toList.head? = some char ∧ char ∈ tokenizer.delimiters.toList

theorem AtBoundary.apart {before query : String} (boundary : tokenizer.AtBoundary before query) :
    Text.Apart tokenizer.divides before.toList query.toList := by
  rcases boundary with rfl | ⟨char, last, delimits⟩ | ⟨char, head, delimits⟩
  · exact .inl rfl
  · obtain ⟨front, split⟩ := List.getLast?_eq_some_iff.mp last
    exact .inr (.inl ⟨front, char, split, divides_iff.mpr delimits⟩)
  · obtain ⟨rest, split⟩ := List.head?_eq_some_iff.mp head
    exact .inr (.inr ⟨char, rest, split, divides_iff.mpr delimits⟩)

/-- The first term of a query begins a term of every string that has the query at a boundary. -/
theorem reaches_of_boundary (divided : tokenizer.mode = .delimiters) {before query : String}
    (filled : ∃ char ∈ query.toList, char ∉ tokenizer.delimiters.toList)
    (boundary : tokenizer.AtBoundary before query) (behind : String) :
    Matching.substring.Reaches tokenizer query (before ++ query ++ behind) := by
  obtain ⟨char, member, free⟩ := filled
  have plain : tokenizer.divides char = false := by
    rw [← Bool.not_eq_true, divides_iff]
    exact free
  obtain ⟨run, rest, first⟩ := List.exists_cons_of_ne_nil (Text.runs_ne_nil member plain)
  obtain ⟨longer, inside, begins⟩ := Text.first_runs_infix boundary.apart first behind.toList
  refine ⟨String.ofList run, ?_, String.ofList longer, ?_, ?_⟩
  · rw [firstTerm?, split_eq, parts_eq_runs divided, first]
    rfl
  · rw [split_eq, parts_eq_runs divided, String.toList_append, String.toList_append]
    exact List.mem_map_of_mem inside
  · simpa only [Matching.Leads, String.toList_ofList] using begins

end Tokenizer

namespace Store

variable {config : Config} {disk : Disk} {store : Store}

/-- Where terms stand between delimiters, a current string that can be searched for is found by
every part of it that begins at a boundary and does not consist of delimiters alone. -/
theorem substring_found_at_boundary (reached : Session.Reached config ⟨some store, disk⟩)
    (freely : store.ReadsFreely disk) (divided : config.tokenizer.mode = .delimiters)
    {id : LinkId} {before query behind : String}
    (current : store.stringFor disk id = .ok (before ++ query ++ behind))
    (short : Text.size (before ++ query ++ behind) < config.threshold.toNat)
    (filled : ∃ char ∈ query.toList, char ∉ config.tokenizer.delimiters.toList)
    (boundary : config.tokenizer.AtBoundary before query) :
    (∃ found, store.identifiersFor disk query .substring = .ok found ∧ id ∈ found) ∧
      ∃ found, store.stringsFor disk query = .ok found ∧ before ++ query ++ behind ∈ found := by
  obtain ⟨log, archive, intact⟩ := reached.intact
  have coherent := intact.coherent store rfl
  have reaches := Tokenizer.reaches_of_boundary divided filled boundary behind
  have holds : Matching.substring.Holds (before ++ query ++ behind) query := by
    rw [Matching.Holds, String.toList_append, String.toList_append]
    exact ⟨_, _, rfl⟩
  have searches : config.Searches (before ++ query ++ behind) := by
    obtain ⟨_, _, _, has, _⟩ := reaches
    exact ⟨short, List.ne_nil_of_mem has⟩
  constructor
  · obtain ⟨found, same, members⟩ := identifiersFor_spec coherent freely query .substring
    exact ⟨found, same, (members id).mpr ⟨_, current, searches, holds, reaches⟩⟩
  · obtain ⟨found, same, members⟩ := stringsFor_spec coherent.searchable freely query
    refine ⟨found, same, (members _).mpr ⟨?_, holds, reaches⟩⟩
    -- the record that the identifier refers to is archived
    obtain ⟨offset, refers, has⟩ := (stringFor_eq_ok_iff coherent freely).mp current
    obtain ⟨held, has', archived⟩ := coherent.linked.stored id offset refers
    obtain rfl := coherent.searchable.string_unique has has'
    exact List.mem_map_of_mem (archived searches)

/-- A part that begins with a delimiter finds its string though it ends within a term. -/
theorem substring_found_at_boundary_of_sample :
    (∃ found, sampleMoved.2.1.identifiersFor sampleMoved.2.2 " c" .substring = .ok found ∧
      2 ∈ found) ∧
    ∃ found, sampleMoved.2.1.stringsFor sampleMoved.2.2 " c" = .ok found ∧ "ab cd" ∈ found := by
  have current : sampleMoved.2.1.stringFor sampleMoved.2.2 2 = .ok ("ab" ++ " c" ++ "d") :=
    stringFor_moved.2
  exact substring_found_at_boundary reached_moved readsFreely_moved rfl current (by decide +kernel)
    ⟨'c', by decide, by decide⟩ (.inr (.inr ⟨' ', rfl, by decide⟩))

end Store

end Concordance
