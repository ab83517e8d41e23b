import Concordance.Proofs.Store.Interrupted

/-!
# What queries report

All that a query can report are the current strings of the identifiers and the strings of the
archive, with owners or without. Where in the log a string stands is never reported. So two stores
that agree on both give the same replies, even if their logs are different ones.
-/
namespace Concordance

variable {config : Config} {disk disk' : Disk} {log other : Bytes} {archive archive' : Archive}
  {store store' : Store}

namespace Store

/-- A store gives all replies that another one gives. -/
structure SameReplies (store : Store) (disk : Disk) (other : Store) (otherDisk : Disk) : Prop
    extends Recalls store disk other otherDisk where
  stringsFor : ∀ query,
    (other.stringsFor otherDisk query).map (·.toList) =
      (store.stringsFor disk query).map (·.toList)
  stringsForTerms : ∀ terms mode,
    (other.stringsForTerms otherDisk terms mode).map (·.toList) =
      (store.stringsForTerms disk terms mode).map (·.toList)

/-! ### Strings that are found -/

/-- Going through a list either gives the results of all elements or the error of one of them. -/
theorem mapM_cases {α β ε : Type} (f : α → Except ε β) (list : List α) :
    (∃ results, list.mapM f = .ok results ∧
      (∀ element ∈ list, ∃ result ∈ results, f element = .ok result) ∧
      ∀ result ∈ results, ∃ element ∈ list, f element = .ok result) ∨
    ∃ error, list.mapM f = .error error ∧ ∃ element ∈ list, f element = .error error := by
  induction list with
  | nil => exact .inl ⟨[], rfl, nofun, nofun⟩
  | cons element rest ih =>
    rw [List.mapM_cons]
    cases here : f element with
    | error error => exact .inr ⟨error, rfl, element, List.mem_cons_self, here⟩
    | ok first =>
      rcases ih with ⟨more, later, all, only⟩ | ⟨error, later, other, member, failed⟩
      · rw [later]
        refine .inl ⟨first :: more, rfl, ?_, ?_⟩
        · refine List.forall_mem_cons.mpr ⟨⟨first, List.mem_cons_self, here⟩, ?_⟩
          intro other member
          obtain ⟨result, inside, same⟩ := all other member
          exact ⟨result, List.mem_cons_of_mem _ inside, same⟩
        · refine List.forall_mem_cons.mpr ⟨⟨element, List.mem_cons_self, here⟩, ?_⟩
          intro result inside
          obtain ⟨other, member, same⟩ := only result inside
          exact ⟨other, List.mem_cons_of_mem _ member, same⟩
      · rw [later]
        exact .inr ⟨error, rfl, other, List.mem_cons_of_mem _ member, failed⟩

/-- Where the log can be opened, all strings that have been found are read. -/
theorem stringsForTerms_eq_mapM {reader : LogReader} {terms : List String} {mode : TermMode}
    (opened : store.log.reader disk = .ok reader) :
    store.stringsForTerms disk terms mode =
      ((store.offsetsForTerms terms mode).toList.mapM reader.readString).map
        fun strings => Std.TreeSet.ofList strings := by
  unfold stringsForTerms
  cases (store.offsetsForTerms terms mode).toList with
  | nil => rfl
  | cons first rest =>
    rw [opened]
    dsimp only
    cases (first :: rest).mapM reader.readString <;> rfl

section Found

variable (searchable : Searchable config disk log archive store)

include searchable

/-- A query that is not refused finds the archived strings that it reaches and that contain it. -/
theorem mem_stringsFor {query : String} {found : Std.TreeSet String}
    (same : store.stringsFor disk query = .ok found) {string : String} :
    string ∈ found ↔ string ∈ archive.map (·.2) ∧ Matching.substring.Holds string query ∧
      Matching.substring.Reaches config.tokenizer query string := by
  unfold stringsFor at same
  split at same
  · cases same
  · next verified listed =>
    cases same
    rw [Std.TreeSet.mem_ofList, List.contains_iff_mem]
    simp only [List.mem_map, Prod.exists, exists_eq_right,
      mem_verifiedCandidates searchable listed, exists_and_right]

theorem denies_of_stringsFor {query : String} {error : StoreError}
    (failed : store.stringsFor disk query = .error error) : store.Denies disk error := by
  unfold stringsFor at failed
  split at failed
  · next refused =>
    cases failed
    exact denies_of_verifiedCandidates searchable refused
  · cases failed

/-- A query for terms that is not refused finds the archived strings that have what is asked. -/
theorem mem_stringsForTerms {terms : List String} {mode : TermMode} {found : Std.TreeSet String}
    (same : store.stringsForTerms disk terms mode = .ok found) {string : String} :
    string ∈ found ↔ string ∈ archive.map (·.2) ∧
      mode.Asks terms fun term => term ∈ config.tokenizer.split string := by
  obtain ⟨reader, opened, shows⟩ := searchable.reader_eq_ok
  have listed (offset : Offset) : offset ∈ (store.offsetsForTerms terms mode).toList ↔
      ∃ string, (offset, string) ∈ archive ∧
        mode.Asks terms fun term => term ∈ config.tokenizer.split string := by
    rw [Std.TreeSet.mem_toList, mem_offsetsForTerms_archived searchable]
  rw [stringsForTerms_eq_mapM opened] at same
  rcases mapM_cases reader.readString (store.offsetsForTerms terms mode).toList with
    ⟨strings, read, all, only⟩ | ⟨error, failed, _⟩
  · rw [read, Except.map] at same
    cases same
    rw [Std.TreeSet.mem_ofList, List.contains_iff_mem]
    constructor
    · intro member
      obtain ⟨offset, inside, has⟩ := only string member
      obtain ⟨held, archived, asks⟩ := (listed offset).mp inside
      -- what is read at an offset is the string that is archived there
      rw [LogReader.eq_of_readString shows (searchable.hasRecord archived) has]
      exact ⟨List.mem_map_of_mem archived, asks⟩
    · rintro ⟨stored, asks⟩
      obtain ⟨⟨offset, _⟩, archived, rfl⟩ := List.mem_map.mp stored
      obtain ⟨result, inside, has⟩ := all offset ((listed offset).mpr ⟨_, archived, asks⟩)
      rwa [← LogReader.eq_of_readString shows (searchable.hasRecord archived) has]
  · rw [failed] at same
    cases same

theorem denies_of_stringsForTerms {terms : List String} {mode : TermMode} {error : StoreError}
    (failed : store.stringsForTerms disk terms mode = .error error) : store.Denies disk error := by
  obtain ⟨reader, opened, shows⟩ := searchable.reader_eq_ok
  rw [stringsForTerms_eq_mapM opened] at failed
  rcases mapM_cases reader.readString (store.offsetsForTerms terms mode).toList with
    ⟨strings, read, _⟩ | ⟨other, refused, offset, member, unread⟩
  · rw [read] at failed
    cases failed
  · rw [refused] at failed
    cases failed
    rw [Std.TreeSet.mem_toList, mem_offsetsForTerms_archived searchable] at member
    obtain ⟨string, archived, _⟩ := member
    have record := searchable.hasRecord archived
    exact denies_of_reader opened (LogReader.denies_of_readString shows record unread)

/-- A query finds the archived strings that it reaches and that contain it. -/
theorem stringsFor_spec (freely : store.ReadsFreely disk) (query : String) :
    ∃ found, store.stringsFor disk query = .ok found ∧
      ∀ string, string ∈ found ↔ string ∈ archive.map (·.2) ∧
        Matching.substring.Holds string query ∧
          Matching.substring.Reaches config.tokenizer query string := by
  cases answered : store.stringsFor disk query with
  | error error => exact absurd freely (denies_of_stringsFor searchable answered).far
  | ok found => exact ⟨found, rfl, fun _ => mem_stringsFor searchable answered⟩

/-- A query for terms finds the archived strings that have what is asked. -/
theorem stringsForTerms_spec (freely : store.ReadsFreely disk) (terms : List String)
    (mode : TermMode) :
    ∃ found, store.stringsForTerms disk terms mode = .ok found ∧
      ∀ string, string ∈ found ↔ string ∈ archive.map (·.2) ∧
        mode.Asks terms fun term => term ∈ config.tokenizer.split string := by
  cases answered : store.stringsForTerms disk terms mode with
  | error error => exact absurd freely (denies_of_stringsForTerms searchable answered).far
  | ok found => exact ⟨found, rfl, fun _ => mem_stringsForTerms searchable answered⟩

end Found

/-- Stores with the same current strings and the same archived strings give the same replies. -/
theorem sameReplies_of_strings (coherent : Coherent config disk log archive store)
    (coherent' : Coherent config disk' other archive' store') (freely : store.ReadsFreely disk)
    (freely' : store'.ReadsFreely disk')
    (strings : ∀ id, store'.stringFor disk' id = store.stringFor disk id)
    (stored : ∀ string, string ∈ archive'.map (·.2) ↔ string ∈ archive.map (·.2)) :
    SameReplies store disk store' disk' where
  toRecalls := recalls_of_strings coherent coherent' freely freely' strings
  stringsFor query := by
    obtain ⟨found, answered, members⟩ := stringsFor_spec coherent.searchable freely query
    obtain ⟨found', answered', members'⟩ := stringsFor_spec coherent'.searchable freely' query
    rw [answered, answered', Except.map, Except.map, Table.toList_eq fun string => ?_]
    rw [members, members', stored]
  stringsForTerms terms mode := by
    obtain ⟨found, answered, members⟩ := stringsForTerms_spec coherent.searchable freely terms mode
    obtain ⟨found', answered', members'⟩ :=
      stringsForTerms_spec coherent'.searchable freely' terms mode
    rw [answered, answered', Except.map, Except.map, Table.toList_eq fun string => ?_]
    rw [members, members', stored]

end Store

end Concordance
