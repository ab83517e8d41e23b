import Concordance.Proofs.Store.Archive
import Concordance.Proofs.Store.Files

/-!
# Linking a string

A store is coherent with its log if its indexes hold what the log holds: the term index the archived
strings, the link index strings of the log. Linking keeps this up, however it ends. Either the
record of the string is found again and nothing is written, or the string is appended, whole or in
part; the part of a record that a failed append leaves behind belongs to no string.
-/
namespace Concordance

open Disk (Keeps sizeLimit)

/-- What the store holds is what its log holds. -/
structure Coherent (config : Config) (disk : Disk) (log : Bytes) (archive : Archive)
    (store : Store) : Prop where
  files : Files config disk log
  config_eq : store.config = config
  path : store.log.path = config.logPath
  expected : store.log.nextOffset = UInt64.ofNat log.length
  indexed : Indexed config log archive store.terms
  linked : Linked config log archive store.links

/-- What can be searched for in a store is what its log holds, wherever its index files are and
whatever its identifiers refer to. -/
structure Searchable (config : Config) (disk : Disk) (log : Bytes) (archive : Archive)
    (store : Store) : Prop where
  config_eq : store.config = config
  contains : disk.Contains store.log.path log
  bounded : log.length ≤ sizeLimit
  indexed : Indexed config log archive store.terms

variable {config : Config} {disk : Disk} {log : Bytes} {archive : Archive} {store : Store}

theorem Searchable.reader_eq_ok (searchable : Searchable config disk log archive store) :
    ∃ reader, store.log.reader disk = .ok reader ∧ reader.Shows log :=
  ContentLog.reader_of_contains searchable.contains searchable.bounded

theorem Coherent.searchable (coherent : Coherent config disk log archive store) :
    Searchable config disk log archive store where
  config_eq := coherent.config_eq
  contains := by
    rw [coherent.path]
    exact coherent.files.contains
  bounded := coherent.files.bounded
  indexed := coherent.indexed

namespace Store

/-- The disk refuses no window that begins within the log of the store or at its end. -/
def ReadsFreely (store : Store) (disk : Disk) : Prop :=
  ∀ reader, store.log.reader disk = .ok reader → reader.ReadsFreely

/-! ### Looking for a record -/

/-- Among records, the first one with the content is found if there is one. -/
theorem firstHolding_spec {reader : LogReader} {log : Bytes} (content : Bytes)
    (shows : reader.Shows log) {candidates : List Offset}
    (known : ∀ offset ∈ candidates, ∃ content, HasRecord log offset content) :
    (∀ offset, firstHolding reader content candidates = .ok (some offset) →
        offset ∈ candidates ∧ HasRecord log offset content) ∧
      (firstHolding reader content candidates = .ok none →
        ∀ offset ∈ candidates, ¬HasRecord log offset content) ∧
      (reader.ReadsFreely → ∃ found, firstHolding reader content candidates = .ok found) := by
  induction candidates with
  | nil => exact ⟨by simp [firstHolding], by simp, fun _ => ⟨none, rfl⟩⟩
  | cons candidate rest ih =>
    obtain ⟨here, later⟩ := List.forall_mem_cons.mp known
    obtain ⟨held, has⟩ := here
    obtain ⟨sound, complete, total⟩ := ih later
    rw [firstHolding, LogReader.readIf_eq shows has]
    cases read : LogReader.outcomeIf candidate held (· == UInt64.ofNat content.length) with
    | error error =>
      refine ⟨by simp, by simp, fun freely => ?_⟩
      have granted := LogReader.readIf_eq_ok shows freely has (· == UInt64.ofNat content.length)
      rw [LogReader.readIf_eq shows has, read] at granted
      simp at granted
    | ok found =>
      have found_eq := LogReader.eq_of_outcomeIf read
      dsimp only
      split
      · next same =>
        -- the content of this record has been compared
        refine ⟨fun offset first => ?_, by simp, fun _ => ⟨_, rfl⟩⟩
        obtain rfl : candidate = offset := by simpa using first
        rw [same] at found_eq
        obtain rfl : content = held := by
          split at found_eq
          · exact Option.some.inj found_eq
          · simp at found_eq
        exact ⟨List.mem_cons_self, has⟩
      · next differs =>
        -- this record has another content, and the search goes on
        refine ⟨fun offset later => ?_, fun none offset member holds => ?_, total⟩
        · obtain ⟨member, holds⟩ := sound offset later
          exact ⟨List.mem_cons_of_mem _ member, holds⟩
        · rcases List.mem_cons.mp member with rfl | others
          · obtain rfl := has.unique holds shows.bounded
            rw [if_pos (beq_self_eq_true _)] at found_eq
            exact differs found_eq
          · exact complete none offset others holds

theorem termsOf_eq {config : Config} {store : Store} (same : store.config = config)
    {string : String} (searches : config.Searches string) :
    store.termsOf string = config.tokenizer.split string := by
  rw [termsOf, isSearchable, same, if_pos (decide_eq_true searches.1)]

theorem termsOf_eq_nil {config : Config} {store : Store} (same : store.config = config)
    {string : String} (ignored : ¬config.Searches string) : store.termsOf string = [] := by
  unfold termsOf isSearchable
  rw [same]
  split
  · next short =>
    by_contra some
    exact ignored ⟨of_decide_eq_true short, some⟩
  · rfl

variable {disk' : Disk} {store' : Store} {id : LinkId} {string : String}

theorem reader_eq_ok (coherent : Coherent config disk log archive store) :
    ∃ reader, store.log.reader disk = .ok reader ∧ reader.Shows log :=
  coherent.searchable.reader_eq_ok

/-- A store without indexes has archived nothing. -/
theorem coherent_unlinked (files : Files config disk log) :
    Coherent config disk log [] (unlinked config log) where
  files := files
  config_eq := rfl
  path := rfl
  expected := rfl
  indexed := Indexed.empty config log
  linked := Linked.empty config log []

/-- What can be searched for is looked for among the records under its first term. -/
theorem existing_eq_firstHolding {reader : LogReader}
    (same : store.config = config) (opened : store.log.reader disk = .ok reader)
    {string first : String} {rest : List String} (searches : config.Searches string)
    (split : config.tokenizer.split string = first :: rest) :
    store.existing disk (store.termsOf string) string =
      firstHolding reader (Text.encode string) (distinct (store.terms.offsetsFor first)) := by
  rw [termsOf_eq same searches, split, existing, List.head?_cons]
  dsimp only [findExact]
  cases distinct (store.terms.offsetsFor first) with
  | nil => rfl
  | cons candidate more =>
    dsimp only
    rw [opened]

/-- The record that is used again is the archived one. If there is none, the string is not archived,
unless it could not be looked for. -/
theorem existing_spec (searchable : Searchable config disk log archive store) (string : String) :
    (∀ offset, store.existing disk (store.termsOf string) string = .ok (some offset) →
        config.Searches string ∧ (offset, string) ∈ archive) ∧
      (store.existing disk (store.termsOf string) string = .ok none → config.Searches string →
        string ∉ archive.map (·.2)) ∧
      (store.ReadsFreely disk →
        ∃ found, store.existing disk (store.termsOf string) string = .ok found) := by
  by_cases searches : config.Searches string
  · obtain ⟨reader, opened, shows⟩ := searchable.reader_eq_ok
    obtain ⟨first, rest, split⟩ := List.exists_cons_of_ne_nil searches.2
    have indexed := searchable.indexed
    -- what stands under the first term has been archived, and an archived string stands there
    have known : ∀ offset ∈ distinct (store.terms.offsetsFor first),
        ∃ other, (offset, other) ∈ archive := by
      intro offset member
      rw [mem_distinct, TermIndex.offsetsFor, Array.mem_toList_iff, indexed.mem_posting] at member
      obtain ⟨other, archived, _⟩ := member
      exact ⟨other, archived⟩
    have found (offset : Offset) (archived : (offset, string) ∈ archive) :
        offset ∈ distinct (store.terms.offsetsFor first) := by
      rw [mem_distinct, TermIndex.offsetsFor, Array.mem_toList_iff]
      exact indexed.mem_posting_of_mem archived (by rw [split]; exact List.mem_cons_self)
    have records : ∀ offset ∈ distinct (store.terms.offsetsFor first),
        ∃ content, HasRecord log offset content := by
      intro offset member
      obtain ⟨other, archived⟩ := known offset member
      exact ⟨_, indexed.stored _ archived⟩
    obtain ⟨sound, complete, total⟩ :=
      firstHolding_spec (Text.encode string) shows records
    rw [existing_eq_firstHolding searchable.config_eq opened searches split]
    refine ⟨fun offset hit => ⟨searches, ?_⟩, fun none _ archived => ?_, fun freely =>
      total (freely reader opened)⟩
    · obtain ⟨member, has⟩ := sound offset hit
      obtain ⟨other, archived⟩ := known offset member
      have same := has.unique (indexed.stored _ archived) searchable.bounded
      rwa [Text.encode_injective same]
    · obtain ⟨⟨offset, _⟩, member, rfl⟩ := List.mem_map.mp archived
      exact complete none offset (found offset member) (indexed.stored _ member)
  · rw [termsOf_eq_nil searchable.config_eq searches]
    exact ⟨by simp [existing], fun _ searched => absurd searched searches, fun _ => ⟨none, rfl⟩⟩

/-! ### Linking -/

/-- What can come of linking. -/
inductive Linking (config : Config) (disk : Disk) (archive : Archive) (store : Store) (id : LinkId)
    (string : String) : Except StoreError Offset → Store → Disk → Prop
  /-- The string is archived, and nothing is written. -/
  | reused {offset : Offset} (archived : (offset, string) ∈ archive) :
      Linking config disk archive store id string (.ok offset)
        { store with links := (store.links.setReference id offset).1 } disk
  /-- The string could not be looked for. -/
  | refused {error : StoreError} (refused : ¬store.ReadsFreely disk) :
      Linking config disk archive store id string (.error error) store disk
  /-- The string is new and has not been written completely. -/
  | broken {error : StoreError} {log' : ContentLog} {disk' : Disk}
      (append : store.log.append (Text.encode string) disk = (.error error, log', disk')) :
      Linking config disk archive store id string (.error error) { store with log := log' } disk'
  /-- The string is new and has been written. -/
  | appended {offset : Offset} {log' : ContentLog} {disk' : Disk}
      (new : config.Searches string → string ∉ archive.map (·.2))
      (append : store.log.append (Text.encode string) disk = (.ok offset, log', disk')) :
      Linking config disk archive store id string (.ok offset)
        { store with
          log := log'
          terms := store.terms.indexTerms (store.termsOf string) offset
          links := (store.links.setReference id offset).1 }
        disk'

/-- Whether the string is archived decides what happens next. -/
theorem link_cases_of_existing {result : Except StoreError Offset}
    (sound : ∀ offset, store.existing disk (store.termsOf string) string = .ok (some offset) →
      (offset, string) ∈ archive)
    (complete : store.existing disk (store.termsOf string) string = .ok none →
      config.Searches string → string ∉ archive.map (·.2))
    (total : store.ReadsFreely disk →
      ∃ found, store.existing disk (store.termsOf string) string = .ok found)
    (linked : store.link id string disk = (result, store', disk')) :
    Linking config disk archive store id string result store' disk' := by
  unfold link at linked
  dsimp only at linked
  cases search : store.existing disk (store.termsOf string) string with
  | error error =>
    rw [search] at linked total
    cases linked
    exact .refused fun freely => by simpa using total freely
  | ok found =>
    rw [search] at linked
    cases found with
    | some offset =>
      cases linked
      exact .reused (sound offset search)
    | none =>
      dsimp only at linked
      split at linked
      · next error log' after append =>
        cases linked
        exact .broken append
      · next offset log' after append =>
        cases linked
        exact .appended (complete search) append

theorem link_cases {result : Except StoreError Offset}
    (coherent : Coherent config disk log archive store)
    (linked : store.link id string disk = (result, store', disk')) :
    Linking config disk archive store id string result store' disk' := by
  obtain ⟨sound, complete, total⟩ := existing_spec coherent.searchable string
  exact link_cases_of_existing (fun offset hit => (sound offset hit).2) complete total linked

/-- An append leaves the log in its place, with a part of the record at its end or all of it. -/
theorem files_appended {result : Except StoreError Offset} {log' : ContentLog} {content : Bytes}
    (coherent : Coherent config disk log archive store)
    (append : store.log.append content disk = (result, log', disk')) :
    ∃ more, Files config disk' (log ++ more) ∧ Keeps [Path.locate config.logPath] disk disk' ∧
      log'.path = config.logPath ∧ log'.nextOffset = UInt64.ofNat (log ++ more).length ∧
      (∀ error, result = .error error → error.isWrite = true) ∧
      ∀ offset, result = .ok offset →
        offset = UInt64.ofNat log.length ∧ more = logRecord content := by
  have contains := coherent.files.contains
  rw [← coherent.path] at contains
  obtain ⟨kept, path, failing, more, _, now, bounded, whole, _, next⟩ :=
    ContentLog.append_spec append contains coherent.files.bounded
  rw [coherent.path] at kept now path
  have expected : log'.nextOffset = UInt64.ofNat (log ++ more).length := by
    rcases next with ⟨rfl, rfl, _⟩ | next
    · rw [List.append_nil, coherent.expected]
    · exact next
  exact ⟨more, coherent.files.grow kept now bounded, kept, path, expected, failing, whole⟩

/-- A string that is appended is archived if it can be searched for, and no other one. -/
theorem indexed_appended (searchable : Searchable config disk log archive store)
    (new : config.Searches string → string ∉ archive.map (·.2)) :
    ∃ larger, archive <+: larger ∧
      Indexed config (log ++ logRecord (Text.encode string)) larger
        (store.terms.indexTerms (store.termsOf string) (UInt64.ofNat log.length)) ∧
      (config.Searches string → (UInt64.ofNat log.length, string) ∈ larger) ∧
      ∀ other, other ∈ larger.map (·.2) ↔
        other ∈ archive.map (·.2) ∨ config.Searches string ∧ other = string := by
  by_cases searches : config.Searches string
  · have added := searchable.indexed.append searchable.bounded searches (new searches)
    rw [← termsOf_eq searchable.config_eq searches] at added
    exact ⟨_, List.prefix_append .., added, fun _ => by simp, fun other => by simp [searches]⟩
  · -- without terms nothing is indexed
    have same : store.terms.indexTerms (store.termsOf string) (UInt64.ofNat log.length) =
        store.terms := by
      rw [termsOf_eq_nil searchable.config_eq searches]
      rfl
    rw [same]
    exact ⟨archive, List.prefix_refl _, searchable.indexed.mono (List.prefix_append ..),
      fun searched => absurd searched searches, fun other => by simp [searches]⟩

end Store

variable {disk' : Disk} {store' : Store} {id : LinkId} {string : String}

/-- What linking a string leaves behind: `more` at the end of the log, and `larger` for an
archive. -/
structure Grown (config : Config) (disk disk' : Disk) (log more : Bytes) (archive larger : Archive)
    (store store' : Store) (id : LinkId) (string : String) (result : Except StoreError Offset) :
    Prop where
  searchable : Searchable config disk' (log ++ more) larger store'
  kept : Keeps [Path.locate store.log.path] disk disk'
  path : store'.log.path = store.log.path
  fewer : archive <+: larger
  /-- The store knows where the log ends, unless nothing has been written. -/
  ends : store'.log.nextOffset = UInt64.ofNat (log ++ more).length ∨
    more = [] ∧ store'.log = store.log ∧ store'.terms = store.terms ∧ larger = archive ∧
      ∀ offset, result = .ok offset → (offset, string) ∈ archive
  ok : ∀ offset, result = .ok offset →
    store'.links = (store.links.setReference id offset).1 ∧
      HasRecord (log ++ more) offset (Text.encode string) ∧
      (config.Searches string → (offset, string) ∈ larger)
  error : ∀ error, result = .error error →
    store'.terms = store.terms ∧ store'.links = store.links ∧
      (store.ReadsFreely disk → error.isWrite = true)
  members : ∀ other, other ∈ larger.map (·.2) ↔
    other ∈ archive.map (·.2) ∨ result.isOk = true ∧ config.Searches string ∧ other = string

/-- Linking keeps what can be searched for, and adds the string if it is new and can be searched
for. -/
theorem Searchable.link {result : Except StoreError Offset}
    (searchable : Searchable config disk log archive store)
    (linked : store.link id string disk = (result, store', disk')) :
    ∃ more larger,
      Grown config disk disk' log more archive larger store store' id string result := by
  obtain ⟨sound, complete, total⟩ := Store.existing_spec searchable string
  have outcome :=
    Store.link_cases_of_existing (fun offset hit => (sound offset hit).2) complete total linked
  cases outcome with
  | @reused offset archived =>
    have has : HasRecord log offset (Text.encode string) :=
      searchable.indexed.stored (offset, string) archived
    have stored : string ∈ archive.map (·.2) := List.mem_map_of_mem archived
    refine ⟨[], archive, ?_, .refl .., rfl, List.prefix_refl _, .inr ⟨rfl, rfl, rfl, rfl, ?_⟩, ?_,
      by simp, fun other => ?_⟩
    · rw [List.append_nil]
      exact { searchable with }
    · intro place same
      cases same
      exact archived
    · intro place same
      cases same
      rw [List.append_nil]
      exact ⟨rfl, has, fun _ => archived⟩
    · constructor
      · exact .inl
      · rintro (old | ⟨_, _, rfl⟩)
        · exact old
        · exact stored
  | refused refused =>
    refine ⟨[], archive, by rwa [List.append_nil], .refl .., rfl, List.prefix_refl _,
      .inr ⟨rfl, rfl, rfl, rfl, by simp⟩, by simp, ?_,
      fun other => by simp [Except.isOk, Except.toBool]⟩
    intro error _
    exact ⟨rfl, rfl, fun freely => absurd freely refused⟩
  | @broken error log' disk' append =>
    -- nothing refers to the part of the record that may have been written
    obtain ⟨kept, path, failing, more, _, now, bounded, _, _, next⟩ :=
      ContentLog.append_spec append searchable.contains searchable.bounded
    refine ⟨more, archive, ?_, kept, path, List.prefix_refl _, ?_, by simp, ?_,
      fun other => by simp [Except.isOk, Except.toBool]⟩
    · rw [← path] at now
      exact ⟨searchable.config_eq, now, bounded, searchable.indexed.mono (List.prefix_append ..)⟩
    · rcases next with ⟨none, same, _⟩ | ends
      · exact .inr ⟨none, same, rfl, rfl, by simp⟩
      · exact .inl ends
    · intro other same
      cases same
      exact ⟨rfl, rfl, fun _ => failing _ rfl⟩
  | @appended offset log' disk' new append =>
    obtain ⟨kept, path, _, more, _, now, bounded, whole, _, next⟩ :=
      ContentLog.append_spec append searchable.contains searchable.bounded
    obtain ⟨rfl, rfl⟩ := whole offset rfl
    have has := HasRecord.append log (Text.encode string) (Disk.size_lt searchable.bounded)
    obtain ⟨larger, fewer, indexed, archived, members⟩ := Store.indexed_appended searchable new
    refine ⟨logRecord (Text.encode string), larger, ?_, kept, path, fewer, ?_, ?_, by simp,
      fun other => ?_⟩
    · rw [← path] at now
      exact ⟨searchable.config_eq, now, bounded, indexed⟩
    · rcases next with ⟨_, _, _, refused⟩ | ends
      · cases refused
      · exact .inl ends
    · intro place same
      cases same
      exact ⟨rfl, has, archived⟩
    · rw [members]
      simp [Except.isOk, Except.toBool]

namespace Grown

variable {more : Bytes} {larger : Archive} {result : Except StoreError Offset}
  (grown : Grown config disk disk' log more archive larger store store' id string result)

include grown

/-- The identifiers refer to strings of the log as they did before. -/
theorem linked (linked : Linked config log archive store.links) :
    Linked config (log ++ more) larger store'.links := by
  have kept := linked.mono (List.prefix_append log more) grown.fewer.subset
  cases result with
  | ok offset =>
    obtain ⟨links, has, archived⟩ := grown.ok offset rfl
    rw [links]
    exact kept.setReference id has archived
  | error error =>
    obtain ⟨_, links, _⟩ := grown.error error rfl
    rwa [links]

theorem files (files : Files config disk log) (path : store.log.path = config.logPath) :
    Files config disk' (log ++ more) := by
  have kept := grown.kept
  have contains := grown.searchable.contains
  rw [path] at kept
  rw [grown.path, path] at contains
  exact files.grow kept contains grown.searchable.bounded

end Grown

namespace Store

/-- Linking leaves the store coherent with its log, which has only grown. -/
theorem link_spec {result : Except StoreError Offset}
    (coherent : Coherent config disk log archive store)
    (linked : store.link id string disk = (result, store', disk')) :
    ∃ more larger, Coherent config disk' (log ++ more) larger store' ∧ archive <+: larger ∧
      Keeps [Path.locate config.logPath] disk disk' ∧
      (∀ offset, result = .ok offset →
        store'.links = (store.links.setReference id offset).1 ∧
          HasRecord (log ++ more) offset (Text.encode string) ∧
          (config.Searches string → (offset, string) ∈ larger)) ∧
      ∀ error, result = .error error →
        store'.terms = store.terms ∧ store'.links = store.links ∧
          (store.ReadsFreely disk → error.isWrite = true) := by
  obtain ⟨more, larger, grown⟩ := coherent.searchable.link linked
  have kept := grown.kept
  rw [coherent.path] at kept
  refine ⟨more, larger, ?_, grown.fewer, kept, grown.ok, grown.error⟩
  exact {
    files := grown.files coherent.files coherent.path
    config_eq := grown.searchable.config_eq
    path := grown.path.trans coherent.path
    expected := by
      rcases grown.ends with ends | ⟨rfl, same, _⟩
      · exact ends
      · rw [same, List.append_nil, coherent.expected]
    indexed := grown.searchable.indexed
    linked := grown.linked coherent.linked }

end Store

end Concordance
