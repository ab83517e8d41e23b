import Concordance.Proofs.Store.Replies
import Concordance.Proofs.Store.Session

/-!
# A store that is behind its log

When others append to a log as well, a store does not know where the log ends, and its indexes hold
only a part of what the log holds. It is as good as one that knows: looking up and linking never ask
where the store expects the end, and all that it has indexed lies before that. So what it saves can
be loaded, however far the log has grown.
-/
namespace Concordance

open Disk (Keeps sizeLimit)

namespace Store

/-- The store, expecting another end of the log. -/
def withEnd (store : Store) (offset : Offset) : Store :=
  { store with log := { store.log with nextOffset := offset } }

/-! No query asks where the store expects the end. -/

section Queries

variable {store other : Store} {disk otherDisk : Disk}

@[simp]
theorem offsetsForMore_withEnd (store : Store) (offset : Offset) (mode : TermMode)
    (found : Std.TreeSet Offset) (terms : List String) :
    (store.withEnd offset).offsetsForMore mode found terms =
      store.offsetsForMore mode found terms := by
  induction terms generalizing found with
  | nil => rfl
  | cons term rest ih =>
    rw [offsetsForMore, offsetsForMore, ih]
    rfl

@[simp]
theorem offsetsForTerms_withEnd (store : Store) (offset : Offset) (terms : List String)
    (mode : TermMode) :
    (store.withEnd offset).offsetsForTerms terms mode = store.offsetsForTerms terms mode := by
  cases terms with
  | nil => rfl
  | cons term rest => exact offsetsForMore_withEnd ..

@[simp]
theorem identifiersForTerms_withEnd (store : Store) (offset : Offset) (terms : List String)
    (mode : TermMode) :
    (store.withEnd offset).identifiersForTerms terms mode =
      store.identifiersForTerms terms mode := by
  rw [identifiersForTerms, offsetsForTerms_withEnd]
  rfl

@[simp]
theorem stringsForTerms_withEnd (store : Store) (offset : Offset) (disk : Disk)
    (terms : List String) (mode : TermMode) :
    (store.withEnd offset).stringsForTerms disk terms mode =
      store.stringsForTerms disk terms mode := by
  rw [stringsForTerms, offsetsForTerms_withEnd]
  rfl

theorem sameAnswers_of_withEnd {offset : Offset}
    (answers : SameAnswers (store.withEnd offset) disk other otherDisk) :
    SameAnswers store disk other otherDisk :=
  { answers with
    identifiersForTerms := by simpa using answers.identifiersForTerms
    stringsForTerms := by simpa using answers.stringsForTerms }

theorem sameReplies_of_withEnd {offset otherOffset : Offset}
    (replies : SameReplies (store.withEnd offset) disk (other.withEnd otherOffset) otherDisk) :
    SameReplies store disk other otherDisk :=
  { replies with
    identifiersForTerms := by simpa using replies.identifiersForTerms
    stringsForTerms := by simpa using replies.stringsForTerms }

end Queries

end Store

/-- All that the store has indexed was in the log when it ended where the store expects it to end,
and the log has only grown since. -/
structure Behind (config : Config) (log : Bytes) (archive : Archive) (store : Store) : Prop where
  config_eq : store.config = config
  path : store.log.path = config.logPath
  held : ∃ before, before <+: log ∧ store.log.nextOffset = UInt64.ofNat before.length ∧
    Indexed config before archive store.terms ∧ Linked config before archive store.links

namespace Behind

variable {config : Config} {disk disk' after : Disk} {log longer : Bytes} {archive : Archive}
  {store store' : Store} {id : LinkId} {string : String}

theorem of_coherent (coherent : Coherent config disk log archive store) :
    Behind config log archive store :=
  ⟨coherent.config_eq, coherent.path, log, List.prefix_refl _, coherent.expected,
    coherent.indexed, coherent.linked⟩

theorem mono (behind : Behind config log archive store) (grown : log <+: longer) :
    Behind config longer archive store := by
  obtain ⟨config_eq, path, before, older, expected, indexed, linked⟩ := behind
  exact ⟨config_eq, path, before, older.trans grown, expected, indexed, linked⟩

/-- If it knew where the log ends, the store would be coherent with it. -/
theorem coherent (behind : Behind config log archive store) (files : Files config disk log) :
    Coherent config disk log archive (store.withEnd (UInt64.ofNat log.length)) := by
  obtain ⟨config_eq, path, before, older, _, indexed, linked⟩ := behind
  exact ⟨files, config_eq, path, rfl, indexed.mono older,
    linked.mono older (List.Subset.refl _)⟩

/-- What happens when the store links a string is settled by its archive. -/
theorem link_cases {result : Except StoreError Offset} (behind : Behind config log archive store)
    (files : Files config disk log)
    (linked : store.link id string disk = (result, store', disk')) :
    Store.Linking config disk archive store id string result store' disk' := by
  -- looking for a record does not ask where the store expects the log to end
  obtain ⟨sound, complete, total⟩ := Store.existing_spec (behind.coherent files).searchable string
  exact Store.link_cases_of_existing (fun offset hit => (sound offset hit).2) complete total linked

/-- An append grows the log. Afterwards the store knows where the log ends, unless it could not be
opened. -/
theorem appended {result : Except StoreError Offset} {log' : ContentLog} {content : Bytes}
    (behind : Behind config log archive store) (files : Files config disk log)
    (append : store.log.append content disk = (result, log', disk')) :
    ∃ more, Files config disk' (log ++ more) ∧ Keeps [Path.locate config.logPath] disk disk' ∧
      log'.path = config.logPath ∧
      (log' = store.log ∨ log'.nextOffset = UInt64.ofNat (log ++ more).length) ∧
      ∀ offset, result = .ok offset →
        offset = UInt64.ofNat log.length ∧ more = logRecord content ∧
          log'.nextOffset = UInt64.ofNat (log ++ more).length := by
  have contains := files.contains
  rw [← behind.path] at contains
  obtain ⟨kept, path, _, more, _, now, bounded, whole, _, next⟩ :=
    ContentLog.append_spec append contains files.bounded
  rw [behind.path] at kept now path
  refine ⟨more, files.grow kept now bounded, kept, path, ?_, fun offset ok => ?_⟩
  · rcases next with ⟨_, same, _⟩ | expected
    · exact .inl same
    · exact .inr expected
  · obtain ⟨at_end, record⟩ := whole offset ok
    rcases next with ⟨_, _, _, refused⟩ | expected
    · rw [ok] at refused
      cases refused
    · exact ⟨at_end, record, expected⟩

/-- Linking keeps the store behind its log, which grows, and archives the string if it is new and
can be searched for. -/
theorem link {result : Except StoreError Offset} (behind : Behind config log archive store)
    (files : Files config disk log)
    (linked : store.link id string disk = (result, store', disk')) :
    ∃ more larger, Files config disk' (log ++ more) ∧ Behind config (log ++ more) larger store' ∧
      Keeps [Path.locate config.logPath] disk disk' ∧
      (∀ offset, result = .ok offset →
        store'.links = (store.links.setReference id offset).1 ∧
          HasRecord (log ++ more) offset (Text.encode string)) ∧
      (∀ error, result = .error error → store'.links = store.links) ∧
      ∀ other, other ∈ larger.map (·.2) ↔
        other ∈ archive.map (·.2) ∨
          result.isOk = true ∧ config.Searches string ∧ other = string := by
  have coherent := behind.coherent files
  have searchable : Searchable config disk log archive store := { coherent.searchable with }
  obtain ⟨more, larger, grown⟩ := searchable.link linked
  obtain ⟨before, older, expected, indexed, linked_before⟩ := behind.held
  have kept := grown.kept
  rw [behind.path] at kept
  refine ⟨more, larger, grown.files files behind.path, ?_, kept, ?_, ?_, grown.members⟩
  · refine ⟨grown.searchable.config_eq, grown.path.trans behind.path, ?_⟩
    rcases grown.ends with ends | ⟨rfl, same_log, same_terms, rfl, reused⟩
    · exact ⟨_, List.prefix_refl _, ends, grown.searchable.indexed, grown.linked coherent.linked⟩
    · -- what is used again was in the log at the time that the store knows of
      rw [same_log, same_terms, List.append_nil]
      refine ⟨before, older, expected, indexed, ?_⟩
      cases result with
      | ok offset =>
        have archived := reused offset rfl
        rw [(grown.ok offset rfl).1]
        exact linked_before.setReference id (indexed.stored _ archived) fun _ => archived
      | error error =>
        rw [(grown.error error rfl).2.1]
        exact linked_before
  · intro offset ok
    obtain ⟨links, has, _⟩ := grown.ok offset ok
    exact ⟨links, has⟩
  · intro error failed
    exact (grown.error error failed).2.1

/-- What the store saves is a snapshot, taken when the log ended where the store expects it. -/
theorem save (behind : Behind config log archive store) (files : Files config disk log)
    (written : store.save disk = (.ok (), after)) :
    Files config after log ∧ Disk.SameAt config.logPath disk after ∧
      ∃ before, before <+: log ∧ Snapshot config after before archive store.terms store.links := by
  obtain ⟨config_eq, _, before, older, expected, indexed, linked⟩ := behind
  unfold Store.save at written
  rw [config_eq, expected] at written
  obtain ⟨files', same⟩ := files.save written
  cases Config.save_cases files.indexes_apart written with
  | both terms links =>
    exact ⟨files', same, before, older, ⟨_, terms.1, TermFile.decode_encode terms.2⟩,
      ⟨_, links.1, LinkFile.decode_encode links.2⟩, indexed, linked⟩

end Behind

end Concordance
