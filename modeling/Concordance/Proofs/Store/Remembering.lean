import Concordance.Proofs.Store.Together
import Concordance.Proofs.Store.Verifying

/-!
# Strings that have been linked

Queries for strings do not ask whether anybody refers to a string. They report whatever has ever
been linked and can be searched for: a record stays where it is when an identifier moves on to
another string, a string that is linked again keeps its only record, and a call that fails leaves
nothing behind that is indexed. So what a query reports only grows, and it holds the string of every
identifier that the same query finds. If the log reaches so far that the disk has no room for a
window behind its end, a query may be refused; one that is not refused leaves nothing out.
-/
namespace Concordance

open Disk (sizeLimit)

namespace Matching

variable {how : Matching} {content query : String}

/-- A string that is a query contains it. -/
theorem substring_of_holds (holds : how.Holds content query) :
    Matching.substring.Holds content query := by
  cases how with
  | exact =>
    obtain rfl : content = query := holds
    exact List.infix_refl _
  | substring => exact holds

theorem substring_of_reaches {tokenizer : Tokenizer}
    (reaches : how.Reaches tokenizer query content) :
    Matching.substring.Reaches tokenizer query content := by
  cases how with
  | exact =>
    obtain ⟨first, head, term, has, same⟩ := reaches
    obtain rfl : term = first := same
    exact ⟨term, head, term, has, List.prefix_refl _⟩
  | substring => exact reaches

end Matching

namespace Store

/-- What the queries for strings report after some calls of `link`. -/
structure Remembers (config : Config) (calls : List LinkCall) (store : Store) (disk : Disk) :
    Prop where
  /-- A query finds the strings that one of the calls has linked, that are short enough, contain the
  query and have a term that begins with the query's first term. -/
  stringsFor : ∀ query found, store.stringsFor disk query = .ok found → ∀ string,
    string ∈ found ↔ (∃ call ∈ calls, call.string = string ∧ call.result.isOk = true) ∧
      Text.size string < config.threshold.toNat ∧ query.toList <:+: string.toList ∧
        ∃ first, config.tokenizer.firstTerm? query = some first ∧
          ∃ term ∈ config.tokenizer.split string, first.toList <+: term.toList
  /-- A query for terms finds the strings that one of the calls has linked, that are short enough
  and have what is asked. -/
  stringsForTerms : ∀ terms mode found, store.stringsForTerms disk terms mode = .ok found →
    ∀ string, string ∈ found ↔ (∃ call ∈ calls, call.string = string ∧ call.result.isOk = true) ∧
      Text.size string < config.threshold.toNat ∧
        mode.Asks terms fun term => term ∈ config.tokenizer.split string
  /-- The string of an identifier is what has been linked to it last. -/
  stringFor : ∀ id string, store.stringFor disk id = .ok string →
    LinkCall.last? calls id = some string
  /-- A query finds the string of each identifier that is found for it. -/
  identifiersFor : ∀ query how ids found, store.identifiersFor disk query how = .ok ids →
    store.stringsFor disk query = .ok found → ∀ id ∈ ids,
      ∃ string ∈ found, LinkCall.last? calls id = some string
  /-- A query for terms does so as well. -/
  identifiersForTerms : ∀ terms mode found, store.stringsForTerms disk terms mode = .ok found →
    ∀ id ∈ store.identifiersForTerms terms mode,
      ∃ string ∈ found, LinkCall.last? calls id = some string
  /-- Nothing but the disk can refuse a query. -/
  refused : ∀ query error, store.stringsFor disk query = .error error → store.Denies disk error
  refusedForTerms : ∀ terms mode error, store.stringsForTerms disk terms mode = .error error →
    store.Denies disk error

/-- Whatever a store reports another one reports as well, unless it is refused. -/
structure ReportsMore (store : Store) (disk : Disk) (later : Store) (laterDisk : Disk) : Prop where
  stringsFor : ∀ query found more, store.stringsFor disk query = .ok found →
    later.stringsFor laterDisk query = .ok more → ∀ string ∈ found, string ∈ more
  stringsForTerms : ∀ terms mode found more, store.stringsForTerms disk terms mode = .ok found →
    later.stringsForTerms laterDisk terms mode = .ok more → ∀ string ∈ found, string ∈ more

/-- After further calls everything is reported that was reported before. -/
theorem Remembers.reportsMore {config : Config} {calls more : List LinkCall} {store later : Store}
    {disk laterDisk : Disk} (now : Remembers config calls store disk)
    (afterwards : Remembers config (more ++ calls) later laterDisk) :
    ReportsMore store disk later laterDisk where
  stringsFor query found found' same same' string member := by
    obtain ⟨⟨call, called, linked⟩, fits⟩ := (now.stringsFor query found same string).mp member
    have still : call ∈ more ++ calls := List.mem_append_right more called
    exact (afterwards.stringsFor query found' same' string).mpr ⟨⟨call, still, linked⟩, fits⟩
  stringsForTerms terms mode found found' same same' string member := by
    obtain ⟨⟨call, called, linked⟩, asks⟩ :=
      (now.stringsForTerms terms mode found same string).mp member
    have still : call ∈ more ++ calls := List.mem_append_right more called
    exact (afterwards.stringsForTerms terms mode found' same' string).mpr
      ⟨⟨call, still, linked⟩, asks⟩

end Store

/-- The archive holds what the calls have stored, and the identifiers refer to what they say. -/
structure Remembering (config : Config) (disk : Disk) (log : Bytes) (archive : Archive)
    (calls : List LinkCall) (store : Store) : Prop
    extends Searchable config disk log archive store where
  linked : Linked config log archive store.links
  follows : Store.Follows log LinkIndex.empty calls store.links
  stored : ∀ string, string ∈ archive.map (·.2) ↔ LinkCall.Stored config calls string

namespace Remembering

variable {config : Config} {before disk disk' : Disk} {log : Bytes} {archive : Archive}
  {store store' : Store} {calls : List LinkCall}

/-- A store that has just been opened without reading indexes has nothing to remember, whatever its
log holds. -/
theorem start (opened : Store.openEmpty config before = (.ok store, disk))
    (bounded : ∀ log, disk.Contains config.logPath log → log.length ≤ sizeLimit) :
    ∃ log, Remembering config disk log [] [] store := by
  obtain ⟨_, _, _, log, contains, rfl⟩ := Store.openEmpty_ok opened
  exact ⟨log, {
    config_eq := rfl
    contains := contains
    bounded := bounded log contains
    indexed := .empty config log
    linked := .empty config log []
    follows := .start log LinkIndex.empty
    stored := by simp [LinkCall.Stored] }⟩

/-- A call is remembered as well, whatever comes of it. -/
theorem link {id : LinkId} {string : String} {result : Except StoreError Offset}
    (remembering : Remembering config disk log archive calls store)
    (linked : store.link id string disk = (result, store', disk')) :
    ∃ more larger,
      Remembering config disk' (log ++ more) larger (⟨id, string, result⟩ :: calls) store' := by
  obtain ⟨more, larger, grown⟩ := remembering.toSearchable.link linked
  have older := List.prefix_append log more
  refine ⟨more, larger, {
    toSearchable := grown.searchable
    linked := grown.linked remembering.linked
    follows := ?_
    stored := fun other => ?_ }⟩
  · refine remembering.follows.call older (fun offset ok => ?_) fun error failed =>
      (grown.error error failed).2.1
    obtain ⟨links, has, _⟩ := grown.ok offset ok
    exact ⟨links, has⟩
  · rw [grown.members, remembering.stored, LinkCall.stored_cons]

/-- Further calls are remembered together with those before. -/
theorem run {later : List LinkCall} (remembering : Remembering config disk log archive calls store)
    (run : Store.Links store disk later store' disk') :
    ∃ longer larger, Remembering config disk' longer larger (later ++ calls) store' := by
  -- the last call comes first in the list, so those before it are the induction hypothesis
  induction run with
  | start => exact ⟨log, archive, remembering⟩
  | call _ linked ih =>
    obtain ⟨longer, larger, middle⟩ := ih
    obtain ⟨more, largest, last⟩ := middle.link linked
    exact ⟨longer ++ more, largest, last⟩

/-! ### What is reported -/

variable (remembering : Remembering config disk log archive calls store)

include remembering

/-- What an identifier refers to is the record of the string that has been linked to it last. -/
theorem last?_of_refers {id : LinkId} {offset : Offset} {string : String}
    (refers : store.links.referenceOf? id = some offset)
    (has : HasRecord log offset (Text.encode string)) :
    LinkCall.last? calls id = some string := by
  cases last : LinkCall.last? calls id with
  | none =>
    -- an identifier that no call has linked refers to nothing
    have none := remembering.follows.unlinked id last
    rw [refers] at none
    simp [LinkIndex.empty, LinkIndex.referenceOf?] at none
  | some other =>
    obtain ⟨place, found, has'⟩ := remembering.follows.linked id other last
    rw [refers] at found
    obtain rfl := Option.some.inj found
    rw [remembering.toSearchable.string_unique has has']

theorem last?_of_stringFor {id : LinkId} {string : String}
    (current : store.stringFor disk id = .ok string) :
    LinkCall.last? calls id = some string := by
  obtain ⟨reader, opened, shows⟩ := remembering.toSearchable.reader_eq_ok
  unfold Store.stringFor Store.getString ContentLog.readString at current
  cases refers : store.links.referenceOf? id with
  | none =>
    rw [refers] at current
    cases current
  | some offset =>
    obtain ⟨held, has, _⟩ := remembering.linked.stored id offset refers
    rw [refers, opened] at current
    cases read : reader.readString offset with
    | error error =>
      simp [read, Except.map] at current
    | ok text =>
      obtain rfl := LogReader.eq_of_readString shows has read
      simp only [read, Except.map, Except.ok.injEq] at current
      rw [← current]
      exact remembering.last?_of_refers refers has

/-- Whoever refers to an archived string has been linked to it last. -/
theorem last?_of_owner {offsets : List Offset} {found : String → Prop}
    (listed : ∀ offset ∈ offsets, ∃ string, (offset, string) ∈ archive ∧ found string)
    {id : LinkId} (owner : id ∈ store.ownersOfAll offsets) :
    ∃ string, string ∈ archive.map (·.2) ∧ found string ∧
      LinkCall.last? calls id = some string := by
  obtain ⟨offset, member, refers⟩ := (Store.mem_ownersOfAll remembering.linked.sound).mp owner
  obtain ⟨string, archived, good⟩ := listed offset member
  have has := remembering.toSearchable.hasRecord archived
  exact ⟨string, List.mem_map_of_mem archived, good, remembering.last?_of_refers refers has⟩

/-- If only strings with terms are asked for, those of the archive are the ones that have been
linked and are short enough. -/
theorem stored_iff {string : String} {asked : Prop}
    (termed : asked → config.tokenizer.split string ≠ []) :
    string ∈ archive.map (·.2) ∧ asked ↔
      (∃ call ∈ calls, call.string = string ∧ call.result.isOk = true) ∧
        Text.size string < config.threshold.toNat ∧ asked := by
  rw [remembering.stored]
  constructor
  · rintro ⟨⟨⟨short, _⟩, linked⟩, asked⟩
    exact ⟨linked, short, asked⟩
  · rintro ⟨linked, short, asked⟩
    exact ⟨⟨⟨short, termed asked⟩, linked⟩, asked⟩

theorem remembers : Store.Remembers config calls store disk where
  stringsFor query found same string := by
    rw [Store.mem_stringsFor remembering.toSearchable same]
    refine remembering.stored_iff ?_
    -- a string that is reached has the term under which it is reached
    rintro ⟨_, _, _, term, has, _⟩
    exact List.ne_nil_of_mem has
  stringsForTerms terms mode found same string := by
    rw [Store.mem_stringsForTerms remembering.toSearchable same]
    refine remembering.stored_iff fun asked => ?_
    obtain ⟨_, _, has⟩ := asked.exists_mem
    exact List.ne_nil_of_mem has
  stringFor id string := remembering.last?_of_stringFor
  identifiersFor query how ids found listed same id member := by
    have searchable := remembering.toSearchable
    unfold Store.identifiersFor at listed
    split at listed
    · cases listed
    · next verified listing =>
      cases listed
      have known : ∀ offset ∈ verified.map (·.1), ∃ string, (offset, string) ∈ archive ∧
          how.Holds string query ∧ how.Reaches config.tokenizer query string := by
        intro offset inside
        obtain ⟨⟨_, content⟩, entry, rfl⟩ := List.mem_map.mp inside
        exact ⟨content, (Store.mem_verifiedCandidates searchable listing).mp entry⟩
      obtain ⟨string, stored, ⟨holds, reaches⟩, last⟩ := remembering.last?_of_owner known member
      refine ⟨string, (Store.mem_stringsFor searchable same).mpr ⟨stored, ?_, ?_⟩, last⟩
      · exact Matching.substring_of_holds holds
      · exact Matching.substring_of_reaches reaches
  identifiersForTerms terms mode found same id member := by
    have searchable := remembering.toSearchable
    have listed : ∀ offset ∈ (store.offsetsForTerms terms mode).toList, ∃ string,
        (offset, string) ∈ archive ∧
          mode.Asks terms fun term => term ∈ config.tokenizer.split string := by
      intro offset inside
      rw [Std.TreeSet.mem_toList] at inside
      exact (Store.mem_offsetsForTerms_archived searchable).mp inside
    obtain ⟨string, stored, asks, last⟩ := remembering.last?_of_owner listed member
    exact ⟨string, (Store.mem_stringsForTerms searchable same).mpr ⟨stored, asks⟩, last⟩
  refused query error := Store.denies_of_stringsFor remembering.toSearchable
  refusedForTerms terms mode error := Store.denies_of_stringsForTerms remembering.toSearchable

end Remembering

namespace Store

variable {config : Config} {before disk disk' : Disk} {store store' : Store}
  {calls : List LinkCall}

/-- After any calls of `link`, failed ones included, the queries for strings report the strings that
have been linked at some time and that match, whether anybody refers to them or not. So they report
ever more, and the string of each identifier that is found for the same query. They are refused only
if the disk has no room for a window behind the end of the log. -/
theorem strings_remembered (opened : openEmpty config before = (.ok store, disk))
    (bounded : ∀ log, disk.Contains config.logPath log → log.length ≤ sizeLimit)
    (run : Links store disk calls store' disk') :
    Remembers config calls store' disk' ∧
      (store'.ReadsFreely disk' →
        (∀ query, ∃ found, store'.stringsFor disk' query = .ok found) ∧
          ∀ terms mode, ∃ found, store'.stringsForTerms disk' terms mode = .ok found) ∧
      ∀ more later laterDisk, Links store' disk' more later laterDisk →
        ReportsMore store' disk' later laterDisk := by
  obtain ⟨log, started⟩ := Remembering.start opened bounded
  obtain ⟨longer, archive, now⟩ := started.run run
  rw [List.append_nil] at now
  refine ⟨now.remembers, fun freely => ⟨fun query => ?_, fun terms mode => ?_⟩, ?_⟩
  · obtain ⟨found, answered, _⟩ := stringsFor_spec now.toSearchable freely query
    exact ⟨found, answered⟩
  · obtain ⟨found, answered, _⟩ := stringsForTerms_spec now.toSearchable freely terms mode
    exact ⟨found, answered⟩
  · intro more later laterDisk further
    obtain ⟨_, _, afterwards⟩ := now.run further
    exact now.remembers.reportsMore afterwards.remembers

/-- A string that nobody refers to any more is still found, and one that has not been written is
not. -/
theorem strings_remembered_of_sample :
    sampleLeft.2.1.ownersOf 0 = [] ∧
      (∃ found, sampleLeft.2.1.stringsFor sampleLeft.2.2 "ab c" = .ok found ∧
        "ab cd" ∈ found ∧ "cd ab" ∉ found) ∧
      (∃ found, sampleLeft.2.1.stringsForTerms sampleLeft.2.2 ["ef", "cd"] .or = .ok found ∧
        "ab cd" ∈ found ∧ "ef" ∉ found) ∧
      ReportsMore sampleSecond.2.1 sampleSecond.2.2 sampleLeft.2.1 sampleLeft.2.2 := by
  have opened : openEmpty sampleConfig { Disk.empty with faults := none :: sampleDisk.faults } =
      (.ok (unlinked sampleConfig []), sampleDisk) := rfl
  have bounded := openedFresh_sample.bounded
  let first : List LinkCall := [⟨2, "ef", sampleSecond.1⟩, ⟨1, "ab cd", sampleFirst.1⟩]
  let later : List LinkCall :=
    [⟨2, "cd ab", sampleLeft.1⟩, ⟨1, "cd ab", sampleMoved.1⟩, ⟨2, "ab cd", sampleReused.1⟩]
  have second : Links (unlinked sampleConfig []) sampleDisk first sampleSecond.2.1
      sampleSecond.2.2 := .call (.call .start rfl) rfl
  have reused : sampleSecond.2.1.link 2 "ab cd" sampleSecond.2.2 =
      (sampleReused.1, sampleReused.2.1, sampleReused.2.2) := by rw [sampleReused]
  have moved : sampleReused.2.1.link 1 "cd ab" sampleReused.2.2 =
      (sampleMoved.1, sampleMoved.2.1, sampleMoved.2.2) := by rw [sampleMoved]
  have left : sampleMoved.2.1.link 2 "cd ab" sampleMoved.2.2 =
      (sampleLeft.1, sampleLeft.2.1, sampleLeft.2.2) := by rw [sampleLeft]
  have further : Links sampleSecond.2.1 sampleSecond.2.2 later sampleLeft.2.1 sampleLeft.2.2 :=
    .call (.call (.call .start reused) moved) left
  have run : Links (unlinked sampleConfig []) sampleDisk (later ++ first) sampleLeft.2.1
      sampleLeft.2.2 := .call (.call (.call second reused) moved) left
  have freely : sampleLeft.2.1.ReadsFreely sampleLeft.2.2 :=
    readsFreely_of_logEnd 29 (by decide +kernel) (by decide)
  obtain ⟨_, _, grows⟩ := strings_remembered opened bounded second
  obtain ⟨remembers, answered, _⟩ := strings_remembered opened bounded run
  obtain ⟨strings, terms⟩ := answered freely
  obtain ⟨found, same⟩ := strings "ab c"
  obtain ⟨termed, termed_same⟩ := terms ["ef", "cd"] .or
  have unwritten : ¬∃ call ∈ later ++ first, call.string = "ef" ∧ call.result.isOk = true := by
    decide +kernel
  refine ⟨by decide +kernel, ⟨found, same, ?_, fun member => ?_⟩,
    ⟨termed, termed_same, ?_, fun member => ?_⟩, grows _ _ _ further⟩
  · exact (remembers.stringsFor _ _ same "ab cd").mpr (by decide +kernel)
  · obtain ⟨_, _, contains, _⟩ := (remembers.stringsFor _ _ same "cd ab").mp member
    exact absurd contains (by decide)
  · exact (remembers.stringsForTerms _ _ _ termed_same "ab cd").mpr
      ⟨by decide +kernel, by decide +kernel, "cd", by decide, by decide +kernel⟩
  · exact unwritten ((remembers.stringsForTerms _ _ _ termed_same "ef").mp member).1

/-- A disk with an empty file that reaches almost as far as a file can. -/
def distantDisk : Disk :=
  { Disk.empty.put ["strings"] (.file 0 ⟨[.hole farOffset.toNat]⟩) with made := 1 }

/-- The store that is opened there. -/
def distantStore : Store :=
  { unlinked sampleConfig [] with log := ⟨sampleConfig.logPath, farOffset⟩ }

/-- The only call, which writes the last record for which there is room. -/
def distantLinked : Except StoreError Offset × Store × Disk :=
  distantStore.link 1 "ab" distantDisk

/-- A string that has been linked is not found, since the disk refuses to have it read. -/
theorem strings_refused :
    openEmpty sampleConfig distantDisk = (.ok distantStore, distantDisk) ∧
      Links distantStore distantDisk [⟨1, "ab", .ok farOffset⟩] distantLinked.2.1
        distantLinked.2.2 ∧
      (distantLinked.2.1.stringsFor distantLinked.2.2 "ab").map (·.toList) =
        .error (.read .stringSize .invalidArgument) ∧
      ∀ mode, (distantLinked.2.1.stringsForTerms distantLinked.2.2 ["ab"] mode).map (·.toList) =
        .error (.read .stringSize .invalidArgument) := by
  have opened : openEmpty sampleConfig distantDisk = (.ok distantStore, distantDisk) := rfl
  have linked : distantStore.link 1 "ab" distantDisk =
      (.ok farOffset, distantLinked.2.1, distantLinked.2.2) := Prod.ext (by decide +kernel) rfl
  refine ⟨opened, .call .start linked, by decide +kernel, fun mode => ?_⟩
  cases mode <;> decide +kernel

end Store

end Concordance
