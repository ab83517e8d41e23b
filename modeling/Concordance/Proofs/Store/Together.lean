import Concordance.Proofs.Store.Granted
import Mathlib.Logic.Relation

/-!
# Several stores on one log

Stores that are opened one after the other with one configuration share a log and the index files,
and nothing else. Each of them indexes what it has found saved when it was opened and what has been
linked through it since, and does not know of the records of the others. They do not matter to it:
records stay where they are, and whatever a store indexes lies before the end that it saves.
-/
namespace Concordance

open Disk (Keeps)

namespace LinkCall

/-- What has been asked for, and whether it has succeeded. -/
def outcome (call : LinkCall) : LinkId × String × Bool :=
  (call.id, call.string, call.result.isOk)

/-- A string that can be searched for has been linked by one of the calls. -/
def Stored (config : Config) (calls : List LinkCall) (string : String) : Prop :=
  config.Searches string ∧ ∃ call ∈ calls, call.string = string ∧ call.result.isOk = true

theorem stored_cons {config : Config} {calls : List LinkCall} {id : LinkId} {string other : String}
    {result : Except StoreError Offset} :
    Stored config (⟨id, string, result⟩ :: calls) other ↔
      Stored config calls other ∨
        result.isOk = true ∧ config.Searches string ∧ other = string := by
  simp only [Stored, List.exists_mem_cons_iff]
  constructor
  · rintro ⟨searches, ⟨rfl, ok⟩ | earlier⟩
    · exact .inr ⟨ok, searches, rfl⟩
    · exact .inl ⟨searches, earlier⟩
  · rintro (⟨searches, earlier⟩ | ⟨ok, searches, rfl⟩)
    · exact ⟨searches, .inr earlier⟩
    · exact ⟨searches, .inl ⟨rfl, ok⟩⟩

section Outcomes

variable {calls others : List LinkCall} (same : calls.map outcome = others.map outcome)

include same

/-- What an identifier is linked to is settled by the outcomes. -/
theorem last?_congr (id : LinkId) : last? calls id = last? others id := by
  have find (calls : List LinkCall) : last? calls id =
      ((calls.map outcome).find? fun call => call.1 == id && call.2.2).map (·.2.1) := by
    rw [last?, List.find?_map, Option.map_map]
    rfl
  rw [find, find, same]

/-- And so is which strings have been stored. -/
theorem stored_congr (config : Config) (string : String) :
    Stored config calls string ↔ Stored config others string := by
  have among (calls : List LinkCall) :
      (∃ call ∈ calls, call.string = string ∧ call.result.isOk = true) ↔
        ∃ call ∈ calls.map outcome, call.2.1 = string ∧ call.2.2 = true := by
    simp [outcome]
  rw [Stored, Stored, among, among, same]

end Outcomes

end LinkCall

/-- A store as it was when it was opened, the disk at that time, the calls since then, the last one
first, and the store as it is now. -/
structure Member where
  opened : Store
  start : Disk
  calls : List LinkCall
  store : Store

/-- The stores that have been opened, and the disk. -/
structure Members where
  members : List Member
  disk : Disk

namespace Members

/-- What can happen as long as no store is saved. What will become of the requests to come is not
settled in advance. -/
inductive Quiet (config : Config) : Members → Members → Prop
  | opens {members : List Member} {disk disk' : Disk} {store : Store}
      (opened : Store.openSaved config disk = (.ok store, disk')) :
      Quiet config ⟨members, disk⟩ ⟨members ++ [⟨store, disk', [], store⟩], disk'⟩
  | refuses {members : List Member} {disk disk' : Disk} {error : StoreError}
      (refused : Store.openSaved config disk = (.error error, disk')) :
      Quiet config ⟨members, disk⟩ ⟨members, disk'⟩
  | links {members : List Member} {disk disk' : Disk} {index : Nat} {member : Member} {id : LinkId}
      {string : String} {result : Except StoreError Offset} {store : Store}
      (held : members[index]? = some member)
      (linked : member.store.link id string disk = (result, store, disk')) :
      Quiet config ⟨members, disk⟩
        ⟨members.set index { member with calls := ⟨id, string, result⟩ :: member.calls, store },
          disk'⟩
  | fates {members : List Member} {disk : Disk} {faults : List (Option Fault)} :
      Quiet config ⟨members, disk⟩ ⟨members, { disk with faults }⟩

/-- What can happen at all. No save fails, and nothing is loaded but when a store is opened. -/
inductive Step (config : Config) : Members → Members → Prop
  | quiet {before after : Members} (quiet : Quiet config before after) : Step config before after
  | saves {members : List Member} {disk disk' : Disk} {member : Member} (held : member ∈ members)
      (written : member.store.save disk = (.ok (), disk')) :
      Step config ⟨members, disk⟩ ⟨members, disk'⟩

/-- One step after the other. -/
abbrev Run (config : Config) : Members → Members → Prop := Relation.ReflTransGen (Step config)

/-- The first store was opened without index files. -/
def Reached (config : Config) (state : Members) : Prop :=
  ∃ store disk, Store.OpenedFresh config store disk ∧
    Run config ⟨[⟨store, disk, [], store⟩], disk⟩ state

/-- The last save was that of `store` on `disk`. -/
inductive LastSaved (config : Config) (store : Store) (disk : Disk) : Members → Prop
  | saved {members : List Member} {after : Disk} {member : Member}
      (reached : Reached config ⟨members, disk⟩) (held : member ∈ members)
      (same : member.store = store) (written : store.save disk = (.ok (), after)) :
      LastSaved config store disk ⟨members, after⟩
  | later {before after : Members} (earlier : LastSaved config store disk before)
      (quiet : Quiet config before after) : LastSaved config store disk after

/-! ### What holds all the time -/

/-- A member has indexed what it had when it was opened and what its calls have stored. -/
structure Follower (config : Config) (log first : Bytes) (started archive : Archive)
    (member : Member) : Prop where
  begun : Coherent config member.start first started member.opened
  found : ∃ archive, Saved config member.start first archive
  older : first <+: log
  behind : Behind config log archive member.store
  follows : Store.Follows log member.opened.links member.calls member.store.links
  stored : ∀ string, string ∈ archive.map (·.2) ↔
    string ∈ started.map (·.2) ∨ LinkCall.Stored config member.calls string

/-- What is saved can be loaded, and each member follows its calls. -/
structure Intact (config : Config) (log : Bytes) (state : Members) : Prop where
  files : Files config state.disk log
  saved : ∃ archive, Saved config state.disk log archive
  members : ∀ member ∈ state.members,
    ∃ first started archive, Follower config log first started archive member

variable {config : Config} {disk disk' : Disk} {log longer first : Bytes}
  {started archive : Archive} {store : Store} {member : Member} {before after : Members}

namespace Follower

theorem opening (coherent : Coherent config disk log archive store)
    (saved : ∃ archive, Saved config disk log archive) :
    Follower config log log archive archive ⟨store, disk, [], store⟩ where
  begun := coherent
  found := saved
  older := List.prefix_refl _
  behind := .of_coherent coherent
  follows := .start log store.links
  stored := by simp [LinkCall.Stored]

/-- Records of others do not matter. -/
theorem mono (follower : Follower config log first started archive member)
    (grown : log <+: longer) : Follower config longer first started archive member :=
  { follower with
    older := follower.older.trans grown
    behind := follower.behind.mono grown
    follows := follower.follows.mono grown }

theorem link {id : LinkId} {string : String} {result : Except StoreError Offset}
    (follower : Follower config log first started archive member) (files : Files config disk log)
    (linked : member.store.link id string disk = (result, store, disk')) :
    ∃ more larger, Files config disk' (log ++ more) ∧
      Keeps [Path.locate config.logPath] disk disk' ∧
      Follower config (log ++ more) first started larger
        { member with calls := ⟨id, string, result⟩ :: member.calls, store } := by
  obtain ⟨more, larger, files', behind, kept, success, failure, members⟩ :=
    follower.behind.link files linked
  have grown := List.prefix_append log more
  refine ⟨more, larger, files', kept, follower.begun, follower.found, follower.older.trans grown,
    behind, follower.follows.call grown success failure, fun other => ?_⟩
  rw [members, follower.stored, LinkCall.stored_cons, or_assoc]

end Follower

theorem Quiet.intact (quiet : Quiet config before after) (intact : Intact config log before) :
    ∃ longer, log <+: longer ∧ Intact config longer after ∧
      Disk.SameAt config.termPath before.disk after.disk ∧
      Disk.SameAt config.linkPath before.disk after.disk := by
  obtain ⟨files, ⟨archive, saved⟩, members⟩ := intact
  cases quiet with
  | opens opened =>
    obtain ⟨files', saved', ready⟩ := Store.openSaved_spec files saved opened
    obtain ⟨other, coherent, _⟩ := ready _ rfl
    obtain rfl := Store.disk_of_openSaved files opened
    refine ⟨log, List.prefix_refl _, ⟨files', ⟨archive, saved'⟩, ?_⟩, .afterRequest _ _,
      .afterRequest _ _⟩
    intro member held
    rcases List.mem_append.mp held with old | new
    · exact members member old
    · rw [List.mem_singleton.mp new]
      exact ⟨log, other, other, .opening coherent ⟨archive, saved'⟩⟩
  | refuses refused =>
    obtain ⟨files', saved', _⟩ := Store.openSaved_spec files saved refused
    obtain rfl := Store.disk_of_openSaved files refused
    exact ⟨log, List.prefix_refl _, ⟨files', ⟨archive, saved'⟩, members⟩, .afterRequest _ _,
      .afterRequest _ _⟩
  | links held linked =>
    obtain ⟨first, started, held_archive, follower⟩ := members _ (List.mem_of_getElem? held)
    obtain ⟨more, larger, files', kept, follower'⟩ := follower.link files linked
    obtain ⟨terms, links⟩ := files.sameAt_indexes kept
    have grown := List.prefix_append log more
    have saved' := (saved.congr terms links).mono grown (List.prefix_refl archive)
    refine ⟨_, grown, ⟨files', ⟨archive, saved'⟩, ?_⟩, terms, links⟩
    intro member present
    -- the log has grown under the other members, and this one knows of what has been added
    rcases List.mem_or_eq_of_mem_set present with other | rfl
    · obtain ⟨first, started, archive, follower⟩ := members member other
      exact ⟨first, started, archive, follower.mono grown⟩
    · exact ⟨first, started, larger, follower'⟩
  | @fates _ disk faults =>
    have terms : Disk.SameAt config.termPath disk { disk with faults } := .withFaults _ _ _
    have links : Disk.SameAt config.linkPath disk { disk with faults } := .withFaults _ _ _
    exact ⟨log, List.prefix_refl _,
      ⟨files.withFaults faults, ⟨archive, saved.congr terms links⟩, members⟩, terms, links⟩

/-- After each step the log has grown or stayed, and all members are as they should be. -/
theorem Step.intact (step : Step config before after) (intact : Intact config log before) :
    ∃ longer, log <+: longer ∧ Intact config longer after := by
  cases step with
  | quiet quiet =>
    obtain ⟨longer, grown, intact, _⟩ := quiet.intact intact
    exact ⟨longer, grown, intact⟩
  | saves held written =>
    obtain ⟨first, started, archive, follower⟩ := intact.members _ held
    obtain ⟨files, _, before, older, snapshot⟩ := follower.behind.save intact.files written
    exact ⟨log, List.prefix_refl _, files,
      ⟨archive, .complete older (List.prefix_refl _) snapshot⟩, intact.members⟩

theorem Run.intact (run : Run config before after) (intact : Intact config log before) :
    ∃ longer, log <+: longer ∧ Intact config longer after := by
  induction run with
  | refl => exact ⟨log, List.prefix_refl _, intact⟩
  | tail _ step ih =>
    obtain ⟨longer, grown, intact⟩ := ih
    obtain ⟨longest, more, intact⟩ := step.intact intact
    exact ⟨longest, grown.trans more, intact⟩

/-- A store that has just been opened, alone. -/
theorem intact_opening (coherent : Coherent config disk log archive store)
    (saved : ∃ archive, Saved config disk log archive) :
    Intact config log ⟨[⟨store, disk, [], store⟩], disk⟩ where
  files := coherent.files
  saved := saved
  members member held := by
    rw [List.mem_singleton.mp held]
    exact ⟨log, archive, archive, .opening coherent saved⟩

theorem intact_start (fresh : Store.OpenedFresh config store disk) :
    ∃ log, Intact config log ⟨[⟨store, disk, [], store⟩], disk⟩ := by
  obtain ⟨log, coherent, _⟩ := fresh.coherent
  obtain ⟨_, no_links⟩ := Bool.or_eq_false_iff.mp fresh.fresh
  exact ⟨log, intact_opening coherent ⟨[], .unfinished no_links⟩⟩

theorem Reached.intact {state : Members} (reached : Reached config state) :
    ∃ log, Intact config log state := by
  obtain ⟨store, disk, fresh, run⟩ := reached
  obtain ⟨log, intact⟩ := intact_start fresh
  obtain ⟨longer, _, intact⟩ := run.intact intact
  exact ⟨longer, intact⟩

theorem Reached.step (reached : Reached config before) (step : Step config before after) :
    Reached config after := by
  obtain ⟨store, disk, fresh, run⟩ := reached
  exact ⟨store, disk, fresh, run.tail step⟩

theorem LastSaved.reached {state : Members} (last : LastSaved config store disk state) :
    Reached config state := by
  induction last with
  | saved reached held same written =>
    subst same
    exact reached.step (.saves held written)
  | later _ quiet ih => exact ih.step (.quiet quiet)

/-! ### Replies -/

namespace Follower

/-- An identifier has the string that it was linked to last, and that of the beginning if none of
the calls has linked it. -/
theorem stringFor (follower : Follower config log first started archive member)
    (files : Files config disk log) (freely : member.store.ReadsFreely disk) (id : LinkId) :
    member.store.stringFor disk id =
      match LinkCall.last? member.calls id with
      | some string => .ok string
      | none => member.opened.stringFor member.start id := by
  have coherent := follower.behind.coherent files
  cases last : LinkCall.last? member.calls id with
  | some string =>
    have linked := follower.follows.linked id string last
    exact (Store.stringFor_eq_ok_iff coherent freely).mpr linked
  | none =>
    have unlinked := follower.follows.unlinked id last
    exact Store.stringFor_eq follower.begun coherent follower.older unlinked

end Follower

/-- Which strings have been archived can be seen from the terms and the log. -/
theorem mem_archive_iff (coherent : Coherent config disk log archive store) {string : String} :
    string ∈ archive.map (·.2) ↔
      ∃ offset, store.IsIndexed offset ∧ HasRecord log offset (Text.encode string) := by
  constructor
  · intro stored
    obtain ⟨⟨offset, _⟩, member, rfl⟩ := List.mem_map.mp stored
    exact ⟨offset, coherent.isIndexed_iff.mpr ⟨_, member⟩, coherent.searchable.hasRecord member⟩
  · rintro ⟨offset, indexed, has⟩
    obtain ⟨other, member⟩ := coherent.isIndexed_iff.mp indexed
    obtain rfl := coherent.searchable.string_unique has (coherent.searchable.hasRecord member)
    exact List.mem_map_of_mem member

section Twins

variable {other : Member} {otherLog otherFirst : Bytes} {otherStarted otherArchive : Archive}
  (follower : Follower config log first started archive member)
  (follower' : Follower config otherLog otherFirst otherStarted otherArchive other)
  (opened : other.opened = member.opened) (start : other.start = member.start)
  (outcomes : other.calls.map LinkCall.outcome = member.calls.map LinkCall.outcome)

include follower follower' opened start outcomes

/-- Two members that began alike and whose calls have had the same outcomes have archived the same
strings. -/
theorem stored_iff_of_outcomes (string : String) :
    string ∈ otherArchive.map (·.2) ↔ string ∈ archive.map (·.2) := by
  have begun := follower.begun
  have begun' := follower'.begun
  rw [opened, start] at begun'
  obtain rfl := begun'.files.contains.unique begun.files.contains
  rw [follower'.stored, follower.stored, LinkCall.stored_congr outcomes, mem_archive_iff begun',
    mem_archive_iff begun]

/-- They give the same replies, each with its own log. -/
theorem sameReplies_of_outcomes (files : Files config disk log)
    (files' : Files config disk' otherLog) (freely : member.store.ReadsFreely disk)
    (freely' : other.store.ReadsFreely disk') :
    Store.SameReplies other.store disk' member.store disk := by
  have coherent := follower.behind.coherent files
  have coherent' := follower'.behind.coherent files'
  refine Store.sameReplies_of_withEnd
    (Store.sameReplies_of_strings coherent' coherent freely' freely (fun id => ?_) fun string =>
      (stored_iff_of_outcomes follower follower' opened start outcomes string).symm)
  have answer := follower.stringFor files freely id
  rw [← LinkCall.last?_congr outcomes, ← opened, ← start] at answer
  exact answer.trans (follower'.stringFor files' freely' id).symm

end Twins

/-! ### Saved indexes -/

/-- Since the last save the log has only grown, and its snapshot is still there. -/
theorem LastSaved.intact {state : Members} (last : LastSaved config store disk state) :
    ∃ log archive before longer, Files config disk log ∧ Behind config log archive store ∧
      log <+: longer ∧ before <+: longer ∧ Intact config longer state ∧
      Snapshot config state.disk before archive store.terms store.links := by
  induction last with
  | saved reached held same written =>
    subst same
    obtain ⟨log, intact⟩ := reached.intact
    obtain ⟨_, _, archive, follower⟩ := intact.members _ held
    obtain ⟨_, grown, intact'⟩ := Step.intact (.saves held written) intact
    obtain ⟨files, _, before, older, snapshot⟩ := follower.behind.save intact.files written
    exact ⟨log, archive, before, _, intact.files, follower.behind, grown, older.trans grown,
      intact', snapshot⟩
  | later _ quiet ih =>
    obtain ⟨log, archive, before, longer, files, behind, grown, older, intact, snapshot⟩ := ih
    obtain ⟨longest, more, intact', terms, links⟩ := quiet.intact intact
    exact ⟨log, archive, before, longest, files, behind, grown.trans more, older.trans more,
      intact', snapshot.congr terms links⟩

/-- A store is opened only if the disk grants it. -/
theorem LastSaved.granted {state : Members} (last : LastSaved config store disk state)
    {opened : Store} (run : Store.openSaved config state.disk = (.ok opened, disk')) :
    state.disk.nextFault = none := by
  obtain ⟨_, _, _, _, _, _, _, _, intact, _⟩ := last.intact
  rcases Store.openEmpty_of_files intact.files with ⟨_, granted⟩ | ⟨error, refused, _⟩
  · exact granted
  · rw [Store.openSaved, refused] at run
    cases run

/-- A store that is opened gives the answers of the last save. -/
theorem LastSaved.opens {state : Members} (last : LastSaved config store disk state)
    (granted : state.disk.nextFault = none) :
    ∃ opened, Store.openSaved config state.disk = (.ok opened, state.disk.afterRequest) ∧
      Store.SameAnswers store disk opened state.disk.afterRequest := by
  obtain ⟨log, archive, before, longer, files, behind, grown, older, intact, snapshot⟩ :=
    last.intact
  obtain ⟨opened, restored⟩ := Store.openSaved_snapshot intact.files older snapshot granted
  have coherent := behind.coherent files
  have answers := Store.sameAnswers coherent restored grown
    (LinkFile.referenceOf?_index_ofIndex coherent.linked.sound)
  exact ⟨_, opened, Store.sameAnswers_of_withEnd answers⟩

end Members

end Concordance
