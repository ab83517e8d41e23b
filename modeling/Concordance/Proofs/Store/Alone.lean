import Concordance.Proofs.Store.Together

/-!
# A store by itself

What a store replies when others write to its log as well is what it would reply if it were alone
with what it found when it was opened, and the same strings were linked through it with the same
outcomes. There is always such a run: a log that has only the records of one store is no longer than
the log that it shares, so it has room for whatever has been appended there.
-/
namespace Concordance

open Disk (Keeps sizeLimit)

namespace Members

/-- The calls of a member are made again, with the same outcomes, by a store that is alone with the
log and the index files as they were when the member was opened. -/
structure Alone (config : Config) (member : Member) (calls : List LinkCall) (store : Store)
    (disk : Disk) : Prop where
  run : Run config ⟨[⟨member.opened, member.start, [], member.opened⟩], member.start⟩
    ⟨[⟨member.opened, member.start, calls, store⟩], disk⟩
  outcomes : calls.map LinkCall.outcome = member.calls.map LinkCall.outcome

/-- The calls of a member can be made alone, on a log that has room for what the shared log has room
for. -/
def HasTwin (config : Config) (disk : Disk) (member : Member) : Prop :=
  ∃ calls store twinDisk, Alone config member calls store twinDisk ∧
    Roomier config twinDisk disk

variable {config : Config} {disk disk' twinDisk twinDisk' : Disk} {log longer first : Bytes}
  {started archive : Archive} {store store' twin twin' : Store} {member : Member}
  {calls : List LinkCall} {before after : Members}

/-! ### Runs of one store -/

namespace Alone

theorem start (store : Store) (disk : Disk) : Alone config ⟨store, disk, [], store⟩ [] store disk :=
  ⟨.refl, rfl⟩

/-- The next call is made as well, whatever the disk has in store for it. -/
theorem link {faults : List (Option Fault)} {id : LinkId} {string : String}
    {result again : Except StoreError Offset} (alone : Alone config member calls twin twinDisk)
    (linked : twin.link id string { twinDisk with faults } = (again, twin', twinDisk'))
    (same : again.isOk = result.isOk) :
    Alone config { member with calls := ⟨id, string, result⟩ :: member.calls, store }
      (⟨id, string, again⟩ :: calls) twin' twinDisk' where
  run := by
    have held : [Member.mk member.opened member.start calls twin][0]? =
        some ⟨member.opened, member.start, calls, twin⟩ := rfl
    exact (alone.run.tail (.quiet .fates)).tail (.quiet (.links held linked))
  outcomes := by
    rw [List.map_cons, List.map_cons, alone.outcomes, LinkCall.outcome, LinkCall.outcome, same]

/-- A store that is alone follows its calls like any other one. -/
theorem follower (alone : Alone config member calls twin twinDisk)
    (follower : Follower config log first started archive member) :
    ∃ short first started archive, Files config twinDisk short ∧
      Follower config short first started archive ⟨member.opened, member.start, calls, twin⟩ := by
  obtain ⟨short, _, intact⟩ := alone.run.intact (intact_opening follower.begun follower.found)
  obtain ⟨first, started, archive, follower'⟩ :=
    intact.members _ (List.mem_singleton_self _)
  exact ⟨short, first, started, archive, intact.files, follower'⟩

end Alone

/-! ### There is such a run -/

/-- No step takes room from the log or makes a log of the device. -/
theorem Step.roomier (step : Step config before after) (intact : Intact config log before) :
    Roomier config before.disk after.disk := by
  obtain ⟨longer, grown, intact'⟩ := step.intact intact
  refine ⟨fun bytes others has has' => ?_, fun full => ?_⟩
  · rw [has.unique intact.files.contains, has'.unique intact'.files.contains]
    exact grown.length_le
  · cases step with
    | saves held written =>
      obtain ⟨_, _, _, follower⟩ := intact.members _ held
      obtain ⟨files, same, _⟩ := follower.behind.save intact.files written
      rw [← Disk.find_full_iff files.contains, same, Disk.find_full_iff intact.files.contains]
      exact full
    | quiet quiet =>
      cases quiet with
      | opens opened =>
        obtain rfl := Store.disk_of_openSaved intact.files opened
        exact full
      | refuses refused =>
        obtain rfl := Store.disk_of_openSaved intact.files refused
        exact full
      | links held linked =>
        obtain ⟨_, _, _, follower⟩ := intact.members _ (List.mem_of_getElem? held)
        exact (follower.behind.full_iff intact.files linked).mpr full
      | fates => exact full

theorem HasTwin.opening (store : Store) (disk : Disk) :
    HasTwin config disk ⟨store, disk, [], store⟩ :=
  ⟨[], store, disk, .start store disk, .refl config disk⟩

theorem HasTwin.mono (hasTwin : HasTwin config disk member) (files : Files config disk log)
    (roomier : Roomier config disk disk') : HasTwin config disk' member := by
  obtain ⟨calls, twin, twinDisk, alone, less⟩ := hasTwin
  exact ⟨calls, twin, twinDisk, alone, less.trans files.contains roomier⟩

/-- What a member links is linked by its twin, or fails there as well. -/
theorem HasTwin.link {id : LinkId} {string : String} {result : Except StoreError Offset}
    (hasTwin : HasTwin config disk member)
    (follower : Follower config log first started archive member) (files : Files config disk log)
    (freely : member.store.ReadsFreely disk)
    (linked : member.store.link id string disk = (result, store', disk')) :
    HasTwin config disk'
      { member with calls := ⟨id, string, result⟩ :: member.calls, store := store' } := by
  obtain ⟨calls, twin, twinDisk, alone, roomier⟩ := hasTwin
  obtain ⟨short, _, _, _, files', follower'⟩ := alone.follower follower
  have same := stored_iff_of_outcomes follower follower' rfl rfl alone.outcomes
  -- what becomes of the request for the log is up to the disk, and it is told to do as before
  cases succeeded : result.isOk with
  | true =>
    have granted : Roomier config { twinDisk with faults := [] } disk := roomier.withFaults []
    obtain ⟨offset, twin', twinDisk', linked', roomier'⟩ := granted.link_ok follower.behind files
      follower'.behind (files'.withFaults []) linked same freely succeeded rfl
    exact ⟨_, twin', twinDisk', alone.link linked' succeeded.symm, roomier'⟩
  | false =>
    have refused := roomier.withFaults [some ⟨.noSpace, 0⟩]
    obtain ⟨error, twin', twinDisk', linked', roomier'⟩ := refused.link_error follower.behind files
      follower'.behind (files'.withFaults _) linked same freely succeeded rfl
    exact ⟨_, twin', twinDisk', alone.link linked' succeeded.symm, roomier'⟩

/-- Each step keeps the twins. -/
theorem Step.twins (step : Step config before after) (intact : Intact config log before)
    (freely : ∀ position ≤ log.length, LogReader.isFar position = false)
    (twins : ∀ member ∈ before.members, HasTwin config before.disk member) :
    ∀ member ∈ after.members, HasTwin config after.disk member := by
  have roomier := step.roomier intact
  have kept (member : Member) (held : member ∈ before.members) :
      HasTwin config after.disk member := (twins member held).mono intact.files roomier
  intro member present
  cases step with
  | saves => exact kept member present
  | quiet quiet =>
    cases quiet with
    | opens opened =>
      rcases List.mem_append.mp present with old | new
      · exact kept member old
      · rw [List.mem_singleton.mp new]
        exact .opening ..
    | refuses => exact kept member present
    | fates => exact kept member present
    | links held linked =>
      rcases List.mem_or_eq_of_mem_set present with other | rfl
      · exact kept member other
      · have before := List.mem_of_getElem? held
        obtain ⟨first, started, archive, follower⟩ := intact.members _ before
        have free := (follower.behind.readsFreely_iff intact.files).mpr freely
        exact (twins _ before).link follower intact.files free linked

/-- As long as the log can be read freely, all members have twins. -/
theorem Run.twins (run : Run config before after) (intact : Intact config log before)
    (twins : ∀ member ∈ before.members, HasTwin config before.disk member) :
    ∃ longer, log <+: longer ∧ Intact config longer after ∧
      ((∀ position ≤ longer.length, LogReader.isFar position = false) →
        ∀ member ∈ after.members, HasTwin config after.disk member) := by
  induction run with
  | refl => exact ⟨log, List.prefix_refl _, intact, fun _ => twins⟩
  | tail _ step ih =>
    obtain ⟨middle, grown, intact', twins'⟩ := ih
    obtain ⟨longest, more, intact''⟩ := step.intact intact'
    refine ⟨longest, grown.trans more, intact'', fun freely => ?_⟩
    -- the log was shorter before
    have freely' : ∀ position ≤ middle.length, LogReader.isFar position = false :=
      fun position inside => freely position (Nat.le_trans inside more.length_le)
    exact step.twins intact' freely' (twins' freely')

/-- Whatever other stores do, a store replies what it would reply if it were alone with what it
found when it was opened, as long as the disk refuses to read no part of the log. There is a run in
which it is alone and its calls have the same outcomes, and in every such run the replies are the
same. And whoever opens a store after a save is given the answers of the store that was saved. -/
theorem replies_alone {state : Members} (reached : Reached config state) :
    (∀ member ∈ state.members, member.store.ReadsFreely state.disk →
      (∃ calls store disk, Alone config member calls store disk ∧ store.ReadsFreely disk) ∧
        ∀ calls store disk, Alone config member calls store disk → store.ReadsFreely disk →
          Store.SameReplies store disk member.store state.disk) ∧
    ∀ saver old, LastSaved config saver old state →
      (∀ opened disk, Store.openSaved config state.disk = (.ok opened, disk) →
        Store.SameAnswers saver old opened disk) ∧
      (state.disk.nextFault = none →
        ∃ opened disk, Store.openSaved config state.disk = (.ok opened, disk)) := by
  constructor
  · intro member held freely
    obtain ⟨start, disk, fresh, run⟩ := reached
    obtain ⟨first, intact⟩ := intact_start fresh
    have twins : ∀ member ∈ [Member.mk start disk [] start], HasTwin config disk member := by
      intro other only
      rw [List.mem_singleton.mp only]
      exact .opening start disk
    obtain ⟨log, _, intact', later⟩ := run.twins intact twins
    obtain ⟨_, _, _, follower⟩ := intact'.members member held
    have near := (follower.behind.readsFreely_iff intact'.files).mp freely
    constructor
    · obtain ⟨calls, twin, twinDisk, alone, roomier⟩ := later near member held
      obtain ⟨_, _, _, _, files, follower'⟩ := alone.follower follower
      have freely' :=
        roomier.readsFreely follower.behind intact'.files follower'.behind files freely
      exact ⟨calls, twin, twinDisk, alone, freely'⟩
    · intro calls twin twinDisk alone freely'
      obtain ⟨_, _, _, _, files, follower'⟩ := alone.follower follower
      exact sameReplies_of_outcomes follower follower' rfl rfl alone.outcomes intact'.files files
        freely freely'
  · intro saver old last
    constructor
    · intro opened disk run
      obtain ⟨opened', same, answers⟩ := last.opens (last.granted run)
      rw [run] at same
      cases same
      exact answers
    · intro granted
      obtain ⟨opened, run, _⟩ := last.opens granted
      exact ⟨opened, _, run⟩

/-! ### Two stores -/

open Store (sampleConfig sampleDisk sampleFirst sampleSecond)

/-- Another store, opened behind a broken record. -/
def otherStart : Store :=
  { Store.unlinked sampleConfig [] with log := ⟨sampleConfig.logPath, 16⟩ }

def otherOpened : Disk := sampleSecond.2.2.afterRequest

/-- It links the first identifier to a string of its own. -/
def otherFirst : Except StoreError Offset × Store × Disk :=
  otherStart.link 1 "cd ab" otherOpened

/-- The first store does not know of this record and writes the string once more. -/
def sampleAgain : Except StoreError Offset × Store × Disk :=
  sampleSecond.2.1.link 2 "cd ab" otherFirst.2.2

def againSave : Except StoreError Unit × Disk :=
  sampleAgain.2.1.save sampleAgain.2.2

def sampleMember : Member where
  opened := Store.unlinked sampleConfig []
  start := sampleDisk
  calls := [⟨2, "cd ab", sampleAgain.1⟩, ⟨2, "ef", sampleSecond.1⟩, ⟨1, "ab cd", sampleFirst.1⟩]
  store := sampleAgain.2.1

def otherMember : Member := ⟨otherStart, otherOpened, [⟨1, "cd ab", otherFirst.1⟩], otherFirst.2.1⟩

theorem lastSaved_sample :
    LastSaved sampleConfig sampleAgain.2.1 sampleAgain.2.2
      ⟨[sampleMember, otherMember], againSave.2⟩ := by
  have first : (Store.unlinked sampleConfig []).link 1 "ab cd" sampleDisk =
      (sampleFirst.1, sampleFirst.2.1, sampleFirst.2.2) := rfl
  have second : sampleFirst.2.1.link 2 "ef" sampleFirst.2.2 =
      (sampleSecond.1, sampleSecond.2.1, sampleSecond.2.2) := rfl
  have opened : Store.openSaved sampleConfig sampleSecond.2.2 = (.ok otherStart, otherOpened) := rfl
  have other : otherStart.link 1 "cd ab" otherOpened =
      (otherFirst.1, otherFirst.2.1, otherFirst.2.2) := by rw [otherFirst]
  have again : sampleSecond.2.1.link 2 "cd ab" otherFirst.2.2 =
      (sampleAgain.1, sampleAgain.2.1, sampleAgain.2.2) := by rw [sampleAgain]
  have saved : sampleAgain.2.1.save sampleAgain.2.2 = (.ok (), againSave.2) := by
    have succeeded : againSave.1 = .ok () := by decide +kernel
    rw [← succeeded, againSave]
  have start : Reached sampleConfig
      ⟨[⟨Store.unlinked sampleConfig [], sampleDisk, [], Store.unlinked sampleConfig []⟩],
        sampleDisk⟩ := ⟨_, _, Store.openedFresh_sample, .refl⟩
  have alone := (start.step (.quiet (.links List.getElem?_cons_zero first))).step
    (.quiet (.links List.getElem?_cons_zero second))
  have both := (alone.step (.quiet (.opens opened))).step
    (.quiet (.links List.getElem?_concat_length other))
  have linked : Reached sampleConfig ⟨[sampleMember, otherMember], sampleAgain.2.2⟩ :=
    both.step (.quiet (.links List.getElem?_cons_zero again))
  have held : sampleMember ∈ [sampleMember, otherMember] := List.mem_cons_self
  have same : sampleMember.store = sampleAgain.2.1 := by rw [sampleMember]
  exact .saved linked held same saved

/-- The state after the save. -/
theorem reached_again : Reached sampleConfig ⟨[sampleMember, otherMember], againSave.2⟩ :=
  lastSaved_sample.reached

/-- Both stores have kept their own strings for the first identifier, and a store that is opened now
has those of the first one. -/
theorem replies_alone_of_sample :
    (∃ calls store disk, Alone sampleConfig sampleMember calls store disk ∧
      store.stringFor disk 1 = .ok "ab cd" ∧
      (store.identifiersFor disk "cd ab" .exact).map (·.toList) = .ok [2]) ∧
    (∃ calls store disk, Alone sampleConfig otherMember calls store disk ∧
      store.stringFor disk 1 = .ok "cd ab" ∧
      (store.identifiersFor disk "cd ab" .exact).map (·.toList) = .ok [1]) ∧
    ∃ opened disk, Store.openSaved sampleConfig againSave.2 = (.ok opened, disk) ∧
      opened.stringFor disk 1 = .ok "ab cd" ∧ opened.stringFor disk 2 = .ok "cd ab" := by
  obtain ⟨first, second, other, found, before, again⟩ :
      sampleMember.store.stringFor againSave.2 1 = .ok "ab cd" ∧
      (sampleMember.store.identifiersFor againSave.2 "cd ab" .exact).map (·.toList) = .ok [2] ∧
      otherMember.store.stringFor againSave.2 1 = .ok "cd ab" ∧
      (otherMember.store.identifiersFor againSave.2 "cd ab" .exact).map (·.toList) = .ok [1] ∧
      sampleAgain.2.1.stringFor sampleAgain.2.2 1 = .ok "ab cd" ∧
      sampleAgain.2.1.stringFor sampleAgain.2.2 2 = .ok "cd ab" := by
    decide +kernel
  obtain ⟨replies, opens⟩ := replies_alone reached_again
  dsimp only at replies opens
  have freely : sampleMember.store.ReadsFreely againSave.2 :=
    Store.readsFreely_of_logEnd 42 (by decide +kernel) (by decide)
  have freely' : otherMember.store.ReadsFreely againSave.2 :=
    Store.readsFreely_of_logEnd 42 (by decide +kernel) (by decide)
  have held : sampleMember ∈ [sampleMember, otherMember] := List.mem_cons_self
  have held' : otherMember ∈ [sampleMember, otherMember] :=
    List.mem_cons_of_mem _ List.mem_cons_self
  obtain ⟨⟨calls, store, disk, alone, near⟩, same⟩ := replies sampleMember held freely
  have told := same calls store disk alone near
  obtain ⟨⟨calls', store', disk', alone', near'⟩, same'⟩ := replies otherMember held' freely'
  have told' := same' calls' store' disk' alone' near'
  obtain ⟨answered, opened⟩ := opens _ _ lastSaved_sample
  obtain ⟨last, lastDisk, run⟩ := opened (by decide +kernel)
  have answers := answered last lastDisk run
  refine ⟨⟨calls, store, disk, alone, ?_, ?_⟩, ⟨calls', store', disk', alone', ?_, ?_⟩,
    last, lastDisk, run, ?_, ?_⟩
  · rw [← told.stringFor, first]
  · rw [← told.identifiersFor, second]
  · rw [← told'.stringFor, other]
  · rw [← told'.identifiersFor, found]
  · rw [answers.stringFor, before]
  · rw [answers.stringFor, again]

/-! ### A log of almost the greatest size -/

/-- A log with nothing but a hole, at whose end a record can just be read. -/
def farDisk : Disk :=
  Disk.empty.put ["strings"] (.file 0 ⟨[.hole 9223372036854767600]⟩)

def farStart : Store :=
  { Store.unlinked sampleConfig [] with log := ⟨sampleConfig.logPath, 9223372036854767600⟩ }

/-- The call of the second store, which comes first. -/
def farOther : Except StoreError Offset × Store × Disk :=
  farStart.link 1 "ab cd ef gh" farDisk

def farCall : Except StoreError Offset × Store × Disk :=
  farStart.link 1 "ab" farOther.2.2

/-- The same call on the log without the other record. -/
def farAlone : Except StoreError Offset × Store × Disk :=
  farStart.link 1 "ab" farDisk

def farMember : Member := ⟨farStart, farDisk, [⟨1, "ab", farCall.1⟩], farCall.2.1⟩

theorem openedFresh_far : Store.OpenedFresh sampleConfig farStart farDisk where
  opened := ⟨farDisk, rfl⟩
  fresh := by decide +kernel
  bounded log contains := by
    have hole : farDisk.Contains sampleConfig.logPath
        (FileBody.toList ⟨[.hole 9223372036854767600]⟩) :=
      ⟨.file 0 ⟨[.hole 9223372036854767600]⟩, by decide +kernel, rfl⟩
    rw [contains.unique hole, FileBody.length_toList]
    decide +kernel

/-- The record of the other store has moved the next one behind the last window. Alone the store
would have read it. -/
theorem replies_far :
    Reached sampleConfig ⟨[farMember, ⟨farStart, farDisk, [⟨1, "ab cd ef gh", farOther.1⟩],
      farOther.2.1⟩], farCall.2.2⟩ ∧
    Alone sampleConfig farMember [⟨1, "ab", farAlone.1⟩] farAlone.2.1 farAlone.2.2 ∧
    farMember.store.stringFor farCall.2.2 1 = .error (.read .stringSize .invalidArgument) ∧
    farAlone.2.1.stringFor farAlone.2.2 1 = .ok "ab" := by
  have opened : Store.openSaved sampleConfig farDisk = (.ok farStart, farDisk) := rfl
  have other : farStart.link 1 "ab cd ef gh" farDisk =
      (farOther.1, farOther.2.1, farOther.2.2) := by rw [farOther]
  have called : farStart.link 1 "ab" farOther.2.2 = (farCall.1, farCall.2.1, farCall.2.2) := by
    rw [farCall]
  have alone : farStart.link 1 "ab" farDisk = (farAlone.1, farAlone.2.1, farAlone.2.2) := by
    rw [farAlone]
  have start : Reached sampleConfig ⟨[⟨farStart, farDisk, [], farStart⟩], farDisk⟩ :=
    ⟨_, _, openedFresh_far, .refl⟩
  have both := (start.step (.quiet (.opens opened))).step
    (.quiet (.links List.getElem?_concat_length other))
  refine ⟨both.step (.quiet (.links List.getElem?_cons_zero called)), ⟨?_, ?_⟩, ?_, ?_⟩
  · exact .single (.quiet (.links List.getElem?_cons_zero alone))
  · have same : farAlone.1.isOk = farCall.1.isOk := by decide +kernel
    rw [farMember, List.map_cons, List.map_cons, LinkCall.outcome, LinkCall.outcome, same]
  · decide +kernel
  · decide +kernel

end Members

end Concordance
