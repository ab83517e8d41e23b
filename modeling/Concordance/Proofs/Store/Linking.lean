import Concordance.Proofs.Store.Coherent

/-!
# What an identifier is linked to

A store that is opened without saved indexes and then only links strings gives for each identifier
the string of the last call for it that succeeded. Calls that failed count for nothing, however much
of a record they have left in the log, and none of them fails in reading.
-/
namespace Concordance

open Disk (sizeLimit)

/-- A call of `Store.link` and what it returned. -/
structure LinkCall where
  id : LinkId
  string : String
  result : Except StoreError Offset

namespace LinkCall

/-- The string of the last call for `id` that succeeded, the last of `calls` coming first. -/
def last? (calls : List LinkCall) (id : LinkId) : Option String :=
  (calls.find? fun call => call.id == id && call.result.isOk).map (·.string)

theorem last?_cons_ok (calls : List LinkCall) (id other : LinkId) (string : String)
    (offset : Offset) :
    last? (⟨id, string, .ok offset⟩ :: calls) other =
      if other = id then some string else last? calls other := by
  by_cases same : other = id
  · subst same
    simp [last?, Except.isOk, Except.toBool]
  · simp [last?, same, Ne.symm same]

theorem last?_cons_error (calls : List LinkCall) (id other : LinkId) (string : String)
    (error : StoreError) :
    last? (⟨id, string, .error error⟩ :: calls) other = last? calls other := by
  simp [last?, Except.isOk, Except.toBool]

end LinkCall

namespace Store

/-- A store has been opened in a directory without index files. Its log may hold anything. -/
structure OpenedFresh (config : Config) (store : Store) (disk : Disk) : Prop where
  opened : ∃ before, openSaved config before = (.ok store, disk)
  fresh : (indexFiles config).anyExist disk = false
  bounded : ∀ log, disk.Contains config.logPath log → log.length ≤ sizeLimit

/-- One call of `Store.link` after the other leads from `store` to another store. The last of
`calls` comes first. -/
inductive Links (store : Store) (disk : Disk) : List LinkCall → Store → Disk → Prop
  | start : Links store disk [] store disk
  | call {calls : List LinkCall} {store' after : Store} {disk' afterDisk : Disk} {id : LinkId}
      {string : String} {result : Except StoreError Offset}
      (earlier : Links store disk calls store' disk')
      (linked : store'.link id string disk' = (result, after, afterDisk)) :
      Links store disk (⟨id, string, result⟩ :: calls) after afterDisk

variable {config : Config} {disk disk' : Disk} {log : Bytes} {archive : Archive}
  {store store' : Store} {calls : List LinkCall}

/-- A store that is opened without saved indexes is coherent with its log. -/
theorem OpenedFresh.coherent (start : OpenedFresh config store disk) :
    ∃ log, Coherent config disk log [] store ∧ store = unlinked config log := by
  obtain ⟨before, opened⟩ := start.opened
  unfold openSaved at opened
  split at opened
  · simp at opened
  · next store after empty =>
    cases exist : (indexFiles config).anyExist after with
    | true =>
      -- loading does not change the disk, so the index files would be there still
      have same : after = disk := by
        rw [exist, if_pos rfl] at opened
        split at opened <;> exact (Prod.mk.inj opened).2
      rw [same, start.fresh] at exist
      simp at exist
    | false =>
      rw [exist, if_neg Bool.false_ne_true] at opened
      obtain ⟨same, rfl⟩ := Prod.mk.inj opened
      cases same
      obtain ⟨log, files, rfl⟩ := files_of_openEmpty empty start.fresh start.bounded
      exact ⟨log, coherent_unlinked files, rfl⟩

theorem readsFreely_iff (coherent : Coherent config disk log archive store) :
    store.ReadsFreely disk ↔ ∀ position ≤ log.length, LogReader.isFar position = false := by
  obtain ⟨reader, opened, shows⟩ := reader_eq_ok coherent
  rw [← shows.readsFreely_iff]
  constructor
  · exact fun freely => freely reader opened
  · intro freely other same
    rw [opened] at same
    rwa [← Except.ok.inj same]

/-! ### What is read back -/

/-- What looking up an identifier gives is settled by the string that it refers to. -/
theorem getString_eq (coherent : Coherent config disk log archive store) {id : LinkId}
    {offset : Offset} {string : String} (found : store.links.referenceOf? id = some offset)
    (has : HasRecord log offset (Text.encode string)) :
    store.getString disk id =
      ((LogReader.outcome offset (Text.encode string)).bind
        (LogReader.textOf offset)).map some := by
  obtain ⟨reader, opened, shows⟩ := reader_eq_ok coherent
  rw [getString, found]
  dsimp only
  rw [ContentLog.readString, opened]
  dsimp only
  rw [LogReader.readString, LogReader.read_eq shows has]
  cases LogReader.outcome offset (Text.encode string) <;> rfl

theorem getString_eq_ok (coherent : Coherent config disk log archive store)
    (freely : store.ReadsFreely disk) {id : LinkId} {offset : Offset} {string : String}
    (found : store.links.referenceOf? id = some offset)
    (has : HasRecord log offset (Text.encode string)) :
    store.getString disk id = .ok (some string) := by
  obtain ⟨reader, opened, shows⟩ := reader_eq_ok coherent
  rw [getString, found]
  dsimp only
  rw [ContentLog.readString, opened]
  dsimp only
  rw [LogReader.readString_eq_ok shows (freely reader opened) has]
  rfl

/-- Linking one identifier leaves what the others are linked to. -/
theorem stringFor_link {id other : LinkId} {string : String} {result : Except StoreError Offset}
    (coherent : Coherent config disk log archive store)
    (linked : store.link id string disk = (result, store', disk')) (differs : other ≠ id) :
    store'.stringFor disk' other = store.stringFor disk other := by
  obtain ⟨more, larger, after, _, _, success, failure⟩ := link_spec coherent linked
  have kept : store'.links.referenceOf? other = store.links.referenceOf? other := by
    cases result with
    | ok offset =>
      rw [(success offset rfl).1, LinkIndex.referenceOf?_setReference, if_neg differs]
    | error error => rw [(failure error rfl).2.1]
  cases found : store.links.referenceOf? other with
  | none => rw [stringFor, stringFor, getString, getString, kept, found]
  | some offset =>
    obtain ⟨held, has, _⟩ := coherent.linked.stored other offset found
    rw [stringFor, stringFor, getString_eq coherent found has,
      getString_eq after (kept.trans found) (has.mono (List.prefix_append ..))]

/-! ### Runs -/

/-- Each identifier refers to the string of the last call for it that succeeded, and to what it did
before if there is no such call. -/
structure Follows (log : Bytes) (links : LinkIndex) (calls : List LinkCall) (links' : LinkIndex) :
    Prop where
  linked : ∀ id string, LinkCall.last? calls id = some string →
    ∃ offset, links'.referenceOf? id = some offset ∧ HasRecord log offset (Text.encode string)
  unlinked : ∀ id, LinkCall.last? calls id = none →
    links'.referenceOf? id = links.referenceOf? id

namespace Follows

variable {longer : Bytes} {links links' : LinkIndex} {id : LinkId} {string : String}

theorem start (log : Bytes) (links : LinkIndex) : Follows log links [] links where
  linked id string last := by simp [LinkCall.last?] at last
  unlinked _ _ := rfl

/-- A call that succeeds makes its string the last one of its identifier. -/
theorem ok (follows : Follows log links calls links') (older : log <+: longer) {offset : Offset}
    (has : HasRecord longer offset (Text.encode string)) :
    Follows longer links (⟨id, string, .ok offset⟩ :: calls) (links'.setReference id offset).1 where
  linked other held last := by
    rw [LinkCall.last?_cons_ok] at last
    rw [LinkIndex.referenceOf?_setReference]
    split at last
    · next same =>
      obtain rfl := Option.some.inj last
      exact ⟨offset, if_pos same, has⟩
    · next differs =>
      obtain ⟨place, found, holds⟩ := follows.linked other held last
      exact ⟨place, by rw [if_neg differs, found], holds.mono older⟩
  unlinked other unlinked := by
    rw [LinkCall.last?_cons_ok] at unlinked
    split at unlinked
    · simp at unlinked
    · next differs =>
      rw [LinkIndex.referenceOf?_setReference, if_neg differs]
      exact follows.unlinked other unlinked

/-- Records stay where they are when the log grows. -/
theorem mono (follows : Follows log links calls links') (older : log <+: longer) :
    Follows longer links calls links' where
  linked id string last := by
    obtain ⟨place, found, holds⟩ := follows.linked id string last
    exact ⟨place, found, holds.mono older⟩
  unlinked := follows.unlinked

/-- After a call that fails every identifier refers to what it did. -/
theorem error (follows : Follows log links calls links') (older : log <+: longer)
    (error : StoreError) : Follows longer links (⟨id, string, .error error⟩ :: calls) links' where
  linked other held last := by
    rw [LinkCall.last?_cons_error] at last
    exact (follows.mono older).linked other held last
  unlinked other unlinked := by
    rw [LinkCall.last?_cons_error] at unlinked
    exact follows.unlinked other unlinked

/-- What a call makes of the references is settled by what it returns. -/
theorem call {result : Except StoreError Offset} {later : LinkIndex}
    (follows : Follows log links calls links') (older : log <+: longer)
    (success : ∀ offset, result = .ok offset → later = (links'.setReference id offset).1 ∧
      HasRecord longer offset (Text.encode string))
    (failure : ∀ error, result = .error error → later = links') :
    Follows longer links (⟨id, string, result⟩ :: calls) later := by
  cases result with
  | ok offset =>
    obtain ⟨rfl, has⟩ := success offset rfl
    exact follows.ok older has
  | error error =>
    obtain rfl := failure error rfl
    exact follows.error older error

end Follows

/-- A log that can be read freely could be read freely when it was shorter. -/
theorem readsFreely_of_prefix {longer : Bytes} {larger : Archive}
    (coherent : Coherent config disk log archive store)
    (coherent' : Coherent config disk' longer larger store') (older : log <+: longer)
    (freely : store'.ReadsFreely disk') : store.ReadsFreely disk := by
  rw [readsFreely_iff coherent'] at freely
  rw [readsFreely_iff coherent]
  intro position inside
  exact freely position (Nat.le_trans inside older.length_le)

/-- A run of calls leaves the store coherent with the log, which has only grown, and the identifiers
refer to what the calls say. -/
theorem Links.coherent (run : Links store disk calls store' disk')
    (coherent : Coherent config disk log archive store) :
    ∃ more larger, Coherent config disk' (log ++ more) larger store' ∧ archive <+: larger ∧
      Disk.Keeps [Path.locate config.logPath] disk disk' ∧
      Follows (log ++ more) store.links calls store'.links ∧
      (store'.ReadsFreely disk' →
        ∀ call ∈ calls, ∀ error, call.result = .error error → error.isWrite = true) := by
  induction run with
  | start =>
    exact ⟨[], archive, by rwa [List.append_nil], List.prefix_refl _, .refl .., .start .., by simp⟩
  | @call calls middle after middleDisk afterDisk id string result _ linked ih =>
    obtain ⟨before, _, middle_coherent, larger, kept, follows, failing⟩ := ih
    obtain ⟨more, final, after_coherent, grown, kept_on, success, failure⟩ :=
      link_spec middle_coherent linked
    rw [List.append_assoc] at after_coherent success
    have older : log ++ before <+: log ++ (before ++ more) := by
      rw [← List.append_assoc]
      exact List.prefix_append ..
    -- the last call is the only one that the earlier ones know nothing of
    refine ⟨_, final, after_coherent, larger.trans grown, kept.trans kept_on, ?_, ?_⟩
    · refine follows.call older (fun offset ok => ?_) fun error failed => (failure error failed).2.1
      obtain ⟨links, has, _⟩ := success offset ok
      exact ⟨links, has⟩
    · intro freely call member error failed
      have earlier := readsFreely_of_prefix middle_coherent after_coherent older freely
      rcases List.mem_cons.mp member with rfl | before
      · exact (failure error failed).2.2 earlier
      · exact failing earlier call before error failed

/-- After any calls of `link`, failed ones included, every identifier has the string of the last
call for it that succeeded. Calls fail in writing only, and a further call changes what no other
identifier has. -/
theorem stringFor_eq_last (start : OpenedFresh config store disk)
    (run : Links store disk calls store' disk') (freely : store'.ReadsFreely disk') :
    (∀ id, store'.getString disk' id = .ok (LinkCall.last? calls id)) ∧
      (∀ id, store'.stringFor disk' id =
        match LinkCall.last? calls id with
        | some string => .ok string
        | none => .error (.noString id)) ∧
      (∀ call ∈ calls, ∀ error, call.result = .error error → error.isWrite = true) ∧
      ∀ id string result after afterDisk,
        store'.link id string disk' = (result, after, afterDisk) →
        ∀ other, other ≠ id →
          after.stringFor afterDisk other = store'.stringFor disk' other := by
  obtain ⟨log, coherent, rfl⟩ := start.coherent
  obtain ⟨more, larger, after, _, _, follows, failing⟩ := run.coherent coherent
  have found (id : LinkId) : store'.getString disk' id = .ok (LinkCall.last? calls id) := by
    cases last : LinkCall.last? calls id with
    | some string =>
      obtain ⟨offset, referred, has⟩ := follows.linked id string last
      exact getString_eq_ok after freely referred has
    | none =>
      have unlinked : store'.links.referenceOf? id = none := by
        rw [follows.unlinked id last]
        simp [unlinked, LinkIndex.empty, LinkIndex.referenceOf?]
      rw [getString, unlinked]
  refine ⟨found, fun id => ?_, failing freely, ?_⟩
  · rw [stringFor, found]
    cases LinkCall.last? calls id <;> rfl
  · intro id string result final finalDisk linked other differs
    exact stringFor_link after linked differs

/-! ### A run with a broken record -/

/-- A disk with an empty log that takes three bytes of the second record and no more. -/
def sampleDisk : Disk :=
  { Disk.empty.put ["strings"] (.file 0 .empty) with
    made := 1
    faults := [none, none, none, none, some ⟨.noSpace, 3⟩] }

/-- The first call, which succeeds. -/
def sampleFirst : Except StoreError Offset × Store × Disk :=
  (unlinked sampleConfig []).link 1 "ab cd" sampleDisk

/-- The second call, which leaves a part of a record in the log. -/
def sampleSecond : Except StoreError Offset × Store × Disk :=
  sampleFirst.2.1.link 2 "ef" sampleFirst.2.2

theorem openedFresh_sample :
    OpenedFresh sampleConfig (unlinked sampleConfig []) sampleDisk where
  opened := ⟨{ Disk.empty with faults := none :: sampleDisk.faults }, rfl⟩
  fresh := by decide +kernel
  bounded log contains := by
    have empty : sampleDisk.Contains sampleConfig.logPath [] := ⟨.file 0 .empty, rfl, rfl⟩
    rw [contains.unique empty]
    exact Nat.zero_le _

/-- A short log can be read freely. -/
theorem readsFreely_of_logEnd (logEnd : Offset)
    (ends : (store.log.reader disk).map (·.logEnd) = .ok logEnd)
    (short : logEnd.toNat + windowSize < seekLimit) : store.ReadsFreely disk := by
  intro reader opened position inside
  rw [opened] at ends
  have same : reader.logEnd = logEnd := Except.ok.inj ends
  rw [same] at inside
  have near : ¬seekLimit ≤ position + windowSize := by omega
  rw [LogReader.refuses, decide_eq_false near, Bool.and_false]

theorem readsFreely_sample : sampleSecond.2.1.ReadsFreely sampleSecond.2.2 :=
  readsFreely_of_logEnd 16 (by decide +kernel) (by decide)

/-- The second string is not there, and the first one is not touched by what is left of it. -/
theorem stringFor_of_sample :
    sampleFirst.1 = .ok 0 ∧ sampleSecond.1 = .error (.write .stringSize .noSpace) ∧
      sampleSecond.2.1.stringFor sampleSecond.2.2 1 = .ok "ab cd" ∧
      sampleSecond.2.1.stringFor sampleSecond.2.2 2 = .error (.noString 2) := by
  have run : Links (unlinked sampleConfig []) sampleDisk
      [⟨2, "ef", sampleSecond.1⟩, ⟨1, "ab cd", sampleFirst.1⟩] sampleSecond.2.1 sampleSecond.2.2 :=
    .call (.call .start rfl) rfl
  obtain ⟨_, answers, _⟩ := stringFor_eq_last openedFresh_sample run readsFreely_sample
  exact ⟨by decide +kernel, by decide +kernel, (answers 1).trans (by decide +kernel),
    (answers 2).trans (by decide +kernel)⟩

end Store

end Concordance
