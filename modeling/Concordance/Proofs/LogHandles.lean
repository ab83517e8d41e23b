import Concordance.Proofs.ContentLog
import Mathlib.Logic.Relation

/-!
# Several handles on one log

Any number of handles may be open on one log. Each of them remembers where it has last seen the log
end, and this may be too early as soon as another one appends. It does not matter: an append asks
the disk where the log ends, so it never writes over a record, nor over what is left of one.
-/
namespace Concordance

open Disk (Keeps sizeLimit)

/-- The handles on a log, the records that have been appended through them, and the disk. -/
structure LogHandles where
  handles : List ContentLog
  appended : List (Offset × Bytes)
  disk : Disk

namespace LogHandles

/-- What can be done with handles on the log at `path`: a further one is opened, or a record is
appended through one of them, and each of this may fail. -/
inductive Step (path : String) : LogHandles → LogHandles → Prop
  | opens {handles : List ContentLog} {appended : List (Offset × Bytes)} {disk disk' : Disk}
      {handle : ContentLog} (opened : ContentLog.openAt path disk = (.ok handle, disk')) :
      Step path ⟨handles, appended, disk⟩ ⟨handles ++ [handle], appended, disk'⟩
  | refuses {handles : List ContentLog} {appended : List (Offset × Bytes)} {disk disk' : Disk}
      {error : StoreError} (refused : ContentLog.openAt path disk = (.error error, disk')) :
      Step path ⟨handles, appended, disk⟩ ⟨handles, appended, disk'⟩
  | appends {handles : List ContentLog} {appended : List (Offset × Bytes)} {disk disk' : Disk}
      {index : Nat} {handle handle' : ContentLog} {content : Bytes} {offset : Offset}
      (held : handles[index]? = some handle)
      (written : handle.append content disk = (.ok offset, handle', disk')) :
      Step path ⟨handles, appended, disk⟩
        ⟨handles.set index handle', appended ++ [(offset, content)], disk'⟩
  | fails {handles : List ContentLog} {appended : List (Offset × Bytes)} {disk disk' : Disk}
      {index : Nat} {handle handle' : ContentLog} {content : Bytes} {error : StoreError}
      (held : handles[index]? = some handle)
      (failed : handle.append content disk = (.error error, handle', disk')) :
      Step path ⟨handles, appended, disk⟩ ⟨handles.set index handle', appended, disk'⟩

/-- The log at `path` is a file with these bytes, or it is not there yet and nobody has a handle. -/
def IsLog (path : String) (log : Bytes) (state : LogHandles) : Prop :=
  state.disk.Contains path log ∨
    log = [] ∧ state.handles = [] ∧ ∀ bytes, ¬state.disk.Contains path bytes

/-- The records of all appends stand in the log, one behind the other, and no handle expects the log
to end later than it does. -/
structure Intact (path : String) (log : Bytes) (state : LogHandles) : Prop where
  isLog : IsLog path log state
  bounded : log.length ≤ sizeLimit
  stored : ∀ record ∈ state.appended, HasRecord log record.1 record.2
  apart : state.appended.Pairwise fun earlier later =>
    earlier.1.toNat + Word.width + earlier.2.length ≤ later.1.toNat
  behind : ∀ handle ∈ state.handles,
    handle.path = path ∧ handle.nextOffset.toNat ≤ log.length

/-- The log has only grown, and so have the records. -/
structure Grows (path : String) (log longer : Bytes) (before after : LogHandles) : Prop where
  older : log <+: longer
  records : before.appended <+: after.appended
  contains : before.disk.Contains path log → after.disk.Contains path longer

variable {path : String} {log longer : Bytes} {before after : LogHandles}
  {handles : List ContentLog} {appended : List (Offset × Bytes)} {disk disk' : Disk}

theorem Grows.refl (path : String) (log : Bytes) (state : LogHandles) :
    Grows path log log state state :=
  ⟨List.prefix_refl _, List.prefix_refl _, id⟩

theorem Grows.trans {longest : Bytes} {last : LogHandles}
    (first : Grows path log longer before after) (second : Grows path longer longest after last) :
    Grows path log longest before last where
  older := first.older.trans second.older
  records := first.records.trans second.records
  contains := second.contains ∘ first.contains

/-- Whoever has a handle has a log. -/
theorem Intact.contains {handle : ContentLog} (intact : Intact path log before)
    (held : handle ∈ before.handles) : before.disk.Contains path log := by
  rcases intact.isLog with contains | ⟨_, none, _⟩
  · exact contains
  · rw [none] at held
    exact absurd held List.not_mem_nil

/-! ### Single steps -/

/-- A handle that is opened expects the log to end where it ends. -/
theorem Intact.opens {handle : ContentLog} (intact : Intact path log ⟨handles, appended, disk⟩)
    (opened : ContentLog.openAt path disk = (.ok handle, disk')) :
    disk'.Contains path log ∧ handle.nextOffset = UInt64.ofNat log.length ∧
      Intact path log ⟨handles ++ [handle], appended, disk'⟩ := by
  obtain ⟨same, _, bytes, contains, expected, reason⟩ := ContentLog.openAt_ok opened
  obtain rfl : bytes = log := by
    rcases intact.isLog with held | ⟨rfl, _, none⟩
    · rcases reason with was | ⟨_, missing⟩
      · exact was.unique held
      · exact absurd held (missing log)
    · rcases reason with was | ⟨empty, _⟩
      · exact absurd was (none bytes)
      · exact empty
  refine ⟨contains, expected, .inl contains, intact.bounded, intact.stored, intact.apart, ?_⟩
  intro other member
  rcases List.mem_append.mp member with old | new
  · exact intact.behind other old
  · rw [List.mem_singleton.mp new, expected,
      UInt64.toNat_ofNat_of_lt' (Disk.size_lt intact.bounded)]
    exact ⟨same, Nat.le_refl _⟩

/-- An append adds a part of its record at the end of the log, all of it if it succeeds, wherever
the handle has expected the end. -/
theorem Intact.append {index : Nat} {handle handle' : ContentLog} {content : Bytes}
    {result : Except StoreError Offset} (intact : Intact path log ⟨handles, appended, disk⟩)
    (held : handles[index]? = some handle)
    (written : handle.append content disk = (result, handle', disk')) :
    ∃ more, disk'.Contains path (log ++ more) ∧
      (∀ offset, result = .ok offset →
        offset = UInt64.ofNat log.length ∧ more = logRecord content) ∧
      ((∃ cause, result = .error (.write (.openFile path) cause)) ∨
        handle'.nextOffset.toNat = (log ++ more).length) ∧
      Intact path (log ++ more) ⟨handles.set index handle', appended, disk'⟩ := by
  have member := List.mem_of_getElem? held
  obtain ⟨rfl, shorter⟩ := intact.behind handle member
  obtain ⟨_, same, _, more, _, contains, bounded, whole, _, next⟩ :=
    ContentLog.append_spec written (intact.contains member) intact.bounded
  have longer := List.prefix_append log more
  have ends : (∃ cause, result = .error (.write (.openFile handle.path) cause)) ∨
      handle'.nextOffset.toNat = (log ++ more).length := by
    rcases next with ⟨_, _, refused⟩ | expected
    · exact .inl refused
    · rw [expected]
      exact .inr (UInt64.toNat_ofNat_of_lt' (Disk.size_lt bounded))
  refine ⟨more, contains, whole, ends, .inl contains, bounded,
    fun record old => (intact.stored record old).mono longer, intact.apart, ?_⟩
  intro other changed
  rcases List.mem_or_eq_of_mem_set changed with old | rfl
  · obtain ⟨path_same, less⟩ := intact.behind other old
    exact ⟨path_same, Nat.le_trans less longer.length_le⟩
  · refine ⟨same, ?_⟩
    rcases next with ⟨_, rfl, _⟩ | expected
    · exact Nat.le_trans shorter longer.length_le
    · rw [expected]
      exact Nat.le_of_eq (UInt64.toNat_ofNat_of_lt' (Disk.size_lt bounded))

/-- After each step the log has grown or stayed, and every record is where it was. -/
theorem Step.intact (step : Step path before after) (intact : Intact path log before) :
    ∃ longer, Grows path log longer before after ∧ Intact path longer after := by
  cases step with
  | opens opened =>
    obtain ⟨contains, _, intact⟩ := intact.opens opened
    exact ⟨log, ⟨List.prefix_refl _, List.prefix_refl _, fun _ => contains⟩, intact⟩
  | refuses refused =>
    obtain rfl := ContentLog.openAt_error refused
    exact ⟨log, ⟨List.prefix_refl _, List.prefix_refl _, id⟩, intact.isLog, intact.bounded,
      intact.stored, intact.apart, intact.behind⟩
  | @appends handles appended disk disk' index handle handle' content offset held written =>
    obtain ⟨more, contains, whole, _, grown⟩ := intact.append held written
    obtain ⟨rfl, rfl⟩ := whole offset rfl
    have fits := Disk.size_lt intact.bounded
    refine ⟨_, ⟨List.prefix_append .., List.prefix_append .., fun _ => contains⟩, grown.isLog,
      grown.bounded, ?_, ?_, grown.behind⟩
    · intro record member
      rcases List.mem_append.mp member with old | new
      · exact grown.stored record old
      · rw [List.mem_singleton.mp new]
        exact HasRecord.append log content fits
    · -- the new record begins where the log ended, behind all others
      refine List.pairwise_append.mpr ⟨intact.apart, List.pairwise_singleton .., ?_⟩
      intro record old last here
      rw [List.mem_singleton.mp here, UInt64.toNat_ofNat_of_lt' fits]
      exact (intact.stored record old).end_le
  | fails held failed =>
    obtain ⟨more, contains, _, _, grown⟩ := intact.append held failed
    exact ⟨_, ⟨List.prefix_append .., List.prefix_refl _, fun _ => contains⟩, grown⟩

/-! ### Runs -/

/-- One step after the other. -/
abbrev Run (path : String) : LogHandles → LogHandles → Prop := Relation.ReflTransGen (Step path)

theorem Run.intact (run : Run path before after) (intact : Intact path log before) :
    ∃ longer, Grows path log longer before after ∧ Intact path longer after := by
  induction run with
  | refl => exact ⟨log, .refl path log before, intact⟩
  | tail _ step ih =>
    obtain ⟨longer, grows, intact⟩ := ih
    obtain ⟨longest, further, intact⟩ := step.intact intact
    exact ⟨longest, grows.trans further, intact⟩

/-- A log that nobody has a handle on yet. -/
theorem intact_start (bounded : ∀ bytes, disk.Contains path bytes → bytes.length ≤ sizeLimit) :
    ∃ log, Intact path log ⟨[], [], disk⟩ := by
  by_cases there : ∃ bytes, disk.Contains path bytes
  · obtain ⟨bytes, contains⟩ := there
    exact ⟨bytes, .inl contains, bounded bytes contains, by simp, List.Pairwise.nil, by simp⟩
  · refine ⟨[], .inr ⟨rfl, rfl, fun bytes contains => there ⟨bytes, contains⟩⟩, Nat.zero_le _,
      by simp, List.Pairwise.nil, by simp⟩

/-- However many handles are open on a log and however their appends alternate and break off, the
log only grows and the records of all appends that have succeeded stand in it one behind the other.
Through every handle each of them is read as it was written, unless it ends less than a window
before the last offset and is refused. No handle expects the log to end later than it does, and one
that has just been opened or has just written expects it to end where it ends. -/
theorem append_shared {start : Disk} {earlier later : LogHandles}
    (bounded : ∀ bytes, start.Contains path bytes → bytes.length ≤ sizeLimit)
    (before : Run path ⟨[], [], start⟩ earlier) (after : Run path earlier later) :
    (∀ old, earlier.disk.Contains path old →
      ∃ new, later.disk.Contains path new ∧ old <+: new) ∧
    earlier.appended <+: later.appended ∧
    (later.appended.Pairwise fun first second =>
      first.1.toNat + Word.width + first.2.length ≤ second.1.toNat) ∧
    (∀ handle ∈ later.handles, ∀ offset content, (offset, content) ∈ later.appended →
      (∃ log, later.disk.Contains path log ∧ HasRecord log offset content) ∧
      (offset.toNat + Word.width + content.length + windowSize < seekLimit →
        handle.read later.disk offset = .ok content) ∧
      ∀ bytes, handle.read later.disk offset = .ok bytes → bytes = content) ∧
    (∀ handle ∈ later.handles, ∃ log, later.disk.Contains path log ∧
      handle.nextOffset.toNat ≤ log.length) ∧
    (∀ handle disk', ContentLog.openAt path later.disk = (.ok handle, disk') →
      ∃ log, disk'.Contains path log ∧ handle.nextOffset.toNat = log.length) ∧
    ∀ handle ∈ later.handles, ∀ content result handle' disk',
      handle.append content later.disk = (result, handle', disk') →
        (∀ cause, result ≠ .error (.write (.openFile path) cause)) →
          ∃ log, disk'.Contains path log ∧ handle'.nextOffset.toNat = log.length := by
  obtain ⟨first, fresh⟩ := intact_start bounded
  obtain ⟨log, _, intact⟩ := before.intact fresh
  obtain ⟨longer, grows, intact'⟩ := after.intact intact
  obtain ⟨handles, appended, disk⟩ := later
  have toNat_length : (UInt64.ofNat longer.length).toNat = longer.length :=
    UInt64.toNat_ofNat_of_lt' (Disk.size_lt intact'.bounded)
  refine ⟨fun old contains => ?_, grows.records, intact'.apart,
    fun handle held offset content member => ?_, fun handle held => ?_,
    fun handle disk' opened => ?_,
    fun handle held content result handle' disk' written wrote => ?_⟩
  · rcases intact.isLog with there | ⟨_, _, missing⟩
    · rw [contains.unique there]
      exact ⟨longer, grows.contains there, grows.older⟩
    · exact absurd contains (missing old)
  · have contains := intact'.contains held
    have has := intact'.stored _ member
    obtain ⟨rfl, _⟩ := intact'.behind handle held
    have read := ContentLog.read_eq contains intact'.bounded has
    refine ⟨⟨longer, contains, has⟩, fun near => ?_, fun bytes same => ?_⟩
    · rw [read, (LogReader.IsNear.of_end_lt near).outcome_eq]
    · rw [read] at same
      exact LogReader.eq_of_outcome same
  · exact ⟨longer, intact'.contains held, (intact'.behind handle held).2⟩
  · obtain ⟨contains, expected, _⟩ := intact'.opens opened
    exact ⟨longer, contains, by rw [expected, toNat_length]⟩
  · obtain ⟨index, held⟩ := List.mem_iff_getElem?.mp held
    obtain ⟨more, contains, _, ends, _⟩ := intact'.append held written
    rcases ends with ⟨cause, refused⟩ | expected
    · exact absurd refused (wrote cause)
    · exact ⟨_, contains, expected⟩

/-! ### A record that is cut short -/

/-- A disk that fails in the middle of the second record. -/
def cutDisk : Disk :=
  { Disk.empty with faults := List.replicate 6 none ++ [some ⟨.noSpace, 3⟩] }

def cutOpened : Disk := (ContentLog.openAt "log" (ContentLog.openAt "log" cutDisk).2).2

/-- The first record, through the first handle. -/
def cutFirst : Except StoreError Offset × ContentLog × Disk :=
  (ContentLog.mk "log" 0).append [97, 98] cutOpened

/-- The record that is cut short, through the second handle. -/
def cutOther : Except StoreError Offset × ContentLog × Disk :=
  (ContentLog.mk "log" 0).append [99, 100] cutFirst.2.2

/-- The record behind it, through the first handle. -/
def cutLast : Except StoreError Offset × ContentLog × Disk :=
  cutFirst.2.1.append [101] cutOther.2.2

theorem run_cut : Run "log" ⟨[], [], cutDisk⟩
    ⟨[cutLast.2.1, cutOther.2.1], [(0, [97, 98]), (13, [101])], cutLast.2.2⟩ := by
  have opened : ContentLog.openAt "log" cutDisk =
      (.ok ⟨"log", 0⟩, (ContentLog.openAt "log" cutDisk).2) :=
    Prod.ext (by decide +kernel) rfl
  have again : ContentLog.openAt "log" (ContentLog.openAt "log" cutDisk).2 =
      (.ok ⟨"log", 0⟩, cutOpened) :=
    Prod.ext (by decide +kernel) rfl
  have first : (ContentLog.mk "log" 0).append [97, 98] cutOpened =
      (.ok 0, cutFirst.2.1, cutFirst.2.2) :=
    Prod.ext (by decide +kernel) rfl
  have other : (ContentLog.mk "log" 0).append [99, 100] cutFirst.2.2 =
      (.error (.write .stringSize .noSpace), cutOther.2.1, cutOther.2.2) :=
    Prod.ext (by decide +kernel) rfl
  have last : cutFirst.2.1.append [101] cutOther.2.2 = (.ok 13, cutLast.2.1, cutLast.2.2) :=
    Prod.ext (by decide +kernel) rfl
  have start : Run "log" ⟨[], [], cutDisk⟩ ⟨[⟨"log", 0⟩, ⟨"log", 0⟩], [], cutOpened⟩ :=
    .tail (.single (.opens opened)) (.opens again)
  have held_first : [ContentLog.mk "log" 0, ⟨"log", 0⟩][0]? = some ⟨"log", 0⟩ := rfl
  have held_other : [cutFirst.2.1, ⟨"log", 0⟩][1]? = some ⟨"log", 0⟩ := rfl
  have held_last : [cutFirst.2.1, cutOther.2.1][0]? = some cutFirst.2.1 := rfl
  exact ((start.tail (.appends held_first first)).tail (.fails held_other other)).tail
    (.appends held_last last)

/-- The second handle expects the end behind what is left of its record, and reads there what the
first handle has written. -/
theorem append_shared_of_cut :
    cutOther.2.1.nextOffset = 13 ∧ cutOther.2.1.read cutLast.2.2 13 = .ok [101] ∧
      cutOther.2.1.read cutLast.2.2 0 = .ok [97, 98] := by
  have bounded (bytes : Bytes) (contains : cutDisk.Contains "log" bytes) :
      bytes.length ≤ sizeLimit := by
    obtain ⟨entry, found, _⟩ := contains
    have missing : cutDisk.find "log" = .error .notFound := by decide +kernel
    rw [missing] at found
    cases found
  obtain ⟨_, _, _, reads, _⟩ := append_shared bounded .refl run_cut
  have held : cutOther.2.1 ∈ [cutLast.2.1, cutOther.2.1] := by simp
  refine ⟨by decide +kernel, ?_, ?_⟩
  · exact (reads _ held 13 [101] (by simp)).2.1 (by decide +kernel)
  · exact (reads _ held 0 [97, 98] (by simp)).2.1 (by decide +kernel)

/-! ### A log of almost the greatest size -/

/-- A log with nothing but a hole. -/
def farDisk : Disk :=
  Disk.empty.put ["log"] (.file 0 ⟨[.hole 9223372036854775707]⟩)

def farAppend : Except StoreError Offset × ContentLog × Disk :=
  (ContentLog.mk "log" 9223372036854775707).append [97, 98] farDisk

/-- Of this log the last record cannot be read, though there was room for it. -/
theorem append_unread :
    Run "log" ⟨[], [], farDisk⟩
      ⟨[farAppend.2.1], [(9223372036854775707, [97, 98])], farAppend.2.2⟩ ∧
    farAppend.2.2.sizeAt ["log"] ≤ sizeLimit ∧
    farAppend.2.1.read farAppend.2.2 9223372036854775707 =
      .error (.read .stringSize .invalidArgument) := by
  have opened : ContentLog.openAt "log" farDisk = (.ok ⟨"log", 9223372036854775707⟩, farDisk) :=
    Prod.ext (by decide +kernel) rfl
  have written : (ContentLog.mk "log" 9223372036854775707).append [97, 98] farDisk =
      (.ok 9223372036854775707, farAppend.2.1, farAppend.2.2) :=
    Prod.ext (by decide +kernel) rfl
  refine ⟨?_, by decide +kernel, by decide +kernel⟩
  have held : [ContentLog.mk "log" 9223372036854775707][0]? =
      some ⟨"log", 9223372036854775707⟩ := rfl
  exact .tail (.single (.opens opened)) (.appends held written)

end LogHandles

end Concordance
