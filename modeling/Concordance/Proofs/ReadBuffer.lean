import Concordance.ReadBuffer
import Concordance.Proofs.ContentLog

/-!
# Calls on a reader do not depend on each other

Whatever has been read through a buffer before, the next call answers as `LogReader` says. While a
content is being collected, the file from the content's beginning on is what has been collected,
then what is waiting, then what has not been asked for; `Intake` counts the same without the bytes.
Windows only move forward, so the last one is refused if any of them is.
-/
namespace Concordance

open Disk (sizeLimit)

namespace Intake

variable {size present : Nat} {intake : Intake}

/-- The largest portion that is collected next. -/
def portion (intake : Intake) : Nat :=
  let room := if intake.collected = intake.room then 2 * intake.room else intake.room
  min (room - intake.collected) intake.most

/-- The number of bytes of a content of `size` bytes that are asked for next. -/
def wanted (size : Nat) (intake : Intake) : Nat :=
  min intake.portion (size - intake.collected)

theorem wanted_le (size : Nat) (intake : Intake) :
    intake.wanted size ≤ size - intake.collected :=
  Nat.min_le_right ..

/-! A portion is taken from what is waiting, asked for directly, or taken from a new window. -/

theorem next_of_waiting (size present : Nat) (some : intake.buffered ≠ 0) :
    (intake.next size present).collected =
        intake.collected + min (intake.wanted size) intake.buffered ∧
      (intake.next size present).buffered =
        intake.buffered - min (intake.wanted size) intake.buffered ∧
      (intake.next size present).windowStart = intake.windowStart := by
  simp [next, wanted, portion, some]

theorem next_of_direct (present : Nat) (none : intake.buffered = 0)
    (many : windowSize ≤ intake.wanted size) :
    (intake.next size present).collected =
        intake.collected + min (intake.wanted size) (present - intake.collected) ∧
      (intake.next size present).buffered = 0 ∧
      (intake.next size present).windowStart = intake.windowStart := by
  simp only [wanted, portion] at many
  simp only [next, wanted, portion, none, many, true_and, not_true, if_true, if_false]

theorem next_of_window (present : Nat) (none : intake.buffered = 0)
    (few : ¬windowSize ≤ intake.wanted size) :
    (intake.next size present).collected = intake.collected +
        min (intake.wanted size) (min windowSize (present - intake.collected)) ∧
      (intake.next size present).buffered = min windowSize (present - intake.collected) -
        min (intake.wanted size) (min windowSize (present - intake.collected)) ∧
      (intake.next size present).windowStart = Word.width + intake.collected := by
  simp only [wanted, portion] at few
  simp only [next, wanted, portion, none, few, true_and, not_false_iff, if_true, if_false]

/-- There is always room for more. -/
theorem room_next (present : Nat) (room : intake.collected ≤ intake.room ∧ 0 < intake.room) :
    (intake.next size present).collected ≤ (intake.next size present).room ∧
      0 < (intake.next size present).room := by
  have larger : intake.collected ≤
        (if intake.collected = intake.room then 2 * intake.room else intake.room) ∧
      0 < (if intake.collected = intake.room then 2 * intake.room else intake.room) := by
    split <;> omega
  simp only [next]
  omega

theorem most_next (present : Nat) (most : 0 < intake.most) :
    0 < (intake.next size present).most := by
  exact iteInduction (motive := (0 < ·)) (fun _ => by omega) fun _ => most

/-- The largest portion doubles when one of that size has arrived complete. -/
theorem most_next_eq {present count : Nat}
    (arrived : (intake.next size present).collected = intake.collected + count) :
    (intake.next size present).most =
      if count = intake.portion ∧ intake.portion = intake.most then 2 * intake.most
      else intake.most := by
  have same := Nat.add_left_cancel arrived
  rw [← same]
  rfl

/-- If nothing arrives any more, nothing is missing of what is there. -/
theorem present_le_of_stays {present : Nat} (unfinished : intake.collected < size)
    (room : intake.collected ≤ intake.room ∧ 0 < intake.room) (most : 0 < intake.most)
    (stays : (intake.next size present).collected = intake.collected) :
    present ≤ intake.collected := by
  have more : 0 < intake.wanted size := by
    have larger : intake.collected <
        (if intake.collected = intake.room then 2 * intake.room else intake.room) := by
      split <;> omega
    simp only [wanted, portion]
    omega
  by_cases none : intake.buffered = 0
  · by_cases many : windowSize ≤ intake.wanted size
    · have arrived := (next_of_direct present none many).1
      omega
    · have arrived := (next_of_window present none many).1
      simp only [windowSize] at arrived
      omega
  · have arrived := (next_of_waiting size present none).1
    omega

/-! Windows only move forward. -/

theorem windowStart_next (size present : Nat) (intake : Intake) :
    (intake.next size present).windowStart = Word.width + intake.collected ∨
      (intake.next size present).windowStart = intake.windowStart := by
  simp only [next]
  exact ite_eq_or_eq ..

theorem windowStart_le_next (before : intake.windowStart ≤ Word.width + intake.collected) :
    intake.windowStart ≤ (intake.next size present).windowStart := by
  rcases windowStart_next size present intake with moved | stays <;> omega

theorem windowStart_next_before (size present : Nat)
    (before : intake.windowStart ≤ Word.width + intake.collected) :
    (intake.next size present).windowStart ≤
      Word.width + (intake.next size present).collected := by
  have forward : intake.collected ≤ (intake.next size present).collected :=
    Nat.le_add_right ..
  exact windowStart_next_le present (by omega) (by omega)

/-- No later window begins before an earlier one. -/
theorem le_finish (size present : Nat)
    (before : intake.windowStart ≤ Word.width + intake.collected) :
    intake.windowStart ≤ intake.finish size present := by
  fun_induction finish size present intake with
  | case1 => exact le_rfl
  | case2 intake _ following _ => exact windowStart_le_next before
  | case3 intake _ following _ ih =>
    exact (windowStart_le_next before).trans (ih (windowStart_next_before _ _ before))

end Intake

theorem LogReader.isFar_mono {position later : Nat} (after : position ≤ later)
    (far : isFar position = true) : isFar later = true := by
  rw [isFar, decide_eq_true_iff] at *
  omega

namespace ReadBuffer

variable {number : Nat} {body : FileBody} {buffer : ReadBuffer}

/-! A file whose bytes are wanted from `position` on, when nothing is waiting. -/

section Empty

variable {position wanted : Nat}

theorem request_file (count : Nat) :
    request (.file number body) count ⟨position, []⟩ =
      if seekLimit ≤ position + count then (.error .invalidArgument, ⟨position, []⟩)
      else
        let bytes := (body.toList.drop position).take count
        (.ok bytes, ⟨position + bytes.length, []⟩) := by
  simp [request, Entry.slice, FileBody.slice_eq]

theorem take_direct (many : windowSize ≤ wanted) (near : position + wanted < seekLimit) :
    take (.file number body) wanted ⟨position, []⟩ =
      let bytes := (body.toList.drop position).take wanted
      (.ok bytes, ⟨position + bytes.length, []⟩) := by
  rw [take, if_neg (not_not.mpr rfl), if_pos many, request_file, if_neg (Nat.not_le.mpr near)]

theorem take_window (few : ¬windowSize ≤ wanted) :
    take (.file number body) wanted ⟨position, []⟩ =
      if LogReader.isFar position then (.error .invalidArgument, ⟨position, []⟩)
      else
        let window := (body.toList.drop position).take windowSize
        (.ok (window.take wanted), ⟨position + window.length, window.drop wanted⟩) := by
  rw [take, if_neg (not_not.mpr rfl), if_neg few, request_file]
  by_cases far : seekLimit ≤ position + windowSize <;> simp [LogReader.isFar, far]

end Empty

/-! ### What is waiting -/

/-- From `start` on the log is what has been collected, then what is waiting, then the rest. -/
structure Holds (log : Bytes) (start : Nat) (collected : Bytes) (buffer : ReadBuffer) : Prop where
  split : log.drop start = collected ++ (buffer.waiting ++ log.drop buffer.position)
  position : buffer.position = start + collected.length + buffer.waiting.length

section Holds

variable {log collected : Bytes} {start : Nat}

theorem Holds.taken (holds : Holds log start collected buffer) (wanted : Nat) :
    Holds log start (collected ++ buffer.waiting.take wanted)
      { buffer with waiting := buffer.waiting.drop wanted } := by
  constructor
  · dsimp only
    rw [holds.split, List.append_assoc, ← List.append_assoc (buffer.waiting.take wanted),
      List.take_append_drop]
  · dsimp only
    rw [holds.position, List.length_append, List.length_take, List.length_drop]
    omega

/-- What has arrived is waiting. -/
theorem Holds.arrived {position : Nat} (holds : Holds log start collected ⟨position, []⟩)
    (count : Nat) :
    Holds log start collected
      ⟨position + ((log.drop position).take count).length, (log.drop position).take count⟩ := by
  constructor
  · dsimp only
    have rest : log.drop (position + ((log.drop position).take count).length) =
        (log.drop position).drop count := by
      rw [← List.drop_drop, List.length_take]
      rcases Nat.le_total count (log.drop position).length with whole | short
      · rw [Nat.min_eq_left whole]
      · rw [Nat.min_eq_right short, List.drop_length, List.drop_of_length_le short]
    rw [rest, List.take_append_drop]
    simpa using holds.split
  · have position := holds.position
    dsimp only [List.length_nil] at *
    omega

theorem Holds.length (holds : Holds log start collected buffer) :
    log.length - start =
      collected.length + (buffer.waiting.length + (log.length - buffer.position)) := by
  have split := congrArg List.length holds.split
  simpa only [List.length_append, List.length_drop] using split

end Holds

/-! ### Portions -/

/-- How many bytes of a content of `size` bytes are in the log. -/
def presentOf (log : Bytes) (offset size : Nat) : Nat :=
  min size (log.length - (offset + Word.width))

/-- A reader has collected the beginning of a content, and `intake` counts it. No window has been
refused so far. -/
structure Follows (log : Bytes) (offset size : Nat) (collected : Bytes) (buffer : ReadBuffer)
    (intake : Intake) : Prop where
  holds : Holds log (offset + Word.width) collected buffer
  within : collected.length ≤ size
  count : intake.collected = collected.length
  /-- Bytes behind the content do not count. -/
  buffered : intake.buffered = min buffer.waiting.length (size - collected.length)
  before : intake.windowStart ≤ Word.width + intake.collected
  near : LogReader.isFar (offset + intake.windowStart) = false
  room : intake.collected ≤ intake.room ∧ 0 < intake.room
  most : 0 < intake.most

section Follows

variable {log collected : Bytes} {offset size : Nat} {intake : Intake}

/-- `Intake` counts on if it counts what has arrived and what is waiting now. -/
theorem Follows.on {bytes : Bytes} {after : ReadBuffer} {present : Nat}
    (follows : Follows log offset size collected buffer intake)
    (holds : Holds log (offset + Word.width) (collected ++ bytes) after)
    (arrived : (intake.next size present).collected = intake.collected + bytes.length)
    (buffered : (intake.next size present).buffered =
      min after.waiting.length (size - (intake.collected + bytes.length)))
    (near : LogReader.isFar (offset + (intake.next size present).windowStart) = false) :
    Follows log offset size (collected ++ bytes) after (intake.next size present) := by
  have length : (collected ++ bytes).length = intake.collected + bytes.length := by
    rw [List.length_append, follows.count]
  refine ⟨holds, ?_, by rw [arrived, length], by rw [buffered, length],
    Intake.windowStart_next_before _ _ follows.before, near, Intake.room_next present follows.room,
    Intake.most_next present follows.most⟩
  rw [length, ← arrived]
  refine Intake.collected_next_le present ?_
  rw [follows.count]
  exact follows.within

/-- What taking the next portion comes to: the window for it is refused, or something arrives and
is counted. -/
inductive Advances (log : Bytes) (offset size : Nat) (collected : Bytes) (intake : Intake) :
    Except Cause Bytes × ReadBuffer → Prop
  | refused {after : ReadBuffer}
      (far : LogReader.isFar
        (offset + (intake.next size (presentOf log offset size)).windowStart) = true) :
      Advances log offset size collected intake (.error .invalidArgument, after)
  | arrived {bytes : Bytes} {after : ReadBuffer}
      (follows : Follows log offset size (collected ++ bytes) after
        (intake.next size (presentOf log offset size))) :
      Advances log offset size collected intake (.ok bytes, after)

/-- A portion of what is waiting. -/
theorem Follows.advances_waiting (follows : Follows log offset size collected buffer intake)
    (unfinished : collected.length < size) (some : buffer.waiting ≠ []) (source : Entry) :
    Advances log offset size collected intake (buffer.take source (intake.wanted size)) := by
  have count := follows.count
  have buffered := follows.buffered
  have length := follows.holds.length
  have positive := List.length_pos_iff.mpr some
  obtain ⟨arrived, left, window⟩ :=
    Intake.next_of_waiting size (presentOf log offset size)
      (show intake.buffered ≠ 0 by omega)
  have most := intake.wanted_le size
  rw [take, if_pos some]
  refine .arrived (follows.on (follows.holds.taken _) ?_ ?_ ?_)
  · rw [arrived, List.length_take]
    omega
  · rw [left]
    simp only [List.length_take, List.length_drop]
    omega
  · rw [window]
    exact follows.near

section Empty

variable {position : Nat}

/-- What is left of a window is the same whether the bytes behind the content count or not. -/
theorem left_of_window {wanted window missing rest : Nat} (few : wanted < window)
    (most : wanted ≤ missing) :
    min window (min missing rest) - min wanted (min window (min missing rest)) =
      min (min window rest - wanted) (missing - min wanted (min window rest)) := by
  omega

/-- If nothing is waiting, the next request begins behind what has been collected. -/
theorem Follows.place (follows : Follows log offset size collected ⟨position, []⟩ intake) :
    intake.buffered = 0 ∧ position = offset + (Word.width + intake.collected) ∧
      min size (log.length - (offset + Word.width)) - intake.collected =
        min (size - intake.collected) (log.length - position) := by
  have placed := follows.holds.position
  have count := follows.count
  dsimp only [List.length_nil] at placed
  refine ⟨by rw [follows.buffered, List.length_nil, Nat.zero_min], by omega, by omega⟩

/-- A portion that is asked for directly. -/
theorem Follows.advances_direct
    (follows : Follows body.toList offset size collected ⟨position, []⟩ intake)
    (fits : offset + Word.width + size ≤ sizeLimit) (unfinished : collected.length < size)
    (many : windowSize ≤ intake.wanted size) :
    Advances body.toList offset size collected intake
      (take (.file number body) (intake.wanted size) ⟨position, []⟩) := by
  obtain ⟨none, placed, left_there⟩ := follows.place
  have count := follows.count
  -- no file reaches past the last offset
  have most := intake.wanted_le size
  have near : position + intake.wanted size < seekLimit := by
    rw [seekLimit]
    rw [sizeLimit] at fits
    omega
  obtain ⟨arrived, left, window⟩ :=
    Intake.next_of_direct (presentOf body.toList offset size) none many
  have all := (follows.holds.arrived (intake.wanted size)).taken (intake.wanted size)
  rw [List.take_take, Nat.min_self, List.drop_take_self] at all
  rw [take_direct many near]
  refine .arrived (follows.on all ?_ ?_ ?_)
  · rw [arrived, List.length_take, List.length_drop, presentOf, left_there]
    omega
  · rw [left, List.length_nil, Nat.zero_min]
  · rw [window]
    exact follows.near

/-- A portion of a new window. -/
theorem Follows.advances_window
    (follows : Follows body.toList offset size collected ⟨position, []⟩ intake)
    (few : ¬windowSize ≤ intake.wanted size) :
    Advances body.toList offset size collected intake
      (take (.file number body) (intake.wanted size) ⟨position, []⟩) := by
  obtain ⟨none, placed, left_there⟩ := follows.place
  have most := intake.wanted_le size
  obtain ⟨arrived, left, window⟩ :=
    Intake.next_of_window (presentOf body.toList offset size) none few
  rw [take_window few]
  split
  · next far =>
    rw [placed, ← window] at far
    exact .refused far
  · next near =>
    rw [placed, ← window, Bool.not_eq_true] at near
    refine .arrived (follows.on ((follows.holds.arrived windowSize).taken _) ?_ ?_ near)
    · rw [arrived, presentOf, left_there]
      simp only [List.length_take, List.length_drop]
      omega
    · rw [left, presentOf, left_there, ← Nat.sub_sub]
      simp only [List.length_take, List.length_drop]
      exact left_of_window (Nat.not_le.mp few) most

end Empty

theorem Follows.advances (number : Nat)
    (follows : Follows body.toList offset size collected buffer intake)
    (fits : offset + Word.width + size ≤ sizeLimit) (unfinished : collected.length < size) :
    Advances body.toList offset size collected intake
      (buffer.take (.file number body) (intake.wanted size)) := by
  by_cases some : buffer.waiting ≠ []
  · exact follows.advances_waiting unfinished some _
  · obtain ⟨position, waiting⟩ := buffer
    obtain rfl := not_not.mp some
    by_cases many : windowSize ≤ intake.wanted size
    · exact follows.advances_direct fits unfinished many
    · exact follows.advances_window many

/-- When the last portion has been taken, all of the content has been collected that is there. -/
theorem Follows.collected_eq (follows : Follows log offset size collected buffer intake)
    (finished : collected.length = presentOf log offset size) :
    collected = (log.drop (offset + Word.width)).take size := by
  have split := follows.holds.split
  have length := congrArg List.length split
  rw [presentOf] at finished
  rw [List.length_drop, List.length_append] at length
  rcases Nat.le_total size (log.length - (offset + Word.width)) with whole | short
  · rw [split, List.take_left' (by omega)]
  · have rest : buffer.waiting ++ log.drop buffer.position = [] :=
      List.eq_nil_of_length_eq_zero (by omega)
    rw [split, rest, List.append_nil, List.take_of_length_le follows.within]

section Step

variable {source : Entry} {after : ReadBuffer} (count : intake.collected = collected.length)
  (unfinished : collected.length < size)

include count unfinished

theorem collect_of_refused {cause : Cause}
    (taken : buffer.take source (intake.wanted size) = (.error cause, after)) :
    buffer.collect source size collected intake.room intake.most = (.error cause, after) := by
  simp only [Intake.wanted, Intake.portion] at taken
  rw [collect, if_neg (Nat.not_le.mpr unfinished), ← count]
  dsimp only
  rw [taken]

theorem collect_of_taken {bytes : Bytes} {present : Nat}
    (taken : buffer.take source (intake.wanted size) = (.ok bytes, after))
    (arrived : (intake.next size present).collected = intake.collected + bytes.length) :
    buffer.collect source size collected intake.room intake.most =
      if bytes = [] then (.ok collected, after)
      else
        after.collect source size (collected ++ bytes) (intake.next size present).room
          (intake.next size present).most := by
  rw [Intake.most_next_eq arrived]
  simp only [Intake.wanted, Intake.portion] at taken
  rw [collect, if_neg (Nat.not_le.mpr unfinished), ← count]
  dsimp only
  rw [taken]
  rfl

end Step

/-- One step of collecting a content, in terms of `Intake`. -/
theorem Follows.collect_step (number : Nat)
    (follows : Follows body.toList offset size collected buffer intake)
    (fits : offset + Word.width + size ≤ sizeLimit) (unfinished : collected.length < size) :
    let following := intake.next size (presentOf body.toList offset size)
    let result := buffer.collect (.file number body) size collected intake.room intake.most
    (result.1 = .error .invalidArgument ∧
      LogReader.isFar (offset + following.windowStart) = true) ∨
    ∃ bytes after, Follows body.toList offset size (collected ++ bytes) after following ∧
      result = if bytes = [] then (.ok collected, after)
        else
          after.collect (.file number body) size (collected ++ bytes) following.room
            following.most := by
  intro following result
  have advances := follows.advances number fits unfinished
  cases taken : buffer.take (.file number body) (intake.wanted size) with | mk outcome after =>
  rw [taken] at advances
  cases advances with
  | refused far =>
    exact .inl ⟨congrArg Prod.fst (collect_of_refused follows.count unfinished taken), far⟩
  | @arrived bytes _ now =>
    have arrived := now.count
    rw [List.length_append, ← follows.count] at arrived
    exact .inr ⟨bytes, after, now, collect_of_taken follows.count unfinished taken arrived⟩

/-- Collecting a content gives what is there of it, unless the last window is refused. -/
theorem Follows.collect_eq (number : Nat)
    (follows : Follows body.toList offset size collected buffer intake)
    (fits : offset + Word.width + size ≤ sizeLimit) :
    (buffer.collect (.file number body) size collected intake.room intake.most).1 =
      if LogReader.isFar (offset + intake.finish size (presentOf body.toList offset size)) then
        .error .invalidArgument
      else .ok ((body.toList.drop (offset + Word.width)).take size) := by
  -- the recursion of `Intake.finish` carries the buffer along: one case for each way to go on
  induction intake using Intake.finish.induct size (presentOf body.toList offset size)
    generalizing collected buffer with
  | case1 intake finished =>
    have count := follows.count
    have length := follows.holds.length
    have within := follows.within
    rw [collect, if_pos (by omega), Intake.finish, if_pos finished,
      if_neg (Bool.eq_false_iff.mp follows.near),
      ← follows.collected_eq (by rw [presentOf]; omega)]
  | case2 intake unfinished following =>
    rename_i stays
    have count := follows.count
    have within := follows.within
    rw [Intake.finish, if_neg unfinished, if_pos stays]
    obtain ⟨refused, far⟩ | ⟨bytes, after, now, step⟩ :=
      follows.collect_step number fits (by omega)
    · rw [refused, if_pos far]
    · -- nothing has arrived, so the file ends where it has been read to
      have same := now.count
      rw [stays, count, List.length_append] at same
      obtain rfl : bytes = [] := List.eq_nil_of_length_eq_zero (by omega)
      have all := Intake.present_le_of_stays (by omega) follows.room follows.most stays
      have length := follows.holds.length
      have complete := follows.collected_eq (by simp only [presentOf] at *; omega)
      rw [step, if_pos rfl, if_neg (Bool.eq_false_iff.mp now.near), ← complete]
  | case3 intake unfinished following moved =>
    rename_i ih
    have count := follows.count
    have within := follows.within
    rw [Intake.finish, if_neg unfinished, if_neg moved]
    obtain ⟨refused, far⟩ | ⟨bytes, after, now, step⟩ :=
      follows.collect_step number fits (by omega)
    · -- the last window begins no earlier than this one
      have last := Intake.le_finish size (presentOf body.toList offset size)
        (Intake.windowStart_next_before size (presentOf body.toList offset size) follows.before)
      rw [refused, if_pos (LogReader.isFar_mono (Nat.add_le_add_left last offset) far)]
    · have some : bytes ≠ [] := by
        rintro rfl
        have same := now.count
        rw [List.append_nil, ← count] at same
        exact moved same
      rw [step, if_neg some]
      exact ih now

end Follows

/-! ### Calls -/

/-- What the size at `position` comes to. If the file ends within the size, the rest of it is asked
for from there on. -/
def headerIn (log : Bytes) (position : Nat) : Except Cause Bytes :=
  let header := (log.drop position).take Word.width
  if LogReader.isFar position then .error .invalidArgument
  else if header.length < Word.width then
    if LogReader.isFar (position + header.length) then .error .invalidArgument
    else .error .endOfFile
  else .ok header

theorem headerIn_eq_ok_iff {log header : Bytes} {position : Nat} :
    headerIn log position = .ok header ↔
      LogReader.isFar position = false ∧ position + Word.width ≤ log.length ∧
        header = (log.drop position).take Word.width := by
  have length : ((log.drop position).take Word.width).length =
      min Word.width (log.length - position) := by
    rw [List.length_take, List.length_drop]
  have some : 0 < Word.width := by decide
  unfold headerIn
  cases LogReader.isFar position with
  | true => simp
  | false =>
    by_cases inside : position + Word.width ≤ log.length
    · have whole : ¬((log.drop position).take Word.width).length < Word.width := by omega
      dsimp only
      rw [if_neg Bool.false_ne_true, if_neg whole, Except.ok.injEq]
      exact ⟨fun same => ⟨rfl, inside, same.symm⟩, fun ⟨_, _, same⟩ => same.symm⟩
    · have short : ((log.drop position).take Word.width).length < Word.width := by omega
      refine iff_of_false ?_ fun ⟨_, within, _⟩ => inside within
      dsimp only
      rw [if_neg Bool.false_ne_true, if_pos short]
      split <;> exact nofun

section Header

variable {position : Nat}

/-- The first window brings a size and more. -/
theorem takeExactly_of_near (near : LogReader.isFar position = false)
    (inside : position + Word.width ≤ body.toList.length) :
    let window := (body.toList.drop position).take windowSize
    takeExactly (.file number body) Word.width ⟨position, []⟩ =
      (.ok ((body.toList.drop position).take Word.width),
        ⟨position + window.length, window.drop Word.width⟩) := by
  intro window
  have header : window.take Word.width = (body.toList.drop position).take Word.width := by
    rw [List.take_take]
    rfl
  have length : ((body.toList.drop position).take Word.width).length = Word.width := by
    rw [List.length_take, List.length_drop]
    omega
  have some : (body.toList.drop position).take Word.width ≠ [] :=
    List.ne_nil_of_length_pos (by rw [length]; decide)
  rw [takeExactly, if_neg (by decide), take_window (by decide),
    if_neg (Bool.eq_false_iff.mp near)]
  dsimp only
  rw [header, if_neg some, length, Nat.sub_self, takeExactly, if_pos rfl]
  simp only [List.append_nil]
  rfl

/-- Nothing is left to be taken at the end of a file. -/
theorem takeExactly_at_end (number : Nat) {wanted : Nat}
    (past : body.toList.length ≤ position) (some : wanted ≠ 0) (few : ¬windowSize ≤ wanted) :
    takeExactly (.file number body) wanted ⟨position, []⟩ =
      (if LogReader.isFar position then .error .invalidArgument else .error .endOfFile,
        ⟨position, []⟩) := by
  rw [takeExactly, if_neg some, take_window few, List.drop_of_length_le past]
  cases LogReader.isFar position with
  | true => rfl
  | false => simp

theorem takeExactly_of_short (near : LogReader.isFar position = false)
    (short : body.toList.length < position + Word.width) :
    (takeExactly (.file number body) Word.width ⟨position, []⟩).1 =
      if LogReader.isFar (position + ((body.toList.drop position).take Word.width).length) then
        .error .invalidArgument
      else .error .endOfFile := by
  have length := List.length_drop (l := body.toList) (i := position)
  -- everything that is left fits into the size
  have all {count : Nat} (enough : Word.width ≤ count) :
      (body.toList.drop position).take count = body.toList.drop position :=
    List.take_of_length_le (by omega)
  rw [all le_rfl]
  by_cases past : body.toList.length ≤ position
  · rw [takeExactly_at_end number past (by decide) (by decide), length,
      Nat.sub_eq_zero_of_le past, Nat.add_zero]
  · have some : body.toList.drop position ≠ [] := List.ne_nil_of_length_pos (by omega)
    have rest : (body.toList.drop position).drop Word.width = [] :=
      List.drop_of_length_le (by omega)
    have past : body.toList.length ≤ position + (body.toList.drop position).length := by omega
    rw [takeExactly, if_neg (by decide), take_window (by decide),
      if_neg (Bool.eq_false_iff.mp near)]
    dsimp only
    rw [all (by decide), all le_rfl, if_neg some, rest,
      takeExactly_at_end number past (by omega) (by rw [windowSize, Word.width]; omega)]
    cases LogReader.isFar (position + (body.toList.drop position).length) <;> rfl

theorem takeExactly_eq (number : Nat) (body : FileBody) (position : Nat) :
    (takeExactly (.file number body) Word.width ⟨position, []⟩).1 =
      headerIn body.toList position := by
  have length : ((body.toList.drop position).take Word.width).length =
      min Word.width (body.toList.length - position) := by
    rw [List.length_take, List.length_drop]
  unfold headerIn
  split
  · next far =>
    rw [takeExactly, if_neg (by decide), take_window (by decide), if_pos far]
  · next near =>
    rw [Bool.not_eq_true] at near
    dsimp only
    split
    · next short => exact takeExactly_of_short near (by omega)
    · next whole =>
      have some : Word.width ≠ 0 := by decide
      rw [takeExactly_of_near near (by omega)]

end Header

/-- A content is collected from the rest of the window that has brought its size. -/
theorem Follows.start {log : Bytes} {offset : Nat} (size : Nat)
    (near : LogReader.isFar offset = false) (inside : offset + Word.width ≤ log.length) :
    let window := (log.drop offset).take windowSize
    Follows log offset size [] ⟨offset + window.length, window.drop Word.width⟩
      (Intake.start (presentOf log offset size)) := by
  intro window
  have first : Holds log offset [] ⟨offset, []⟩ := ⟨rfl, rfl⟩
  have arrived := first.arrived windowSize
  have length : window.length = min windowSize (log.length - offset) := by
    rw [List.length_take, List.length_drop]
  have header : Word.width ≤ window.length := by
    rw [length]
    exact Nat.le_min.mpr ⟨by decide, by omega⟩
  refine ⟨⟨?_, ?_⟩, Nat.zero_le _, rfl, ?_, Nat.zero_le _, near, ⟨Nat.zero_le _, ?_⟩, ?_⟩
  · have split := congrArg (List.drop Word.width) arrived.split
    rwa [List.nil_append, List.drop_drop, List.drop_append_of_le_length header] at split
  · simp only [List.length_nil, List.length_drop]
    omega
  · simp only [Intake.start, presentOf, List.length_nil, List.length_drop, length]
    omega
  · exact Nat.succ_pos 31
  · exact Nat.succ_pos 8191

end ReadBuffer

namespace LogReader

variable {reader : LogReader} {number : Nat} {body : FileBody}

theorem refuses_file (file : reader.source = .file number body) (position : Nat) :
    reader.refuses position = isFar position := by
  simp [refuses, isFar, file]

/-- Reading a size, in terms of the bytes of the log. -/
theorem recordSize_file (file : reader.source = .file number body) (offset : Offset) :
    reader.recordSize offset =
      if seekLimit ≤ offset.toNat then .error (.read (.seek offset) .invalidArgument)
      else
        match ReadBuffer.headerIn body.toList offset.toNat with
        | .error cause => .error (.read .stringSize cause)
        | .ok header =>
          if offset.toNat + Word.width + (Word.ofBytes header).toNat ≤ reader.logEnd.toNat then
            .ok (Word.ofBytes header)
          else
            .error (.read (.record offset) (.pastLogEnd (Word.ofBytes header) reader.logEnd)) := by
  unfold recordSize ReadBuffer.headerIn
  simp only [refuses_file file, file, Entry.slice, FileBody.slice_eq, ne_eq, reduceCtorEq,
    not_false_iff, and_true]
  by_cases beyond : seekLimit ≤ offset.toNat
  · rw [if_pos beyond, if_pos beyond]
  · rw [if_neg beyond, if_neg beyond]
    cases isFar offset.toNat with
    | true => rfl
    | false =>
      by_cases short : ((body.toList.drop offset.toNat).take Word.width).length < Word.width
      · simp only [short]
        generalize isFar _ = last
        cases last <;> rfl
      · simp only [short]
        rfl

/-- The size of a record does not depend on what is in the buffer. -/
theorem recordSizeThrough_eq (file : reader.source = .file number body) (offset : Offset)
    (buffer : ReadBuffer) :
    (reader.recordSizeThrough offset buffer).1 = reader.recordSize offset := by
  rw [recordSize_file file, ← ReadBuffer.takeExactly_eq number, ← file]
  unfold recordSizeThrough seekThrough
  by_cases beyond : seekLimit ≤ offset.toNat
  · simp [beyond, file]
  · simp only [beyond, false_and, if_false]
    cases ReadBuffer.takeExactly reader.source Word.width ⟨offset.toNat, []⟩ with
    | mk result after =>
    cases result with
    | error cause => rfl
    | ok header =>
      dsimp only
      split <;> rfl

/-- When a size has been read, the rest of the window is waiting. -/
theorem recordSizeThrough_ok (file : reader.source = .file number body) {offset : Offset}
    {buffer after : ReadBuffer} {size : UInt64}
    (sized : reader.recordSizeThrough offset buffer = (.ok size, after)) :
    offset.toNat + Word.width + size.toNat ≤ reader.logEnd.toNat ∧
      ReadBuffer.Follows body.toList offset.toNat size.toNat [] after
        (Intake.start (ReadBuffer.presentOf body.toList offset.toNat size.toNat)) := by
  unfold recordSizeThrough seekThrough at sized
  by_cases beyond : seekLimit ≤ offset.toNat
  · simp [beyond, file] at sized
  · simp only [beyond, false_and, if_false, file] at sized
    cases taken : ReadBuffer.takeExactly (.file number body) Word.width ⟨offset.toNat, []⟩ with
    | mk result rest =>
    have header := (congrArg Prod.fst taken).symm.trans (ReadBuffer.takeExactly_eq number body _)
    rw [taken] at sized
    cases result with
    | error cause => cases sized
    | ok bytes =>
      obtain ⟨near, inside, -⟩ := ReadBuffer.headerIn_eq_ok_iff.mp header.symm
      rw [ReadBuffer.takeExactly_of_near near inside] at taken
      cases taken
      dsimp only at sized
      split at sized
      · next fits =>
        cases sized
        exact ⟨fits, ReadBuffer.Follows.start _ near inside⟩
      · cases sized

/-- The content of a record does not depend on what is in the buffer. -/
theorem payloadThrough_eq (file : reader.source = .file number body) {offset : Offset}
    {buffer : ReadBuffer} {size : UInt64}
    (remembered : reader.logEnd.toNat ≤ sizeLimit)
    (fits : offset.toNat + Word.width + size.toNat ≤ reader.logEnd.toNat)
    (follows : ReadBuffer.Follows body.toList offset.toNat size.toNat [] buffer
        (Intake.start (ReadBuffer.presentOf body.toList offset.toNat size.toNat))) :
    (reader.payloadThrough size buffer).1 = reader.payload offset size := by
  have length : ((body.toList.drop (offset.toNat + Word.width)).take size.toNat).length =
      ReadBuffer.presentOf body.toList offset.toNat size.toNat := by
    rw [List.length_take, List.length_drop, ReadBuffer.presentOf]
  have collected := follows.collect_eq number (fits.trans remembered)
  unfold payloadThrough payload
  simp only [refuses_file file, file, Entry.slice, FileBody.slice_eq]
  rw [Intake.lastWindow, length]
  cases done : buffer.collect (.file number body) size.toNat [] 32 windowSize with
  | mk result after =>
  have same := (congrArg Prod.fst done).symm.trans collected
  dsimp only at same
  rw [same]
  generalize isFar _ = far
  cases far with
  | true => rfl
  | false =>
    simp only [Bool.false_eq_true, if_false, length]
    split <;> rfl

theorem readThrough_eq (file : reader.source = .file number body)
    (remembered : reader.logEnd.toNat ≤ sizeLimit) (offset : Offset) (buffer : ReadBuffer) :
    (reader.readThrough offset buffer).1 = reader.read offset := by
  have same := recordSizeThrough_eq file offset buffer
  unfold readThrough read
  cases sized : reader.recordSizeThrough offset buffer with | mk result after =>
  rw [sized] at same
  rw [← same]
  cases result with
  | error error => rfl
  | ok size =>
    obtain ⟨fits, follows⟩ := recordSizeThrough_ok file sized
    exact payloadThrough_eq file remembered fits follows

theorem readIfThrough_eq (file : reader.source = .file number body)
    (remembered : reader.logEnd.toNat ≤ sizeLimit) (offset : Offset) (accept : UInt64 → Bool)
    (buffer : ReadBuffer) :
    (reader.readIfThrough offset accept buffer).1 = reader.readIf offset accept := by
  have same := recordSizeThrough_eq file offset buffer
  unfold readIfThrough readIf
  cases sized : reader.recordSizeThrough offset buffer with | mk result after =>
  rw [sized] at same
  rw [← same]
  cases result with
  | error error => rfl
  | ok size =>
    obtain ⟨fits, follows⟩ := recordSizeThrough_ok file sized
    dsimp only
    split
    · rw [payloadThrough_eq file remembered fits follows]
    · rfl

end LogReader

end Concordance
