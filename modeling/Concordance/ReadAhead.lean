import Concordance.Word

/-!
# Reading ahead

A record is read through a buffer: when the buffer is empty, a whole window is asked for, however
little is needed. The disk refuses a window that would reach past the last offset, whatever the
file holds there, so a record close to that offset can be read only up to where its last window
begins.

The content is collected in portions, and the room for it doubles when it is used up. A portion is
as large as the room left, but at most `most`, which doubles when a portion of that size arrives
complete. A portion that is no smaller than a window is asked for directly if the buffer is empty;
every other one is taken from the buffer.

`Intake.lastWindow` counts from the beginning of the record. No window begins after its end.
-/
namespace Concordance

/-- The number of bytes that a window has. -/
def windowSize : Nat := 8192

/-- The first offset that no file can have. -/
def seekLimit : Nat := 0x8000000000000000

/-- How far the content of a record has been collected. -/
structure Intake where
  collected : Nat
  /-- The number of bytes there is room for, those collected included. -/
  room : Nat
  /-- The largest portion to be collected next. -/
  most : Nat
  /-- The number of bytes waiting in the buffer. -/
  buffered : Nat
  /-- Where the window that was asked for last begins. -/
  windowStart : Nat
  deriving DecidableEq, Repr

namespace Intake

/-- The intake when the size of a record has been read, `present` bytes of the content being in the
file: the rest of the first window is in the buffer. -/
def start (present : Nat) : Intake where
  collected := 0
  room := 32
  most := windowSize
  buffered := min (windowSize - Word.width) present
  windowStart := 0

/-- The intake after one more portion of a content of `size` bytes, `present` of them being in the
file. -/
def next (size present : Nat) (intake : Intake) : Intake :=
  let room := if intake.collected = intake.room then 2 * intake.room else intake.room
  let portion := min (room - intake.collected) intake.most
  let wanted := min portion (size - intake.collected)
  let left := present - intake.collected
  let empty := intake.buffered = 0
  let direct := empty ∧ windowSize ≤ wanted
  let buffered := if empty then min windowSize left else intake.buffered
  let arrived := min wanted (if direct then left else buffered)
  { collected := intake.collected + arrived
    room
    most := if arrived = portion ∧ portion = intake.most then 2 * intake.most else intake.most
    buffered := if direct then 0 else buffered - arrived
    windowStart :=
      if empty ∧ ¬direct then Word.width + intake.collected else intake.windowStart }

theorem missing_next_lt {size present : Nat} {intake : Intake}
    (moved : (intake.next size present).collected ≠ intake.collected) :
    size - (intake.next size present).collected < size - intake.collected := by
  simp only [next] at *
  omega

theorem collected_next_le {size : Nat} (present : Nat) {intake : Intake}
    (within : intake.collected ≤ size) : (intake.next size present).collected ≤ size := by
  simp only [next]
  omega

theorem windowStart_next_le {size bound : Nat} (present : Nat) {intake : Intake}
    (within : Word.width + intake.collected ≤ bound) (before : intake.windowStart ≤ bound) :
    (intake.next size present).windowStart ≤ bound := by
  simp only [next]
  split <;> split <;> assumption

/-- Where the last window begins when the collection is finished: nothing is missing any more, or
nothing arrives any more. -/
def finish (size present : Nat) (intake : Intake) : Nat :=
  if intake.collected = size then intake.windowStart
  else
    let following := intake.next size present
    if following.collected = intake.collected then following.windowStart
    else following.finish size present
termination_by size - intake.collected
decreasing_by exact missing_next_lt (by assumption)

/-- Where the last window of a record begins whose content has `size` bytes, `present` of them
being in the file. -/
def lastWindow (size present : Nat) : Nat :=
  (start present).finish size present

theorem finish_le {size : Nat} (present : Nat) {intake : Intake}
    (within : intake.collected ≤ size) (before : intake.windowStart ≤ Word.width + size) :
    intake.finish size present ≤ Word.width + size := by
  fun_induction finish size present intake with
  | case1 => exact before
  | case2 => exact windowStart_next_le present (by omega) before
  | case3 intake _ _ _ ih =>
    exact ih (collected_next_le present within) (windowStart_next_le present (by omega) before)

/-- No window begins after the end of the record. -/
theorem lastWindow_le (size present : Nat) : lastWindow size present ≤ Word.width + size :=
  finish_le present (Nat.zero_le size) (Nat.zero_le _)

end Intake

end Concordance
