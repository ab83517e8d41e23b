import Concordance.Unicode.Alphanumeric
import Concordance.Unicode.Pictographic
import Concordance.Unicode.WordBreak

/-!
# Words of running text

Text is divided at the word boundaries of Unicode Standard Annex 29. A segment is read from
its first character on: `reach` counts how many of the characters that follow still belong to
it. Marks, format characters and joiners keep to what they follow. A mark of punctuation stays
inside a word only between two letters or two digits, so it is held until the next character
has been seen. A word is a segment with a letter or a digit in it.
-/
namespace Concordance.Segment

open Unicode (WordBreak)

/-- What must follow a held mark of punctuation for the segment to go on. -/
inductive Need
  | letter
  | hebrewLetter
  | digit
  deriving DecidableEq, Repr

/-- What the segment has come to, as far as the next character can depend on it. -/
inductive Reading
  | letter
  | hebrewLetter
  | numeric
  | katakana
  | extendNumLet
  /-- One regional indicator, which may pair with another. -/
  | halfFlag
  | space
  /-- A Hebrew letter and an apostrophe: complete, but a letter may follow. -/
  | apostrophe
  /-- A held mark of punctuation; without what it needs the segment ends after `kept`. -/
  | held (need : Need) (kept : Nat)
  /-- Nothing but marks can follow. -/
  | closed
  deriving DecidableEq, Repr

namespace Reading

/-- The reading after the first character of a segment. -/
def start : WordBreak → Reading
  | .letter => .letter
  | .hebrewLetter => .hebrewLetter
  | .numeric => .numeric
  | .katakana => .katakana
  | .extendNumLet => .extendNumLet
  | .regionalIndicator => .halfFlag
  | .space => .space
  | _ => .closed

/-- The reading after a mark, a format character or a joiner: only a space is changed by it,
for such a character ends a run of spaces. -/
def absorb : Reading → Reading
  | .space => .closed
  | reading => reading

/-- The reading after one more character, or `none` at a boundary before it. `count`
characters have been read so far. -/
def next (count : Nat) : Reading → WordBreak → Option Reading
  | .letter, .letter | .hebrewLetter, .letter => some .letter
  | .letter, .hebrewLetter | .hebrewLetter, .hebrewLetter => some .hebrewLetter
  | .letter, .numeric | .hebrewLetter, .numeric => some .numeric
  | .letter, .extendNumLet | .hebrewLetter, .extendNumLet => some .extendNumLet
  | .hebrewLetter, .doubleQuote => some (.held .hebrewLetter count)
  | .hebrewLetter, .singleQuote => some .apostrophe
  | .letter, .midLetter | .hebrewLetter, .midLetter
  | .letter, .midNumLet | .hebrewLetter, .midNumLet
  | .letter, .singleQuote => some (.held .letter count)
  | .numeric, .numeric => some .numeric
  | .numeric, .letter => some .letter
  | .numeric, .hebrewLetter => some .hebrewLetter
  | .numeric, .extendNumLet => some .extendNumLet
  | .numeric, .midNum | .numeric, .midNumLet | .numeric, .singleQuote =>
    some (.held .digit count)
  | .katakana, .katakana => some .katakana
  | .katakana, .extendNumLet => some .extendNumLet
  | .extendNumLet, .extendNumLet => some .extendNumLet
  | .extendNumLet, .letter => some .letter
  | .extendNumLet, .hebrewLetter => some .hebrewLetter
  | .extendNumLet, .numeric => some .numeric
  | .extendNumLet, .katakana => some .katakana
  | .halfFlag, .regionalIndicator => some .closed
  | .space, .space => some .space
  | .apostrophe, .letter | .held .letter _, .letter => some .letter
  | .apostrophe, .hebrewLetter | .held .letter _, .hebrewLetter
  | .held .hebrewLetter _, .hebrewLetter => some .hebrewLetter
  | .held .digit _, .numeric => some .numeric
  | _, _ => none

/-- How many characters the segment has when it ends here, after `count` of them. -/
def length (count : Nat) : Reading → Nat
  | .held _ kept => kept
  | _ => count

end Reading

/-- How many characters a segment has beyond its first one. `joined` says that the last
character read was a joiner, which holds on to a pictograph. -/
def reach : Reading → (joined : Bool) → (count : Nat) → List Char → Nat
  | reading, _, count, [] => reading.length count
  | reading, joined, count, char :: rest =>
    match WordBreak.ofChar char with
    | .extend | .format => reach reading.absorb false (count + 1) rest
    | .joiner => reach reading.absorb true (count + 1) rest
    | value =>
      -- the joiner holds on to a pictograph whatever was held before
      if joined && Unicode.pictographic.contains char then
        reach .closed false (count + 1) rest
      else
        match reading.next count value with
        | some following => reach following false (count + 1) rest
        | none => reading.length count

/-- How many of the characters after `first` belong to its segment. A line end is a segment of
its own, and a carriage return takes a line feed with it. -/
def extent (first : Char) (rest : List Char) : Nat :=
  match WordBreak.ofChar first with
  | .carriageReturn => if rest.head? = some '\n' then 1 else 0
  | .lineFeed | .newline => 0
  | value => reach (Reading.start value) (value == .joiner) 0 rest

/-- Goes on to cut a text into segments, `read` holding those before it, last first. -/
def segmentsFrom (read : List (List Char)) : List Char → List (List Char)
  | [] => read.reverse
  | first :: rest =>
    let count := extent first rest
    segmentsFrom ((first :: rest.take count) :: read) (rest.drop count)
termination_by text => text.length

/-- The segments of a text, in order. -/
def segments (text : List Char) : List (List Char) :=
  segmentsFrom [] text

/-- The words of a text, in order. -/
def words (text : List Char) : List (List Char) :=
  (segments text).filter fun segment => segment.any Unicode.alphanumeric.contains

end Concordance.Segment
