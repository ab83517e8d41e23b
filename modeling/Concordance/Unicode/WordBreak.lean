import Concordance.Unicode.WordBreak.Digit
import Concordance.Unicode.WordBreak.Letter
import Concordance.Unicode.WordBreak.Mark

/-!
# The word-break property

Every character has one value of the Unicode property Word_Break. The rules that divide text
into words read nothing else of a character, apart from whether it is a pictograph.
-/
namespace Concordance.Unicode

inductive WordBreak
  | carriageReturn
  | lineFeed
  | newline
  | joiner
  | regionalIndicator
  | extend
  | format
  | katakana
  | hebrewLetter
  | letter
  | singleQuote
  | doubleQuote
  | midNumLet
  | midLetter
  | midNum
  | numeric
  | extendNumLet
  | space
  | other
  deriving DecidableEq, Repr

namespace WordBreak

/-- The values that few characters have are listed here, the others come from the tables. -/
def ofChar (char : Char) : WordBreak :=
  match char.toNat with
  | 0x0D => .carriageReturn
  | 0x0A => .lineFeed
  | 0x0B | 0x0C | 0x85 | 0x2028 | 0x2029 => .newline
  | 0x200D => .joiner
  | 0x22 => .doubleQuote
  | 0x27 => .singleQuote
  | 0x2E | 0x2018 | 0x2019 | 0x2024 | 0xFE52 | 0xFF07 | 0xFF0E => .midNumLet
  | 0x3A | 0xB7 | 0x387 | 0x55F | 0x5F4 | 0x2027 | 0xFE13 | 0xFE55 | 0xFF1A => .midLetter
  | 0x2C | 0x3B | 0x37E | 0x589 | 0x60C | 0x60D | 0x66C | 0x7F8 | 0x2044 | 0xFE50 | 0xFE54
  | 0xFF0C | 0xFF1B => .midNum
  | 0x5F | 0x202F | 0x203F | 0x2040 | 0x2054 | 0xFE33 | 0xFE34 | 0xFE4D | 0xFE4E | 0xFE4F
  | 0xFF3F => .extendNumLet
  | 0x20 | 0x1680 | 0x205F | 0x3000 => .space
  | code =>
    if 0x2000 ≤ code ∧ code ≤ 0x200A ∧ code ≠ 0x2007 then .space
    else if 0x1F1E6 ≤ code ∧ code ≤ 0x1F1FF then .regionalIndicator
    else if letters.contains char then .letter
    else if digits.contains char then .numeric
    else if marks.contains char then .extend
    else if hebrewLetters.contains char then .hebrewLetter
    else if kana.contains char then .katakana
    else if formats.contains char then .format
    else .other

end WordBreak

end Concordance.Unicode
