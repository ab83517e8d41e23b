import Concordance.Word

/-!
# Reading bytes that may not be text

`Text.lossy` reads UTF-8 and never fails: the longest start of a character that breaks off is
replaced by one U+FFFD, and so is a byte that starts no character. The byte that breaks a
character off is then read afresh.
-/
namespace Concordance.Text

/-- A character that has begun: how many bytes it still needs, the range that the next of them
must lie in, and the bits read so far. -/
structure Begun where
  missing : Nat
  low : UInt8
  high : UInt8
  bits : Nat

/-- The character that stands for bytes that are no text. -/
def replacement : Char := Char.ofNat 0xFFFD

/-- What one byte at the start of a character brings: text, or a character begun. Overlong
forms, surrogates and numbers past U+10FFFF are shut out by the range of the second byte. -/
def start (byte : UInt8) : List Char × Option Begun :=
  let code := byte.toNat
  if code < 0x80 then ([Char.ofNat code], none)
  else if code < 0xC2 then ([replacement], none)
  else if code < 0xE0 then ([], some ⟨1, 0x80, 0xBF, code % 0x20⟩)
  else if code = 0xE0 then ([], some ⟨2, 0xA0, 0xBF, 0⟩)
  else if code = 0xED then ([], some ⟨2, 0x80, 0x9F, 0xD⟩)
  else if code < 0xF0 then ([], some ⟨2, 0x80, 0xBF, code % 0x10⟩)
  else if code = 0xF0 then ([], some ⟨3, 0x90, 0xBF, 0⟩)
  else if code < 0xF4 then ([], some ⟨3, 0x80, 0xBF, code % 0x8⟩)
  else if code = 0xF4 then ([], some ⟨3, 0x80, 0x8F, 4⟩)
  else ([replacement], none)

/-- Reads one more byte of a character that may have begun. -/
def advance : Option Begun → UInt8 → List Char × Option Begun
  | none, byte => start byte
  | some begun, byte =>
    if begun.low ≤ byte ∧ byte ≤ begun.high then
      let bits := begun.bits * 0x40 + byte.toNat % 0x40
      if begun.missing ≤ 1 then ([Char.ofNat bits], none)
      else ([], some ⟨begun.missing - 1, 0x80, 0xBF, bits⟩)
    else
      let (read, next) := start byte
      (replacement :: read, next)

/-- Reads one more byte and adds what it brings to the text read so far. -/
def lossyStep : String × Option Begun → UInt8 → String × Option Begun
  | (read, begun), byte =>
    match advance begun byte with
    | (chars, next) => (chars.foldl String.push read, next)

/-- The text that `bytes` come closest to. -/
def lossy (bytes : Bytes) : String :=
  match bytes.foldl lossyStep ("", none) with
  | (read, none) => read
  | (read, some _) => read.push replacement

end Concordance.Text
