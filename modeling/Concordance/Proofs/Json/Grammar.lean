import Concordance.Json.Parse

/-!
# The grammar of JSON

Which texts spell which values, said without a reader. White space may stand around every value and
every punctuation mark. A character of a string stands for itself or is escaped, by a letter or by
its code units, and a string that holds half of a surrogate pair has no text. A numeral has a sign,
a fraction and an exponent if they are there, and is a word if none of them is.
-/
namespace Concordance.Json

open Token (Piece)

/-- White space, which may be nothing. -/
def IsBlank (text : List Char) : Prop :=
  ∀ char ∈ text, char ∈ [' ', '\n', '\t', '\r']

instance (text : List Char) : Decidable (IsBlank text) :=
  List.decidableBAll (· ∈ [' ', '\n', '\t', '\r']) text

/-! ### Strings -/

/-- The code units of a character: a surrogate pair if it does not fit into one. -/
def codeUnits (char : Char) : List Nat :=
  if char.toNat < 0x10000 then [char.toNat]
  else [0xD800 + (char.toNat - 0x10000) / 0x400, 0xDC00 + (char.toNat - 0x10000) % 0x400]

/-- The pieces of a string are the characters of a text, one after the other. -/
inductive Spelling : List Piece → List Char → Prop
  | nil : Spelling [] []
  | char (char : Char) {pieces : List Piece} {text : List Char} (others : Spelling pieces text) :
      Spelling (.char char :: pieces) (char :: text)
  /-- All code units of a character are escaped. -/
  | units (char : Char) {pieces : List Piece} {text : List Char} (others : Spelling pieces text) :
      Spelling ((codeUnits char).map .unit ++ pieces) (char :: text)

/-- The text of a string, if it has one. -/
inductive StandsFor (pieces : List Piece) : Option String → Prop
  | text {text : String} (spelling : Spelling pieces text.toList) : StandsFor pieces (some text)
  | nothing (unspelled : ∀ text, ¬Spelling pieces text) : StandsFor pieces none

/-- What may stand behind a backslash, and what it means there. -/
def letters : List (Char × Char) :=
  [('"', '"'), ('\\', '\\'), ('/', '/'), ('b', '\x08'), ('f', '\x0c'), ('n', '\n'), ('r', '\r'),
    ('t', '\t')]

/-- A hexadecimal digit in either case. -/
def IsHexDigit (char : Char) (value : Nat) : Prop :=
  value < 16 ∧ (char = Nat.digitChar value ∨ char = (Nat.digitChar value).toUpper)

instance (char : Char) (value : Nat) : Decidable (IsHexDigit char value) :=
  inferInstanceAs (Decidable (value < 16 ∧
    (char = Nat.digitChar value ∨ char = (Nat.digitChar value).toUpper)))

/-- What stands between the quotes of a string with the given pieces. -/
inductive Body : List Char → List Piece → Prop
  | nil : Body [] []
  | char {char : Char} {body : List Char} {pieces : List Piece} (printed : ' ' ≤ char)
      (unquoted : char ≠ '"') (unescaped : char ≠ '\\') (others : Body body pieces) :
      Body (char :: body) (.char char :: pieces)
  | letter {letter char : Char} {body : List Char} {pieces : List Piece}
      (means : (letter, char) ∈ letters) (others : Body body pieces) :
      Body ('\\' :: letter :: body) (.char char :: pieces)
  | unit {a b c d : Char} {w x y z : Nat} {body : List Char} {pieces : List Piece}
      (first : IsHexDigit a w) (second : IsHexDigit b x) (third : IsHexDigit c y)
      (fourth : IsHexDigit d z) (others : Body body pieces) :
      Body ('\\' :: 'u' :: a :: b :: c :: d :: body)
        (.unit (((w * 16 + x) * 16 + y) * 16 + z) :: pieces)

/-- A string with its quotes. -/
inductive IsString : Option String → List Char → Prop
  | quoted {text : Option String} {body : List Char} {pieces : List Piece}
      (inside : Body body pieces) (means : StandsFor pieces text) :
      IsString text ('"' :: (body ++ ['"']))

/-! ### Numerals -/

def IsDigits (text : List Char) : Prop :=
  text ≠ [] ∧ ∀ char ∈ text, char.isDigit = true

instance (text : List Char) : Decidable (IsDigits text) :=
  decidable_of_iff ((!text.isEmpty && text.all Char.isDigit) = true) (by simp [IsDigits])

/-- A zero stands at the beginning only if it stands alone. -/
inductive IsInteger : List Char → Prop
  | zero : IsInteger ['0']
  | positive {first : Char} {rest : List Char} (digits : IsDigits (first :: rest))
      (leading : first ≠ '0') : IsInteger (first :: rest)

inductive IsFraction : List Char → Prop
  | none : IsFraction []
  | point {digits : List Char} (after : IsDigits digits) : IsFraction ('.' :: digits)

inductive IsExponent : List Char → Prop
  | none : IsExponent []
  | mark {mark : Char} {sign digits : List Char} (marks : mark ∈ ['e', 'E'])
      (signs : sign ∈ [[], ['+'], ['-']]) (after : IsDigits digits) :
      IsExponent (mark :: (sign ++ digits))

/-- A numeral, and the word that it denotes if it denotes one. -/
inductive IsNumeral : Option UInt64 → List Char → Prop
  | word {digits : List Char} {word : UInt64} (integer : IsInteger digits)
      (value : Nat.ofDigitChars 10 digits 0 = word.toNat) : IsNumeral (some word) digits
  /-- The number is too large for a word. -/
  | large {digits : List Char} (integer : IsInteger digits)
      (value : UInt64.size ≤ Nat.ofDigitChars 10 digits 0) : IsNumeral none digits
  /-- There is a sign, a fraction or an exponent. -/
  | other {sign digits fraction exponent : List Char} (signs : sign ∈ [[], ['-']])
      (integer : IsInteger digits) (fractional : IsFraction fraction)
      (exponential : IsExponent exponent) (some : sign ++ fraction ++ exponent ≠ []) :
      IsNumeral none (sign ++ (digits ++ (fraction ++ exponent)))

/-! ### Values -/

/-- The parts of an array or an object, with commas between them. -/
inductive Separated {α : Type} (spells : α → List Char → Prop) : List α → List Char → Prop
  | none {blank : List Char} (nothing : IsBlank blank) : Separated spells [] blank
  | last {part : α} {before text after : List Char} (leads : IsBlank before)
      (spelled : spells part text) (trails : IsBlank after) :
      Separated spells [part] (before ++ (text ++ after))
  | more {part next : α} {parts : List α} {before text after others : List Char}
      (leads : IsBlank before) (spelled : spells part text) (trails : IsBlank after)
      (follow : Separated spells (next :: parts) others) :
      Separated spells (part :: next :: parts) (before ++ (text ++ (after ++ ',' :: others)))

mutual

/-- A text that spells a value. -/
inductive Spells : Json → List Char → Prop
  | null : Spells .null ['n', 'u', 'l', 'l']
  | true : Spells (.bool true) ['t', 'r', 'u', 'e']
  | false : Spells (.bool false) ['f', 'a', 'l', 's', 'e']
  | number {word : Option UInt64} {text : List Char} (numeral : IsNumeral word text) :
      Spells (.number word) text
  | string {text : Option String} {quoted : List Char} (spelled : IsString text quoted) :
      Spells (.string text) quoted
  | array {items : List Json} {inner : List Char} (spelled : Separated Spells items inner) :
      Spells (.array items) ('[' :: (inner ++ [']']))
  | object {members : List Member} {inner : List Char}
      (spelled : Separated SpellsMember members inner) :
      Spells (.object members) ('\x7b' :: (inner ++ ['\x7d']))

/-- A text that spells a key and a value. -/
inductive SpellsMember : Member → List Char → Prop
  | member {key : Option String} {value : Json} {name between gap text : List Char}
      (named : IsString key name) (leads : IsBlank between) (trails : IsBlank gap)
      (spelled : Spells value text) :
      SpellsMember (key, value) (name ++ (between ++ ':' :: (gap ++ text)))

end

/-- A document that holds a value, with white space around it. -/
def IsDocument (value : Json) (document : String) : Prop :=
  ∃ before text after, IsBlank before ∧ Spells value text ∧ IsBlank after ∧
    document.toList = before ++ (text ++ after)

end Concordance.Json
