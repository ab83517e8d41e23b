import Concordance.Json.Basic

/-!
# JSON tokens

A document is read as a list of tokens: punctuation, strings and the other scalars. White space
between tokens means nothing. `Token.next?` reads one token and leaves a shorter text, so
`Token.all?` ends.
-/
namespace Concordance.Json

inductive Token
  | arrayOpen
  | arrayClose
  | objectOpen
  | objectClose
  | comma
  | colon
  /-- A string, which may be a key. -/
  | string (text : Option String)
  | null
  | bool (value : Bool)
  | number (word : Option UInt64)
  deriving Repr

namespace Token

def isSpace (char : Char) : Bool :=
  char == ' ' || char == '\n' || char == '\t' || char == '\r'

/-! ### Strings -/

/-- One element between the quotes of a string: a character, or the code unit that an escape
with four hexadecimal digits stands for. -/
inductive Piece
  | char (char : Char)
  | unit (code : Nat)
  deriving DecidableEq, Repr

/-- The character that a backslash and `char` stand for. -/
def escaped? (char : Char) : Option Char :=
  match char with
  | '"' => some '"'
  | '\\' => some '\\'
  | '/' => some '/'
  | 'b' => some '\x08'
  | 'f' => some '\x0c'
  | 'n' => some '\n'
  | 'r' => some '\r'
  | 't' => some '\t'
  | _ => none

def hexDigit? (char : Char) : Option Nat :=
  if '0' ≤ char ∧ char ≤ '9' then some (char.toNat - 0x30)
  else if 'a' ≤ char ∧ char ≤ 'f' then some (char.toNat - 0x61 + 10)
  else if 'A' ≤ char ∧ char ≤ 'F' then some (char.toNat - 0x41 + 10)
  else none

def hexUnit? (a b c d : Char) : Option Nat := do
  let a ← hexDigit? a
  let b ← hexDigit? b
  let c ← hexDigit? c
  let d ← hexDigit? d
  return ((a * 16 + b) * 16 + c) * 16 + d

/-- The pieces up to the closing quote, and what follows it. `read` holds the pieces before
`text`, last first. -/
def pieces? (read : List Piece) : (text : List Char) → Option (List Piece × List Char)
  | [] => none
  | '"' :: rest => some (read.reverse, rest)
  | '\\' :: 'u' :: a :: b :: c :: d :: rest =>
    match hexUnit? a b c d with
    | some code => pieces? (.unit code :: read) rest
    | none => none
  | '\\' :: char :: rest =>
    match escaped? char with
    | some char => pieces? (.char char :: read) rest
    | none => none
  | char :: rest =>
    if char = '\\' ∨ char < ' ' then none else pieces? (.char char :: read) rest

def isHigh (code : Nat) : Bool := 0xD800 ≤ code && code ≤ 0xDBFF

def isLow (code : Nat) : Bool := 0xDC00 ≤ code && code ≤ 0xDFFF

/-- The characters that the pieces of a string spell, `read` holding those before them, last
first. The two halves of a surrogate pair must stand side by side. -/
def spell? (read : List Char) : List Piece → Option (List Char)
  | [] => some read.reverse
  | .char char :: rest => spell? (char :: read) rest
  | .unit high :: .unit low :: rest =>
    if isHigh high then
      if isLow low then
        spell? (Char.ofNat (0x10000 + (high - 0xD800) * 0x400 + (low - 0xDC00)) :: read) rest
      else none
    else if isLow high then none
    else spell? (Char.ofNat high :: read) (.unit low :: rest)
  | .unit code :: rest =>
    if isHigh code || isLow code then none else spell? (Char.ofNat code :: read) rest

/-- Reads a string whose opening quote has been read. -/
def string? (text : List Char) : Option (Token × List Char) :=
  match pieces? [] text with
  | some (pieces, rest) => some (.string ((spell? [] pieces).map String.ofList), rest)
  | none => none

/-! ### Numbers -/

def isDigit (char : Char) : Bool := '0' ≤ char && char ≤ '9'

/-- Puts one more decimal digit behind a number, unless the result is no word. -/
def appendDigit? (total : Nat) (digit : Char) : Option Nat :=
  let total := total * 10 + (digit.toNat - 0x30)
  if total < UInt64.size then some total else none

/-- The word that a run of decimal digits denotes, if it is not too large. -/
def decimal? (digits : List Char) : Option UInt64 :=
  (digits.foldlM appendDigit? 0).map UInt64.ofNat

/-- A run of at least one digit, and what follows it. -/
def digits? (text : List Char) : Option (List Char × List Char) :=
  match text.takeWhile isDigit with
  | [] => none
  | digits => some (digits, text.dropWhile isDigit)

/-- The digits before the point: a zero alone, or a run that starts with another digit. -/
def integer? : List Char → Option (List Char × List Char)
  | '0' :: rest => some (['0'], rest)
  | text => digits? text

/-- What follows a fraction, if there is one; the flag tells whether there is. -/
def fraction? : List Char → Option (Bool × List Char)
  | '.' :: rest => (digits? rest).map fun (_, rest) => (true, rest)
  | text => some (false, text)

def dropSign : List Char → List Char
  | '+' :: rest => rest
  | '-' :: rest => rest
  | text => text

/-- What follows an exponent, if there is one; the flag tells whether there is. -/
def exponent? : List Char → Option (Bool × List Char)
  | 'e' :: rest => (digits? (dropSign rest)).map fun (_, rest) => (true, rest)
  | 'E' :: rest => (digits? (dropSign rest)).map fun (_, rest) => (true, rest)
  | text => some (false, text)

/-- Reads a number whose sign has been read. Only digits alone make a word. -/
def number? (negative : Bool) (text : List Char) : Option (Token × List Char) :=
  match integer? text with
  | none => none
  | some (digits, rest) =>
    match fraction? rest with
    | none => none
    | some (hasFraction, rest) =>
      match exponent? rest with
      | none => none
      | some (hasExponent, rest) =>
        if negative || hasFraction || hasExponent then some (.number none, rest)
        else some (.number (decimal? digits), rest)

/-! ### Token by token -/

/-- Reads the token at the start of a text. -/
def next? : List Char → Option (Token × List Char)
  | '[' :: rest => some (.arrayOpen, rest)
  | ']' :: rest => some (.arrayClose, rest)
  | '\x7b' :: rest => some (.objectOpen, rest)
  | '\x7d' :: rest => some (.objectClose, rest)
  | ',' :: rest => some (.comma, rest)
  | ':' :: rest => some (.colon, rest)
  | '"' :: rest => string? rest
  | '-' :: rest => number? true rest
  | 'n' :: 'u' :: 'l' :: 'l' :: rest => some (.null, rest)
  | 't' :: 'r' :: 'u' :: 'e' :: rest => some (.bool true, rest)
  | 'f' :: 'a' :: 'l' :: 's' :: 'e' :: rest => some (.bool false, rest)
  | text => number? false text

theorem pieces?_length {read pieces : List Piece} {text rest : List Char}
    (found : pieces? read text = some (pieces, rest)) : rest.length < text.length := by
  fun_induction pieces? read text with
  | case1 => simp at found
  | case2 read rest' =>
    simp only [Option.some.injEq, Prod.mk.injEq] at found
    simp [found.2]
  | case3 read a b c d rest' code unit ih =>
    have shorter := ih found
    simp only [List.length_cons]
    omega
  | case4 => simp at found
  | case5 read char rest' _ char' escape ih =>
    have shorter := ih found
    simp only [List.length_cons]
    omega
  | case6 => simp at found
  | case7 => simp at found
  | case8 read char rest' _ _ _ plain ih =>
    have shorter := ih found
    simp only [List.length_cons]
    omega

theorem digits?_length {text digits rest : List Char}
    (found : digits? text = some (digits, rest)) : rest.length < text.length := by
  unfold digits? at found
  split at found
  · simp at found
  · next some =>
    simp only [Option.some.injEq, Prod.mk.injEq] at found
    have parts := congrArg List.length (List.takeWhile_append_dropWhile (p := isDigit) (l := text))
    have positive : 0 < (text.takeWhile isDigit).length := List.length_pos_iff.mpr some
    rw [List.length_append] at parts
    rw [← found.2]
    omega

theorem integer?_length {text digits rest : List Char}
    (found : integer? text = some (digits, rest)) : rest.length < text.length := by
  unfold integer? at found
  split at found
  · simp only [Option.some.injEq, Prod.mk.injEq] at found
    simp [found.2]
  · exact digits?_length found

theorem fraction?_length {text rest : List Char} {present : Bool}
    (found : fraction? text = some (present, rest)) : rest.length ≤ text.length := by
  unfold fraction? at found
  split at found
  · simp only [Option.map_eq_some_iff, Prod.exists, Prod.mk.injEq] at found
    obtain ⟨digits, after, read, _, rfl⟩ := found
    have shorter := digits?_length read
    simp only [List.length_cons]
    omega
  · simp only [Option.some.injEq, Prod.mk.injEq] at found
    simp [found.2]

theorem length_dropSign_le (text : List Char) : (dropSign text).length ≤ text.length := by
  unfold dropSign
  split <;> simp

theorem exponent?_length {text rest : List Char} {present : Bool}
    (found : exponent? text = some (present, rest)) : rest.length ≤ text.length := by
  unfold exponent? at found
  split at found
  iterate 2
    · next after =>
      simp only [Option.map_eq_some_iff, Prod.exists, Prod.mk.injEq] at found
      obtain ⟨digits, final, read, _, rfl⟩ := found
      have shorter := digits?_length read
      have unsigned := length_dropSign_le after
      simp only [List.length_cons]
      omega
  · simp only [Option.some.injEq, Prod.mk.injEq] at found
    simp [found.2]

theorem number?_length {negative : Bool} {text rest : List Char} {token : Token}
    (found : number? negative text = some (token, rest)) : rest.length < text.length := by
  unfold number? at found
  split at found
  · simp at found
  · next integer =>
    have first := integer?_length integer
    split at found
    · simp at found
    · next fraction =>
      have second := fraction?_length fraction
      split at found
      · simp at found
      · next exponent =>
        have third := exponent?_length exponent
        split at found <;>
          · simp only [Option.some.injEq, Prod.mk.injEq] at found
            rw [← found.2]
            omega

/-- Reading a token takes something off the text. -/
theorem next?_length {text rest : List Char} {token : Token}
    (found : next? text = some (token, rest)) : rest.length < text.length := by
  unfold next? at found
  split at found
  case h_7 after =>
    unfold string? at found
    split at found
    · next pieces =>
      simp only [Option.some.injEq, Prod.mk.injEq] at found
      have shorter := pieces?_length pieces
      rw [← found.2, List.length_cons]
      omega
    · simp at found
  case h_8 after =>
    have shorter := number?_length found
    rw [List.length_cons]
    omega
  case h_12 => exact number?_length found
  all_goals
    simp only [Option.some.injEq, Prod.mk.injEq] at found
    simp only [← found.2, List.length_cons]
    omega

/-- All tokens of a text, `read` holding those before it, last first. -/
def allFrom? (read : List Token) (text : List Char) : Option (List Token) :=
  match text with
  | [] => some read.reverse
  | char :: rest =>
    if isSpace char then allFrom? read rest
    else
      match _found : next? (char :: rest) with
      | some (token, after) => allFrom? (token :: read) after
      | none => none
termination_by text.length
decreasing_by
  · simp
  · exact next?_length (by assumption)

/-- The tokens of a text, or `none` when something in it is no token. -/
def all? (text : List Char) : Option (List Token) :=
  allFrom? [] text

end Token

end Concordance.Json
