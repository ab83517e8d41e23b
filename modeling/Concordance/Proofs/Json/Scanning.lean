import Concordance.Proofs.Json.Grammar

/-!
# Scanning JSON

Each string and each numeral is read as one token, however it is spelled. A numeral is the only
token that does not show where it ends, so no digit, point or exponent may follow it.
-/
namespace Concordance.Json

namespace Token

/-! ### Strings -/

theorem hexDigit?_of_isHexDigit {char : Char} {value : Nat} (digit : IsHexDigit char value) :
    hexDigit? char = some value := by
  have all : ∀ value < 16, hexDigit? (Nat.digitChar value) = some value ∧
      hexDigit? (Nat.digitChar value).toUpper = some value := by decide
  obtain ⟨small, rfl | rfl⟩ := digit
  · exact (all value small).1
  · exact (all value small).2

theorem pieces?_of_body {body : List Char} {pieces : List Piece} (inside : Body body pieces)
    (read : List Piece) (rest : List Char) :
    pieces? read (body ++ '"' :: rest) = some (read.reverse ++ pieces, rest) := by
  induction inside generalizing read with
  | nil => simp [pieces?]
  | @char char body pieces printed unquoted unescaped _ ih =>
    have plain : ¬(char = '\\' ∨ char < ' ') := by
      rintro (escape | control)
      · exact unescaped escape
      · exact absurd control (Char.not_lt.mpr printed)
    rw [List.cons_append, pieces?, if_neg plain, ih]
    · rw [List.reverse_cons, List.append_assoc, List.singleton_append]
    · exact unquoted
    · rintro _ _ _ _ _ rfl
      exact absurd rfl unescaped
    · rintro _ _ rfl
      exact absurd rfl unescaped
  | @letter letter char body pieces means _ ih =>
    have others : letter ≠ 'u' ∧ escaped? letter = some char := by
      have all : ∀ pair ∈ letters, pair.1 ≠ 'u' ∧ escaped? pair.1 = some pair.2 := by decide
      exact all _ means
    -- the letter is not that of a code unit, so nothing but the letter belongs to the escape
    rw [List.cons_append, List.cons_append, pieces?, others.2]
    · dsimp only
      rw [ih]
      simp
    · rintro _ _ _ _ _ rfl
      exact absurd rfl others.1
  | unit first second third fourth _ ih =>
    -- the four digits are read one by one and make up the code unit
    simp only [List.cons_append, pieces?, hexUnit?, hexDigit?_of_isHexDigit first,
      hexDigit?_of_isHexDigit second, hexDigit?_of_isHexDigit third,
      hexDigit?_of_isHexDigit fourth, Option.bind_eq_bind, Option.bind_some, Option.pure_def]
    rw [ih]
    simp

/-- The pieces that are escaped are code units. -/
theorem lt_of_body {body : List Char} {pieces : List Piece} (inside : Body body pieces) {code : Nat}
    (member : .unit code ∈ pieces) : code < 0x10000 := by
  induction inside with
  | nil => simp at member
  | char _ _ _ _ ih => exact ih (by simpa using member)
  | letter _ _ ih => exact ih (by simpa using member)
  | unit first second third fourth _ ih =>
    rcases List.mem_cons.mp member with same | other
    · cases same
      have := first.1
      have := second.1
      have := third.1
      have := fourth.1
      omega
    · exact ih other

theorem isHigh_iff {code : Nat} : isHigh code = true ↔ 0xD800 ≤ code ∧ code ≤ 0xDBFF := by
  simp [isHigh]

theorem isLow_iff {code : Nat} : isLow code = true ↔ 0xDC00 ≤ code ∧ code ≤ 0xDFFF := by
  simp [isLow]

/-- The number of a character is no half of a surrogate pair. -/
theorem valid_toNat (char : Char) :
    char.toNat < 0xD800 ∨ 0xDFFF < char.toNat ∧ char.toNat < 0x110000 := char.valid

theorem spell?_unit {code : Nat} (high : isHigh code = false) (low : isLow code = false)
    (read : List Char) (rest : List Piece) :
    spell? read (.unit code :: rest) = spell? (Char.ofNat code :: read) rest := by
  -- what comes next would matter only behind the first half of a pair
  match rest with
  | [] => simp [spell?, high, low]
  | .char _ :: _ => simp [spell?, high, low]
  | .unit _ :: _ => simp [spell?, high, low]

theorem spell?_of_spelling {pieces : List Piece} {text : List Char}
    (spelling : Spelling pieces text) (read : List Char) :
    spell? read pieces = some (read.reverse ++ text) := by
  induction spelling generalizing read with
  | nil => simp [spell?]
  | char char _ ih =>
    rw [spell?, ih]
    simp
  | @units char pieces text _ ih =>
    have valid := valid_toNat char
    have together : spell? read ((codeUnits char).map .unit ++ pieces) =
        spell? (char :: read) pieces := by
      unfold codeUnits
      split
      · have high : isHigh char.toNat = false := by
          rw [Bool.eq_false_iff, Ne, isHigh_iff]
          omega
        have low : isLow char.toNat = false := by
          rw [Bool.eq_false_iff, Ne, isLow_iff]
          omega
        rw [List.map_singleton, List.singleton_append, spell?_unit high low, Char.ofNat_toNat]
      · -- the two halves make up the number of the character
        have high : isHigh (0xD800 + (char.toNat - 0x10000) / 0x400) = true :=
          isHigh_iff.mpr (by omega)
        have low : isLow (0xDC00 + (char.toNat - 0x10000) % 0x400) = true :=
          isLow_iff.mpr (by omega)
        have number : 0x10000 + (0xD800 + (char.toNat - 0x10000) / 0x400 - 0xD800) * 0x400 +
            (0xDC00 + (char.toNat - 0x10000) % 0x400 - 0xDC00) = char.toNat := by omega
        rw [List.map_cons, List.map_singleton, List.cons_append, List.singleton_append, spell?,
          if_pos high, if_pos low, number, Char.ofNat_toNat]
    rw [together, ih]
    simp

theorem toNat_ofNat {number : Nat} (valid : number.isValidChar) :
    (Char.ofNat number).toNat = number := by
  rw [Char.ofNat, dif_pos valid]
  rfl

/-- A code unit that is no half of a surrogate pair is a character. -/
theorem spelling_unit {code : Nat} {pieces : List Piece} {text : List Char}
    (small : code < 0x10000) (high : isHigh code = false) (low : isLow code = false)
    (others : Spelling pieces text) :
    Spelling (.unit code :: pieces) (Char.ofNat code :: text) := by
  rw [Bool.eq_false_iff, Ne, isHigh_iff] at high
  rw [Bool.eq_false_iff, Ne, isLow_iff] at low
  have valid : code.isValidChar := by
    unfold Nat.isValidChar
    omega
  have units : codeUnits (Char.ofNat code) = [code] := by
    rw [codeUnits, toNat_ofNat valid, if_pos small]
  have alone := Spelling.units (Char.ofNat code) others
  rw [units] at alone
  exact alone

/-- Two halves side by side are a character. -/
theorem spelling_pair {high low : Nat} {pieces : List Piece} {text : List Char}
    (first : isHigh high = true) (second : isLow low = true) (others : Spelling pieces text) :
    Spelling (.unit high :: .unit low :: pieces)
      (Char.ofNat (0x10000 + (high - 0xD800) * 0x400 + (low - 0xDC00)) :: text) := by
  rw [isHigh_iff] at first
  rw [isLow_iff] at second
  have valid : (0x10000 + (high - 0xD800) * 0x400 + (low - 0xDC00)).isValidChar := by
    unfold Nat.isValidChar
    omega
  have paired := Spelling.units
    (Char.ofNat (0x10000 + (high - 0xD800) * 0x400 + (low - 0xDC00))) others
  rw [codeUnits, toNat_ofNat valid, if_neg (by omega)] at paired
  have upper : 0xD800 + (0x10000 + (high - 0xD800) * 0x400 + (low - 0xDC00) - 0x10000) / 0x400 =
      high := by omega
  have lower : 0xDC00 + (0x10000 + (high - 0xD800) * 0x400 + (low - 0xDC00) - 0x10000) % 0x400 =
      low := by omega
  rw [upper, lower] at paired
  exact paired

/-- What is spelled is a spelling, so a string without a spelling is seen to have none. -/
theorem spelling_of_spell? {read out : List Char} {pieces : List Piece}
    (units : ∀ code, .unit code ∈ pieces → code < 0x10000)
    (spelled : spell? read pieces = some out) :
    ∃ text, out = read.reverse ++ text ∧ Spelling pieces text := by
  have behind (read : List Char) (char : Char) (text : List Char) :
      (char :: read).reverse ++ text = read.reverse ++ char :: text := by
    rw [List.reverse_cons, List.append_assoc, List.singleton_append]
  -- the cases are those of `spell?`, of which four give nothing
  fun_induction spell? read pieces with
  | case1 read => exact ⟨[], by simpa using spelled.symm, .nil⟩
  | case2 read char rest ih =>
    obtain ⟨text, rfl, spelling⟩ := ih (fun code member => units code (.tail _ member)) spelled
    exact ⟨_, behind .., .char char spelling⟩
  | case3 read high low rest first second ih =>
    obtain ⟨text, rfl, spelling⟩ :=
      ih (fun code member => units code (.tail _ (.tail _ member))) spelled
    exact ⟨_, behind .., spelling_pair first second spelling⟩
  | case4 => cases spelled
  | case5 => cases spelled
  | case6 read code low rest high other ih =>
    obtain ⟨text, rfl, spelling⟩ := ih (fun code member => units code (.tail _ member)) spelled
    exact ⟨_, behind .., spelling_unit (units code (.head _))
      (Bool.eq_false_iff.mpr high) (Bool.eq_false_iff.mpr other) spelling⟩
  | case7 => cases spelled
  | case8 read code rest _ other ih =>
    obtain ⟨text, rfl, spelling⟩ := ih (fun code member => units code (.tail _ member)) spelled
    rw [Bool.or_eq_true, not_or, Bool.not_eq_true, Bool.not_eq_true] at other
    exact ⟨_, behind .., spelling_unit (units code (.head _)) other.1 other.2
      spelling⟩

theorem next?_of_isString {text : Option String} {quoted : List Char}
    (isString : IsString text quoted) (rest : List Char) :
    next? (quoted ++ rest) = some (.string text, rest) := by
  obtain ⟨inside, means⟩ := isString
  next body pieces =>
  -- a text is spelled in one way only, and what is spelled is a text
  have text_eq : (spell? [] pieces).map String.ofList = text := by
    cases means with
    | text spelling =>
      rw [spell?_of_spelling spelling]
      exact congrArg some String.ofList_toList
    | nothing unspelled =>
      cases spelled : spell? [] pieces with
      | none => rfl
      | some out =>
        obtain ⟨text, _, spelling⟩ := spelling_of_spell? (fun _ => lt_of_body inside) spelled
        exact absurd spelling (unspelled text)
  have opened : next? ('"' :: (body ++ '"' :: rest)) = string? (body ++ '"' :: rest) := rfl
  rw [List.cons_append, List.append_assoc, List.singleton_append, opened, string?,
    pieces?_of_body inside]
  dsimp only [List.reverse_nil, List.nil_append]
  rw [text_eq]

/-! ### Numerals -/

/-- The text does not go on with a digit. -/
def EndsDigits (rest : List Char) : Prop :=
  ∀ char, rest.head? = some char → char.isDigit = false

/-- The text does not go on with what could belong to a numeral. -/
def EndsNumeral (rest : List Char) : Prop :=
  ∀ char, rest.head? = some char → char.isDigit = false ∧ char ∉ ['.', 'e', 'E']

theorem EndsNumeral.digits {rest : List Char} (ends : EndsNumeral rest) : EndsDigits rest :=
  fun char first => (ends char first).1

theorem endsDigits_cons {char : Char} {rest : List Char} (other : char.isDigit = false) :
    EndsDigits (char :: rest) := by
  intro first same
  cases same
  exact other

theorem digits?_append {digits rest : List Char} (isDigits : IsDigits digits)
    (ends : EndsDigits rest) : digits? (digits ++ rest) = some (digits, rest) := by
  obtain ⟨some, all⟩ := isDigits
  -- the run of digits goes no further than the digits do
  have stops : rest.takeWhile isDigit = [] ∧ rest.dropWhile isDigit = rest := by
    cases rest with
    | nil => exact ⟨rfl, rfl⟩
    | cons char rest =>
      have other : isDigit char = false := ends char rfl
      simp [other]
  have every : ∀ char ∈ digits, isDigit char = true := all
  rw [digits?, List.takeWhile_append_of_pos every, List.dropWhile_append_of_pos every, stops.1,
    stops.2, List.append_nil]
  cases digits with
  | nil => exact absurd rfl some
  | cons => rfl

theorem integer?_append {digits rest : List Char} (integer : IsInteger digits)
    (ends : EndsDigits rest) : integer? (digits ++ rest) = some (digits, rest) := by
  cases integer with
  | zero => rfl
  | positive digits leading =>
    rw [← digits?_append digits ends, List.cons_append, integer?]
    intro _ same
    exact leading (List.head_eq_of_cons_eq same)

theorem fraction?_append {fraction rest : List Char} (fractional : IsFraction fraction)
    (ends : EndsDigits rest) (pointless : rest.head? ≠ some '.') :
    fraction? (fraction ++ rest) = some (!fraction.isEmpty, rest) := by
  cases fractional with
  | none =>
    rw [List.nil_append, fraction?]
    · rfl
    · rintro after rfl
      exact pointless rfl
  | point after =>
    rw [List.cons_append, fraction?, digits?_append after ends]
    rfl

theorem dropSign_append {sign digits : List Char} (signs : sign ∈ [[], ['+'], ['-']])
    (isDigits : IsDigits digits) (rest : List Char) :
    dropSign (sign ++ (digits ++ rest)) = digits ++ rest := by
  simp only [List.mem_cons, List.not_mem_nil, or_false] at signs
  rcases signs with rfl | rfl | rfl
  · -- without a sign the first character is a digit, and no digit is a sign
    obtain ⟨some, all⟩ := isDigits
    obtain ⟨first, others, rfl⟩ := List.exists_cons_of_ne_nil some
    have digit := all first (.head _)
    rw [List.nil_append, List.cons_append, dropSign]
    · rintro after same
      rw [List.head_eq_of_cons_eq same] at digit
      exact absurd digit (by decide)
    · rintro after same
      rw [List.head_eq_of_cons_eq same] at digit
      exact absurd digit (by decide)
  · rfl
  · rfl

theorem exponent?_append {exponent rest : List Char} (exponential : IsExponent exponent)
    (ends : EndsNumeral rest) :
    exponent? (exponent ++ rest) = some (!exponent.isEmpty, rest) := by
  cases exponential with
  | none =>
    rw [List.nil_append, exponent?]
    · rfl
    · rintro after rfl
      exact absurd (ends 'e' rfl).2 (by decide)
    · rintro after rfl
      exact absurd (ends 'E' rfl).2 (by decide)
  | @mark mark sign digits marks signs after =>
    simp only [List.mem_cons, List.not_mem_nil, or_false] at marks
    rw [List.cons_append, List.append_assoc]
    rcases marks with rfl | rfl
    · rw [exponent?, dropSign_append signs after, digits?_append after ends.digits]
      rfl
    · rw [exponent?, dropSign_append signs after, digits?_append after ends.digits]
      rfl

/-- The digits are put together as long as they make a word. -/
theorem foldlM_appendDigit? {total : Nat} (small : total < UInt64.size) (digits : List Char) :
    digits.foldlM appendDigit? total =
      if Nat.ofDigitChars 10 digits total < UInt64.size then
        some (Nat.ofDigitChars 10 digits total)
      else none := by
  induction digits generalizing total with
  | nil => simp [small]
  | cons digit digits ih =>
    have next : total * 10 + (digit.toNat - 0x30) = 10 * total + (digit.toNat - '0'.toNat) := by
      rw [Nat.mul_comm]
      rfl
    rw [List.foldlM_cons, appendDigit?, next, Nat.ofDigitChars_cons]
    split
    · next fits => exact ih fits
    · next large =>
      -- more digits make no smaller number
      have grows (value : Nat) : value ≤ Nat.ofDigitChars 10 digits value := by
        rw [Nat.ofDigitChars_eq_ofDigitChars_zero]
        have := Nat.le_mul_of_pos_left value (Nat.pow_pos (n := digits.length) (by decide : 0 < 10))
        omega
      have larger := grows (10 * total + (digit.toNat - '0'.toNat))
      rw [if_neg (by omega)]
      rfl

theorem decimal?_eq (digits : List Char) :
    decimal? digits =
      if Nat.ofDigitChars 10 digits 0 < UInt64.size then
        some (UInt64.ofNat (Nat.ofDigitChars 10 digits 0))
      else none := by
  rw [decimal?, foldlM_appendDigit? (by decide)]
  split <;> rfl

/-- An exponent is neither a digit nor a fraction. -/
theorem endsDigits_exponent {exponent rest : List Char} (exponential : IsExponent exponent)
    (ends : EndsNumeral rest) :
    EndsDigits (exponent ++ rest) ∧ (exponent ++ rest).head? ≠ some '.' := by
  cases exponential with
  | none => exact ⟨ends.digits, fun point => absurd (ends '.' point).2 (by decide)⟩
  | mark marks signs after =>
    simp only [List.mem_cons, List.not_mem_nil, or_false] at marks
    rcases marks with rfl | rfl
    · exact ⟨endsDigits_cons (by decide), by simp⟩
    · exact ⟨endsDigits_cons (by decide), by simp⟩

theorem number?_append {digits fraction exponent rest : List Char} (integer : IsInteger digits)
    (fractional : IsFraction fraction) (exponential : IsExponent exponent)
    (ends : EndsNumeral rest) (negative : Bool) :
    number? negative (digits ++ (fraction ++ (exponent ++ rest))) =
      some (.number (if negative || !fraction.isEmpty || !exponent.isEmpty then none
        else decimal? digits), rest) := by
  obtain ⟨digitless, pointless⟩ := endsDigits_exponent exponential ends
  have whole : EndsDigits (fraction ++ (exponent ++ rest)) := by
    cases fractional with
    | none => exact digitless
    | point => exact endsDigits_cons (by decide)
  rw [number?, integer?_append integer whole]
  dsimp only
  rw [fraction?_append fractional digitless pointless]
  dsimp only
  rw [exponent?_append exponential ends]
  dsimp only
  split <;> rfl

theorem begins_of_isInteger {digits : List Char} (integer : IsInteger digits) :
    ∃ first rest, digits = first :: rest ∧ first.isDigit = true := by
  cases integer with
  | zero => exact ⟨_, _, rfl, rfl⟩
  | positive digits => exact ⟨_, _, rfl, digits.2 _ (.head _)⟩

theorem next?_of_digit {char : Char} (digit : char.isDigit = true) (rest : List Char) :
    next? (char :: rest) = number? false (char :: rest) := by
  -- all other tokens begin with a character that is no digit
  unfold next?
  split
  case h_12 => rfl
  all_goals
    next same =>
      rw [List.head_eq_of_cons_eq same] at digit
      exact absurd digit (by decide)

theorem next?_of_isInteger {digits : List Char} (integer : IsInteger digits) (rest : List Char) :
    next? (digits ++ rest) = number? false (digits ++ rest) := by
  obtain ⟨first, others, rfl, digit⟩ := begins_of_isInteger integer
  exact next?_of_digit digit _

theorem next?_of_isNumeral {word : Option UInt64} {text rest : List Char}
    (numeral : IsNumeral word text) (ends : EndsNumeral rest) :
    next? (text ++ rest) = some (.number word, rest) := by
  cases numeral with
  | @word _ word integer value =>
    have read := number?_append integer .none .none ends false
    rw [List.nil_append, List.nil_append, if_neg (by decide), decimal?_eq, value,
      if_pos word.toNat_lt, UInt64.ofNat_toNat] at read
    rw [next?_of_isInteger integer, read]
  | large integer value =>
    have read := number?_append integer .none .none ends false
    rw [List.nil_append, List.nil_append, if_neg (by decide), decimal?_eq,
      if_neg (Nat.not_lt.mpr value)] at read
    rw [next?_of_isInteger integer, read]
  | @other sign digits fraction exponent signs integer fractional exponential some =>
    simp only [List.mem_cons, List.not_mem_nil, or_false] at signs
    simp only [List.append_assoc]
    rcases signs with rfl | rfl
    · -- there is no sign, so there is a fraction or an exponent
      have marked : (false || !fraction.isEmpty || !exponent.isEmpty) = true := by
        cases fraction <;> cases exponent <;> simp_all
      rw [List.nil_append, next?_of_isInteger integer,
        number?_append integer fractional exponential ends, if_pos marked]
    · have signed (rest : List Char) : next? ('-' :: rest) = number? true rest := rfl
      rw [List.singleton_append, signed, number?_append integer fractional exponential ends]
      rfl

/-! ### Token by token -/

theorem isSpace_iff {char : Char} : isSpace char = true ↔ char ∈ [' ', '\n', '\t', '\r'] := by
  simp [isSpace, or_assoc]

theorem allFrom?_blank {blank : List Char} (nothing : IsBlank blank) (read : List Token)
    (rest : List Char) : allFrom? read (blank ++ rest) = allFrom? read rest := by
  induction blank with
  | nil => rfl
  | cons char blank ih =>
    rw [List.cons_append, allFrom?, if_pos (isSpace_iff.mpr (nothing char (.head _)))]
    exact ih fun other member => nothing other (.tail _ member)

/-- No token begins with white space. -/
theorem isSpace_of_next? {char : Char} {text rest : List Char} {token : Token}
    (found : next? (char :: text) = some (token, rest)) : isSpace char = false := by
  cases space : isSpace char with
  | false => rfl
  | true =>
    rw [isSpace_iff] at space
    simp only [List.mem_cons, List.not_mem_nil, or_false] at space
    rcases space with rfl | rfl | rfl | rfl <;> cases found

theorem allFrom?_next {text rest : List Char} {token : Token}
    (found : next? text = some (token, rest)) (read : List Token) :
    allFrom? read text = allFrom? (token :: read) rest := by
  cases text with
  | nil => cases found
  | cons char text =>
    rw [allFrom?, if_neg (Bool.eq_false_iff.mp (isSpace_of_next? found))]
    split
    · next same =>
      rw [found] at same
      cases same
      rfl
    · next none =>
      rw [found] at none
      cases none

/-- The text is read as these tokens if no numeral can go on behind it. -/
def Reads (tokens : List Token) (text : List Char) : Prop :=
  ∀ read rest, EndsNumeral rest →
    allFrom? read (text ++ rest) = allFrom? (tokens.reverse ++ read) rest

theorem Reads.of_next {token : Token} {text : List Char}
    (found : ∀ rest, EndsNumeral rest → next? (text ++ rest) = some (token, rest)) :
    Reads [token] text :=
  fun read rest ends => allFrom?_next (found rest ends) read

theorem endsNumeral_nil : EndsNumeral [] :=
  fun _ first => nomatch first

theorem endsNumeral_cons {char : Char} (rest : List Char)
    (other : char.isDigit = false ∧ char ∉ ['.', 'e', 'E']) : EndsNumeral (char :: rest) := by
  intro first same
  cases same
  exact other

theorem endsNumeral_blank {blank rest : List Char} (nothing : IsBlank blank)
    (ends : EndsNumeral rest) : EndsNumeral (blank ++ rest) := by
  cases blank with
  | nil => exact ends
  | cons char blank =>
    have space := nothing char (.head _)
    simp only [List.mem_cons, List.not_mem_nil, or_false] at space
    apply endsNumeral_cons
    rcases space with rfl | rfl | rfl | rfl <;> decide

/-- White space around a part means nothing. -/
theorem Reads.padded {tokens : List Token} {before text after : List Char}
    (reads : Reads tokens text) (leads : IsBlank before) (trails : IsBlank after)
    (read : List Token) {rest : List Char} (ends : EndsNumeral rest) :
    allFrom? read (before ++ (text ++ (after ++ rest))) =
      allFrom? (tokens.reverse ++ read) rest := by
  rw [allFrom?_blank leads, reads _ _ (endsNumeral_blank trails ends), allFrom?_blank trails]

end Token

end Concordance.Json
