import Concordance.Json.Render
import Concordance.Proofs.Json.Scanning

/-!
# Reading JSON

The tokens of a document are those of the value that it holds, and reading these gives the value
back. So every document that holds a value is read as this value, and one of them is the document
that is written for it.
-/
namespace Concordance.Json

open Token (Reads allFrom? allFrom?_next endsNumeral_cons written)

/-! ### The tokens of a document -/

/-- A value is a scalar, or it has parts. -/
theorem inductionOn {motive : Json → Prop} (null : motive .null)
    (bool : ∀ truth, motive (.bool truth)) (number : ∀ word, motive (.number word))
    (string : ∀ text, motive (.string text))
    (array : ∀ items, (∀ item ∈ items, motive item) → motive (.array items))
    (object : ∀ members, (∀ member ∈ members, motive member.2) → motive (.object members))
    (value : Json) : motive value :=
  match value with
  | .null => null
  | .bool truth => bool truth
  | .number word => number word
  | .string text => string text
  | .array items =>
    array items fun item _inside => inductionOn null bool number string array object item
  | .object members =>
    object members fun member _inside =>
      inductionOn null bool number string array object member.2
termination_by value
decreasing_by
  -- a part is smaller than the list it stands in, and a value smaller than its member
  · have smaller := List.sizeOf_lt_of_mem _inside
    simp only [Json.array.sizeOf_spec]
    omega
  · have smaller := List.sizeOf_lt_of_mem _inside
    have part : sizeOf member.2 < sizeOf member := by
      cases member
      simp only [Prod.mk.sizeOf_spec]
      omega
    simp only [Json.object.sizeOf_spec]
    omega

/-- The tokens of the parts, with a comma between any two. -/
def listed {α : Type} (tokensOf : α → List Token) : List α → List Token
  | [] => []
  | [part] => tokensOf part
  | part :: next :: rest => tokensOf part ++ .comma :: listed tokensOf (next :: rest)

theorem listed_cons {α : Type} (tokensOf : α → List Token) (part : α) (parts : List α) :
    ∃ more, listed tokensOf (part :: parts) = tokensOf part ++ more := by
  cases parts with
  | nil => exact ⟨[], (List.append_nil _).symm⟩
  | cons next rest => exact ⟨_, rfl⟩

/-- The tokens of a key and its value. -/
def keyTokens (member : Member) : List Token :=
  .string member.1 :: .colon :: member.2.tokens

theorem itemTokens_eq (items : List Json) : itemTokens items = listed tokens items := by
  fun_induction listed tokens items with
  | case1 => rfl
  | case2 => rfl
  | case3 item next rest ih => rw [itemTokens, ih]

theorem memberTokens_eq (members : List Member) :
    memberTokens members = listed keyTokens members := by
  fun_induction listed keyTokens members with
  | case1 => rfl
  | case2 => rfl
  | case3 member next rest ih =>
    rw [memberTokens, ih]
    rfl

/-- If every part is read as its tokens, all of them are. -/
theorem reads_separated {α : Type} {spells : α → List Char → Prop} {tokensOf : α → List Token}
    {parts : List α} {inner : List Char} (separated : Separated spells parts inner)
    (each : ∀ part ∈ parts, ∀ text, spells part text → Reads (tokensOf part) text) :
    Reads (listed tokensOf parts) inner := by
  -- the induction is on how the parts are separated; neither white space nor a comma nor what
  -- follows the last part goes on with a numeral
  induction separated with
  | none nothing => exact fun read rest _ => Token.allFrom?_blank nothing read rest
  | @last part before text after leads spelled trails =>
    intro read rest ends
    rw [List.append_assoc, List.append_assoc]
    exact (each part (.head _) text spelled).padded leads trails read ends
  | @more part next parts before text after others leads spelled trails _ ih =>
    intro read rest ends
    have comma : Token.next? (',' :: (others ++ rest)) = some (.comma, others ++ rest) := rfl
    simp only [List.append_assoc, List.cons_append]
    rw [(each part (.head _) text spelled).padded leads trails read
      (endsNumeral_cons _ (by decide)), allFrom?_next comma,
      ih (fun part member => each part (.tail _ member)) _ _ ends, listed]
    simp

/-- What stands between two marks is read between their tokens. -/
theorem reads_enclosed {opening closing : Char} {first last : Token} {inside : List Token}
    {inner : List Char} (opens : ∀ rest, Token.next? (opening :: rest) = some (first, rest))
    (closes : ∀ rest, Token.next? (closing :: rest) = some (last, rest))
    (ends : closing.isDigit = false ∧ closing ∉ ['.', 'e', 'E']) (reads : Reads inside inner) :
    Reads (first :: inside ++ [last]) (opening :: (inner ++ [closing])) := by
  intro read rest _
  rw [List.cons_append, List.append_assoc, List.singleton_append, allFrom?_next (opens _),
    reads _ _ (endsNumeral_cons _ ends), allFrom?_next (closes _)]
  simp

/-- A text that spells a value is read as the tokens of the value. -/
theorem reads_of_spells {value : Json} {text : List Char} (spells : Spells value text) :
    Reads value.tokens text := by
  induction value using inductionOn generalizing text with
  | null =>
    cases spells
    exact .of_next fun _ _ => rfl
  | bool truth =>
    cases spells with
    | true => exact .of_next fun _ _ => rfl
    | false => exact .of_next fun _ _ => rfl
  | number word =>
    cases spells with
    | number numeral => exact .of_next fun _ ends => Token.next?_of_isNumeral numeral ends
  | string string =>
    cases spells with
    | string spelled => exact .of_next fun rest _ => Token.next?_of_isString spelled rest
  | array items ih =>
    cases spells with
    | array spelled =>
      rw [tokens, itemTokens_eq]
      exact reads_enclosed (fun _ => rfl) (fun _ => rfl) (by decide)
        (reads_separated spelled fun item member _ => ih item member)
  | object members ih =>
    cases spells with
    | object spelled =>
      rw [tokens, memberTokens_eq]
      refine reads_enclosed (fun _ => rfl) (fun _ => rfl) (by decide)
        (reads_separated spelled fun member inside text spells => ?_)
      cases spells with
      | @member key value name between gap text named leads trails spelled =>
        intro read rest ends
        have colon : Token.next? (':' :: (gap ++ (text ++ rest))) =
            some (.colon, gap ++ (text ++ rest)) := rfl
        simp only [List.append_assoc, List.cons_append]
        -- the key shows where it ends, so anything may follow it
        rw [allFrom?_next (Token.next?_of_isString named _), Token.allFrom?_blank leads,
          allFrom?_next colon, Token.allFrom?_blank trails, ih _ inside spelled _ _ ends,
          keyTokens]
        simp

/-- A document is read as the tokens of the value that it holds. -/
theorem all?_of_isDocument {value : Json} {document : String}
    (holds : IsDocument value document) : Token.all? document.toList = some value.tokens := by
  obtain ⟨before, text, after, leads, spells, trails, whole⟩ := holds
  have read := (reads_of_spells spells).padded leads trails [] Token.endsNumeral_nil
  rw [List.append_nil] at read
  rw [Token.all?, whole, read, Token.allFrom?]
  simp

/-! ### Reading tokens -/

namespace Reading

variable {state after : Reading} {token : Token}

theorem foldlM_cons (next : step state token = some after) (rest : List Token) :
    (token :: rest).foldlM step state = rest.foldlM step after := by
  rw [List.foldlM_cons, next]
  rfl

/-- Where an array may end, a value may begin. -/
theorem foldlM_firstItem (value : Json) (frames : List Frame) (rest : List Token) :
    (value.tokens ++ rest).foldlM step (.firstItem frames) =
      (value.tokens ++ rest).foldlM step (.value (.array [] :: frames)) := by
  cases value <;> rfl

/-- The value is read, whatever is open around it. -/
def Completes (value : Json) : Prop :=
  ∀ frames rest, (value.tokens ++ rest).foldlM step (.value frames) =
    rest.foldlM step (.complete value frames)

/-- The items of an array are read one after the other, and then the array is complete. -/
theorem foldlM_items {items : List Json} (frames : List Frame) (rest : List Token) (item : Json)
    (read : List Json) (each : ∀ part ∈ item :: items, Completes part) :
    (listed tokens (item :: items) ++ .arrayClose :: rest).foldlM step
        (.value (.array read :: frames)) =
      rest.foldlM step (.complete (.array (read.reverse ++ item :: items)) frames) := by
  induction items generalizing item read with
  | nil =>
    rw [listed, each item (.head _), foldlM_cons rfl, List.reverse_cons]
  | cons next items ih =>
    rw [listed, List.append_assoc, each item (.head _), List.cons_append, foldlM_cons rfl,
      ih next (item :: read) fun part member => each part (.tail _ member), List.reverse_cons,
      List.append_assoc, List.singleton_append]

/-- So are the members of an object. -/
theorem foldlM_members {members : List Member} (frames : List Frame) (rest : List Token)
    (member : Member) (read : List Member)
    (each : ∀ part ∈ member :: members, Completes part.2) :
    (listed keyTokens (member :: members) ++ .objectClose :: rest).foldlM step
        (.key read frames) =
      rest.foldlM step (.complete (.object (read.reverse ++ member :: members)) frames) := by
  induction members generalizing member read with
  | nil =>
    rw [listed, keyTokens, List.cons_append, List.cons_append, foldlM_cons rfl, foldlM_cons rfl,
      each member (.head _), foldlM_cons rfl, List.reverse_cons]
  | cons next members ih =>
    rw [listed, keyTokens, List.append_assoc, List.cons_append, List.cons_append, foldlM_cons rfl,
      foldlM_cons rfl, each member (.head _), List.cons_append, foldlM_cons rfl,
      ih next (member :: read) fun part inside => each part (.tail _ inside), List.reverse_cons,
      List.append_assoc, List.singleton_append]

/-- Every value is read, by induction on its parts. -/
theorem completes (value : Json) : Completes value := by
  induction value using inductionOn with
  | null => exact fun _ _ => rfl
  | bool truth => exact fun _ _ => rfl
  | number word => exact fun _ _ => rfl
  | string text => exact fun _ _ => rfl
  | array items ih =>
    intro frames rest
    rw [tokens, itemTokens_eq, List.cons_append, List.cons_append, List.append_assoc,
      List.singleton_append, foldlM_cons rfl]
    cases items with
    | nil => rfl
    | cons item items =>
      -- the first token is that of a value, so the array does not end here
      have first := foldlM_items frames rest item [] ih
      obtain ⟨more, begins⟩ := listed_cons tokens item items
      rw [begins, List.append_assoc] at first ⊢
      rw [foldlM_firstItem, first, List.reverse_nil, List.nil_append]
  | object members ih =>
    intro frames rest
    rw [tokens, memberTokens_eq, List.cons_append, List.cons_append, List.append_assoc,
      List.singleton_append, foldlM_cons rfl]
    cases members with
    | nil => rfl
    | cons member members =>
      -- it does not matter whether a key is the first one
      have first := foldlM_members frames rest member [] ih
      obtain ⟨more, begins⟩ := listed_cons keyTokens member members
      rw [begins] at first ⊢
      exact first

end Reading

/-- A document is read as the value that it holds. -/
theorem parse?_of_isDocument {value : Json} {document : String}
    (holds : IsDocument value document) : parse? document = some value := by
  have completed := Reading.completes value [] []
  rw [List.append_nil] at completed
  rw [parse?, all?_of_isDocument holds, Option.bind_some, ofTokens?, completed]
  rfl

/-! ### Written documents -/

theorem body_escape (char : Char) {text : List Char} {body : List Char} {pieces : List Token.Piece}
    (others : Body body pieces) (spelling : Spelling pieces text) :
    ∃ pieces, Body (Token.escape char ++ body) pieces ∧ Spelling pieces (char :: text) := by
  unfold Token.escape
  split
  case h_8 quote backslash _ _ _ _ _ =>
    split
    · next control =>
      -- a control is the only code unit of its character, and its first two digits are zeros
      have small : char.toNat < 32 := control
      have digit {value : Nat} (small : value < 16) :
          IsHexDigit (Nat.digitChar value) value := ⟨small, .inl rfl⟩
      have zero : IsHexDigit '0' 0 := digit (by decide)
      have code : ((0 * 16 + 0) * 16 + char.toNat / 16 % 16) * 16 + char.toNat % 16 =
          char.toNat := by omega
      have unit := Spelling.units char spelling
      rw [codeUnits, if_pos (by omega), List.map_singleton, List.singleton_append, ← code] at unit
      exact ⟨_, .unit zero zero (digit (Nat.mod_lt _ (by decide)))
        (digit (Nat.mod_lt _ (by decide))) others, unit⟩
    · next printed =>
      exact ⟨_, .char (Char.not_lt.mp printed) quote backslash others, .char char spelling⟩
  all_goals exact ⟨_, .letter (by decide) others, .char _ spelling⟩

theorem isString_written (text : Option String) : IsString text (written (.string text)) := by
  cases text with
  | none =>
    have half : Body ['\\', 'u', 'd', '8', '0', '0'] [.unit 0xD800] :=
      .unit (w := 13) (x := 8) (y := 0) (z := 0) (by decide) (by decide) (by decide) (by decide)
        .nil
    -- if the half had a text it would be spelled
    refine .quoted half (.nothing fun text spelling => ?_)
    cases Token.spell?_of_spelling spelling []
  | some text =>
    have escaped (chars : List Char) :
        ∃ pieces, Body (chars.flatMap Token.escape) pieces ∧ Spelling pieces chars := by
      induction chars with
      | nil => exact ⟨[], .nil, .nil⟩
      | cons char chars ih =>
        obtain ⟨pieces, body, spelling⟩ := ih
        exact body_escape char body spelling
    obtain ⟨pieces, body, spelling⟩ := escaped text.toList
    exact .quoted body (.text spelling)

/-- No zero stands at the beginning of a number that is not zero. -/
theorem leading_toDigits {number : Nat} (positive : number ≠ 0) :
    ∃ first rest, Nat.toDigits 10 number = first :: rest ∧ first ≠ '0' := by
  induction number using Nat.base_induction 10 (by decide) with
  | single digit small =>
    have all : ∀ digit < 10, digit ≠ 0 → Nat.digitChar digit ≠ '0' := by decide
    exact ⟨_, [], Nat.toDigits_of_lt_base small, all digit small positive⟩
  | digit number digit small before ih =>
    obtain ⟨first, rest, split, leading⟩ := ih (by omega)
    rw [← Nat.toDigits_append_toDigits (by decide) before small, split]
    exact ⟨first, _, rfl, leading⟩

theorem isInteger_toDigits (number : Nat) : IsInteger (Nat.toDigits 10 number) := by
  by_cases zero : number = 0
  · rw [zero]
    exact .zero
  · have digits : IsDigits (Nat.toDigits 10 number) :=
      ⟨Nat.toDigits_ne_nil, fun _ => Nat.isDigit_of_mem_toDigits (by decide) (by decide)⟩
    obtain ⟨first, rest, split, leading⟩ := leading_toDigits zero
    rw [split] at digits ⊢
    exact .positive digits leading

theorem isNumeral_written (word : Option UInt64) : IsNumeral word (written (.number word)) := by
  cases word with
  | none =>
    have signed : IsNumeral none (['-'] ++ (['0'] ++ ([] ++ []))) :=
      .other (by decide) .zero .none .none (by decide)
    exact signed
  | some word => exact .word (isInteger_toDigits _) Nat.ofDigitChars_ten_toDigits

theorem isBlank_nil : IsBlank [] := by decide

/-- Parts that are written one after the other, without white space. -/
theorem separated_listed {α : Type} {spells : α → List Char → Prop} {tokensOf : α → List Token}
    {parts : List α} (each : ∀ part ∈ parts, spells part ((tokensOf part).flatMap written)) :
    Separated spells parts ((listed tokensOf parts).flatMap written) := by
  have nothing := isBlank_nil
  fun_induction listed tokensOf parts with
  | case1 => exact .none nothing
  | case2 part =>
    have alone := Separated.last nothing (each part (.head _)) nothing
    rw [List.append_nil] at alone
    exact alone
  | case3 part next rest ih =>
    have others := ih fun part member => each part (.tail _ member)
    have first := Separated.more nothing (each part (.head _)) nothing others
    rw [List.flatMap_append, List.flatMap_cons]
    exact first

theorem spells_written (value : Json) : Spells value (value.tokens.flatMap written) := by
  induction value using inductionOn with
  | null => exact .null
  | bool truth =>
    cases truth with
    | false => exact .false
    | true => exact .true
  | number word =>
    rw [tokens, List.flatMap_singleton]
    exact .number (isNumeral_written word)
  | string text =>
    rw [tokens, List.flatMap_singleton]
    exact .string (isString_written text)
  | array items ih =>
    rw [tokens, itemTokens_eq, List.cons_append, List.flatMap_cons, List.flatMap_append,
      List.flatMap_singleton]
    exact .array (separated_listed ih)
  | object members ih =>
    have member : ∀ member ∈ members, SpellsMember member ((keyTokens member).flatMap written) := by
      rintro ⟨key, value⟩ inside
      have nothing := isBlank_nil
      rw [keyTokens, List.flatMap_cons, List.flatMap_cons]
      exact .member (isString_written key) nothing nothing (ih _ inside)
    rw [tokens, memberTokens_eq, List.cons_append, List.flatMap_cons, List.flatMap_append,
      List.flatMap_singleton]
    exact .object (separated_listed member)

/-- What is written for a value is a document that holds it. -/
theorem isDocument_render (value : Json) : IsDocument value value.render := by
  refine ⟨[], _, [], isBlank_nil, spells_written value, isBlank_nil, ?_⟩
  rw [render, String.toList_ofList, List.append_nil, List.nil_append]

end Concordance.Json
