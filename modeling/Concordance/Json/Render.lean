import Concordance.Json.Token

/-!
# Writing JSON

A value is written without white space, members in their order. In a string the quote, the
backslash and the controls are escaped, by a letter where there is one; every other character
stands for itself.
-/
namespace Concordance.Json

namespace Token

/-- Two hexadecimal digits. -/
def hexPair (code : Nat) : List Char :=
  [Nat.digitChar (code / 16 % 16), Nat.digitChar (code % 16)]

def escape (char : Char) : List Char :=
  match char with
  | '"' => ['\\', '"']
  | '\\' => ['\\', '\\']
  | '\x08' => ['\\', 'b']
  | '\x0c' => ['\\', 'f']
  | '\n' => ['\\', 'n']
  | '\r' => ['\\', 'r']
  | '\t' => ['\\', 't']
  | _ => if char < ' ' then ['\\', 'u', '0', '0'] ++ hexPair char.toNat else [char]

/-- What stands between the quotes. Half of a surrogate pair stands for a string without a
text. -/
def quotedBody : Option String → List Char
  | some text => text.toList.flatMap escape
  | none => ['\\', 'u', 'd', '8', '0', '0']

/-- The written form of a token. A signed zero stands for a number that is no word. -/
def written : Token → List Char
  | .arrayOpen => ['[']
  | .arrayClose => [']']
  | .objectOpen => ['\x7b']
  | .objectClose => ['\x7d']
  | .comma => [',']
  | .colon => [':']
  | .string text => '"' :: quotedBody text ++ ['"']
  | .null => ['n', 'u', 'l', 'l']
  | .bool true => ['t', 'r', 'u', 'e']
  | .bool false => ['f', 'a', 'l', 's', 'e']
  | .number (some word) => Nat.toDigits 10 word.toNat
  | .number none => ['-', '0']

end Token

mutual

/-- The tokens that spell a value. -/
def tokens : Json → List Token
  | .null => [.null]
  | .bool value => [.bool value]
  | .number word => [.number word]
  | .string text => [.string text]
  | .array items => .arrayOpen :: itemTokens items ++ [.arrayClose]
  | .object members => .objectOpen :: memberTokens members ++ [.objectClose]

/-- The items of an array, with a comma between any two. -/
def itemTokens : List Json → List Token
  | [] => []
  | [item] => tokens item
  | item :: next :: rest => tokens item ++ .comma :: itemTokens (next :: rest)

/-- The members of an object, with a comma between any two. -/
def memberTokens : List (Option String × Json) → List Token
  | [] => []
  | [(key, value)] => .string key :: .colon :: tokens value
  | (key, value) :: next :: rest =>
    .string key :: .colon :: tokens value ++ .comma :: memberTokens (next :: rest)

end

/-- The document that holds a value. -/
def render (value : Json) : String :=
  String.ofList (value.tokens.flatMap Token.written)

end Concordance.Json
