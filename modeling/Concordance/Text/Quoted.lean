import Concordance.Unicode.Invisible

/-!
# Quoted text

The form in which an error message shows a term: between double quotes, with the quote, the
backslash and the common controls escaped by a letter and every other invisible character by
its number in hexadecimal.
-/
namespace Concordance.Text

def escape (char : Char) : String :=
  match char with
  | '"' => "\\\""
  | '\\' => "\\\\"
  | '\n' => "\\n"
  | '\r' => "\\r"
  | '\t' => "\\t"
  | '\x00' => "\\0"
  | _ =>
    if Unicode.invisible.contains char then
      "\\u\x7b" ++ String.ofList (Nat.toDigits 16 char.toNat) ++ "\x7d"
    else char.toString

def quoted (text : String) : String :=
  "\"" ++ String.join (text.toList.map escape) ++ "\""

end Concordance.Text
