/-!
# JSON values

The value of a JSON document, as far as a configuration or a report can depend on it. A string
may hold half of a surrogate pair and then stands for no text; a numeral with a sign, a fraction
or an exponent stands for no word, and neither does one that is too large. Such values are kept,
without their content, because a document may hold them where nobody looks.
-/
namespace Concordance

inductive Json
  | null
  | bool (value : Bool)
  | number (word : Option UInt64)
  | string (text : Option String)
  | array (items : List Json)
  /-- The members in the order in which they stand, repeated keys included. -/
  | object (members : List (Option String × Json))
  deriving Repr, Inhabited

namespace Json

def ofText (text : String) : Json :=
  .string (some text)

def ofWord (word : UInt64) : Json :=
  .number (some word)

def ofFields (fields : List (String × Json)) : Json :=
  .object (fields.map fun (name, value) => (some name, value))

def text? : Json → Option String
  | .string text => text
  | _ => none

def word? : Json → Option UInt64
  | .number word => word
  | _ => none

def items? : Json → Option (List Json)
  | .array items => some items
  | _ => none

end Json

end Concordance
