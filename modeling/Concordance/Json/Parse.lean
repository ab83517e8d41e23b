import Concordance.Json.Token

/-!
# Reading JSON

A document is one value with nothing but white space around it. The tokens are read one after
the other; what is still open is kept as a list of frames, innermost first, so values may nest
to any depth.
-/
namespace Concordance.Json

/-- A member of an object: its key, if that is a text, and its value. -/
abbrev Member := Option String × Json

/-- An array or object whose end has not been reached, with its content so far, last first. -/
inductive Frame
  | array (items : List Json)
  /-- The value of `key` is being read. -/
  | object (members : List Member) (key : Option String)
  deriving Repr

/-- What may come next. -/
inductive Reading
  | value (frames : List Frame)
  /-- The first item of an array, or its end. -/
  | firstItem (frames : List Frame)
  /-- The first key of an object, or its end. -/
  | firstKey (frames : List Frame)
  | key (members : List Member) (frames : List Frame)
  | colon (members : List Member) (key : Option String) (frames : List Frame)
  /-- A value is complete. -/
  | complete (value : Json) (frames : List Frame)
  deriving Repr

namespace Reading

/-- Begins a value. -/
def beginValue (frames : List Frame) : Token → Option Reading
  | .null => some (.complete .null frames)
  | .bool truth => some (.complete (.bool truth) frames)
  | .number word => some (.complete (.number word) frames)
  | .string text => some (.complete (.string text) frames)
  | .arrayOpen => some (.firstItem frames)
  | .objectOpen => some (.firstKey frames)
  | _ => none

/-- The reading after one more token, or `none` when the token cannot stand here. -/
def step : Reading → Token → Option Reading
  | .value frames, token => beginValue frames token
  | .firstItem frames, .arrayClose => some (.complete (.array []) frames)
  | .firstItem frames, token => beginValue (.array [] :: frames) token
  | .firstKey frames, .objectClose => some (.complete (.object []) frames)
  | .firstKey frames, .string name => some (.colon [] name frames)
  | .key members frames, .string name => some (.colon members name frames)
  | .colon members name frames, .colon => some (.value (.object members name :: frames))
  | .complete item (.array items :: frames), .comma =>
    some (.value (.array (item :: items) :: frames))
  | .complete item (.array items :: frames), .arrayClose =>
    some (.complete (.array (item :: items).reverse) frames)
  | .complete item (.object members name :: frames), .comma =>
    some (.key ((name, item) :: members) frames)
  | .complete item (.object members name :: frames), .objectClose =>
    some (.complete (.object ((name, item) :: members).reverse) frames)
  | _, _ => none

/-- The value read, when nothing is left open. -/
def result? : Reading → Option Json
  | .complete document [] => some document
  | _ => none

end Reading

/-- The value that a list of tokens spells. -/
def ofTokens? (tokens : List Token) : Option Json :=
  (tokens.foldlM Reading.step (.value [])).bind Reading.result?

/-- The value of a JSON document. -/
def parse? (text : String) : Option Json :=
  (Token.all? text.toList).bind ofTokens?

end Concordance.Json
