import Concordance.Json.Record

/-!
# Combining terms

A query for several terms asks for the strings that have all of them or at least one.
-/
namespace Concordance

inductive TermMode
  | and
  | or
  deriving DecidableEq, Repr

namespace TermMode

def ofJson? (json : Json) : Option TermMode :=
  match json.choice? with
  | some "and" => some .and
  | some "or" => some .or
  | _ => none

def toJson : TermMode → Json
  | .and => .ofText "and"
  | .or => .ofText "or"

end TermMode

end Concordance
