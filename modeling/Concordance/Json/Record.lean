import Concordance.Json.Basic

/-!
# Records and choices

A record is written as an object with its fields as members, or as an array with its fields in
their order. Members with other keys are passed over; a field may not be given twice. A choice
among names is written as the name, or as an object whose only member has that name and the
value null.
-/
namespace Concordance.Json

/-- Adds a member of an object to the fields met before it. Its key has to be a text, and a field
may not be met again. -/
def addField? (names : List String) (fields : List (String × Json)) :
    Option String × Json → Option (List (String × Json))
  | (none, _) => none
  | (some key, value) =>
    if !names.contains key then some fields
    else if (fields.lookup key).isSome then none
    else some ((key, value) :: fields)

/-- The fields given for a record that has the fields `names`. -/
def fields? (names : List String) : Json → Option (List (String × Json))
  | .object members => members.foldlM (addField? names) []
  | .array items => if items.length ≤ names.length then some (names.zip items) else none
  | _ => none

/-- Reads a field that has to be there. -/
def required {α : Type} (fields : List (String × Json)) (name : String)
    (read : Json → Option α) : Option α :=
  (fields.lookup name).bind read

/-- Reads a field that may be left out. -/
def optional {α : Type} (fields : List (String × Json)) (name : String)
    (read : Json → Option α) (absent : α) : Option α :=
  match fields.lookup name with
  | some value => read value
  | none => some absent

/-- The name chosen. -/
def choice? : Json → Option String
  | .string (some name) => some name
  | .object [(some name, .null)] => some name
  | _ => none

end Concordance.Json
