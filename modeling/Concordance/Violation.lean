import Concordance.Json.Record
import Std.Data.TreeMap

/-!
# Violations

The report of a broken invariant: which one, what is wrong, the offsets or identifiers that
break it and what else helps to understand it.
-/
namespace Concordance

structure Violation where
  /-- The name of the invariant. -/
  invariant : String
  description : String
  /-- Offsets or identifiers involved. -/
  subjects : List UInt64
  /-- Further facts by name; no name is repeated. -/
  context : List (String × String)
  deriving DecidableEq, Repr

namespace Violation

/-- The report as lines of text. -/
def render (violation : Violation) : String :=
  let subjects := ", ".intercalate (violation.subjects.map toString)
  let context := violation.context.map fun (name, value) => s!"    {name}: {value}\n"
  s!"INVARIANT VIOLATION: {violation.invariant}\n" ++
    s!"  Description: {violation.description}\n" ++
    s!"  Subjects: [{subjects}]\n" ++
    (if context.isEmpty then "" else "  Context:\n" ++ String.join context)

/-- The fields of the report, in order. -/
def fieldNames : List String :=
  ["invariant", "description", "subjects", "context"]

/-- Reads a fact from a member of an object. -/
def factOfMember? : Option String × Json → Option (String × String)
  | (some name, .string (some value)) => some (name, value)
  | _ => none

/-- Reads facts by name. Of a repeated name the last value counts. -/
def contextOfJson? : Json → Option (List (String × String))
  | .object members =>
    (members.mapM factOfMember?).map fun facts => (Std.TreeMap.ofList facts).toList
  | _ => none

def ofJson? (json : Json) : Option Violation := do
  let fields ← json.fields? fieldNames
  let invariant ← Json.required fields "invariant" Json.text?
  let description ← Json.required fields "description" Json.text?
  let subjects ← Json.required fields "subjects" fun json => json.items?.bind (·.mapM Json.word?)
  let context ← Json.required fields "context" contextOfJson?
  return ⟨invariant, description, subjects, context⟩

def toJson (violation : Violation) : Json :=
  .ofFields [
    ("invariant", .ofText violation.invariant),
    ("description", .ofText violation.description),
    ("subjects", .array (violation.subjects.map .ofWord)),
    ("context", .ofFields (violation.context.map fun (name, value) => (name, .ofText value)))]

end Violation

end Concordance
