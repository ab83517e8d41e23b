import Concordance.Config
import Concordance.Json.Parse
import Concordance.Json.Record

/-!
# Configuration documents

The JSON form of a configuration. A field that is left out has its standard value; a field that
is given has to be of its type. `Config.ofText` also refuses a configuration that cannot be used.
-/
namespace Concordance

namespace TokenizerMode

def ofJson? (json : Json) : Option TokenizerMode :=
  match json.choice? with
  | some "delimiters" => some .delimiters
  | some "unicode_words" => some .unicodeWords
  | _ => none

def toJson : TokenizerMode → Json
  | .delimiters => .ofText "delimiters"
  | .unicodeWords => .ofText "unicode_words"

end TokenizerMode

namespace Tokenizer

def ofJson? (json : Json) : Option Tokenizer := do
  let fields ← json.fields? ["mode", "delimiters"]
  let mode ← Json.optional fields "mode" TokenizerMode.ofJson? standard.mode
  let delimiters ← Json.optional fields "delimiters" Json.text? standard.delimiters
  return ⟨mode, delimiters⟩

def toJson (tokenizer : Tokenizer) : Json :=
  .ofFields [
    ("mode", tokenizer.mode.toJson),
    ("delimiters", .ofText tokenizer.delimiters)]

end Tokenizer

namespace Config

/-- The fields of a configuration, in order. -/
def fieldNames : List String :=
  ["path", "max_searchable_string_size", "file_extension", "tokenizer"]

def ofJson? (json : Json) : Option Config := do
  let fields ← json.fields? fieldNames
  let path ← Json.optional fields "path" Json.text? standard.path
  let threshold ←
    Json.optional fields "max_searchable_string_size" Json.word? standard.threshold
  let extension ← Json.optional fields "file_extension" Json.text? standard.extension
  let tokenizer ← Json.optional fields "tokenizer" Tokenizer.ofJson? standard.tokenizer
  return ⟨path, threshold, extension, tokenizer⟩

def toJson (config : Config) : Json :=
  .ofFields [
    ("path", .ofText config.path),
    ("max_searchable_string_size", .ofWord config.threshold),
    ("file_extension", .ofText config.extension),
    ("tokenizer", config.tokenizer.toJson)]

/-- Reads a configuration and checks it. -/
def ofText (text : String) : Except StoreError Config :=
  match (Json.parse? text).bind ofJson? with
  | none => .error .config
  | some config =>
    match config.flaw? with
    | some flaw => .error (.invalidConfig flaw)
    | none => .ok config

end Config

end Concordance
