import Concordance.Error
import Concordance.Path
import Concordance.Tokenizer

/-!
# Configuration

A store lives in one directory and keeps three files there: the content log and the two index
files. Their names differ in the stem and share an extension.
-/
namespace Concordance

structure Config where
  /-- The directory that holds the files. -/
  path : String
  /-- Strings of this many bytes or more are stored but never indexed. -/
  threshold : UInt64
  /-- The extension of all files; without one their names are the bare stems. -/
  extension : String
  tokenizer : Tokenizer
  deriving DecidableEq, Repr

namespace Config

def standard : Config where
  path := "./data/strings"
  threshold := 1000
  extension := "scdb"
  tokenizer := Tokenizer.standard

/-- What keeps a configuration from being used, if anything. -/
def flaw? (config : Config) : Option ConfigFlaw :=
  if config.threshold = 0 then some .zeroThreshold
  else if config.tokenizer.mode = .delimiters ∧ config.tokenizer.delimiters.isEmpty then
    some .noDelimiters
  else none

def validate (config : Config) : Except StoreError Unit :=
  match config.flaw? with
  | some flaw => .error (.invalidConfig flaw)
  | none => .ok ()

def fileName (config : Config) (stem : String) : String :=
  if config.extension.isEmpty then stem else stem ++ "." ++ config.extension

/-- The path of the content log. -/
def logPath (config : Config) : String :=
  Path.join config.path (config.fileName "strings")

/-- The path of the term index. -/
def termPath (config : Config) : String :=
  Path.join config.path (config.fileName "term_string_offsets")

/-- The path of the link index. -/
def linkPath (config : Config) : String :=
  Path.join config.path (config.fileName "string_offsets_link_hashes")

end Config

end Concordance
