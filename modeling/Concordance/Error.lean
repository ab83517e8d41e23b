import Concordance.Disk.Cause
import Concordance.Identifier
import Concordance.Text.Lossy
import Concordance.Text.Quoted

/-!
# Errors of the store

An error names what was refused and why. `StoreError.message` is the text that a user sees.
-/
namespace Concordance

/-- What was being read or written when a request failed. -/
inductive Step
  | openFile (path : String)
  | stat (path : String)
  | seek (offset : Offset)
  | record (offset : Offset)
  | stringSize
  | stringBytes
  | nextOffset
  | termSize
  | termBytes
  | termCount
  | stringOffset
  | linkCount
  | link
  | config (path : String)
  | create (path : String)
  | flush (path : String)
  | sync (path : String)
  | rename (path : String)
  deriving DecidableEq, Repr

def Step.message : Step → String
  | .openFile path => s!"open {path}"
  | .stat path => s!"stat {path}"
  | .seek offset => s!"seek to {offset}"
  | .record offset => s!"record at {offset}"
  | .stringSize => "string size"
  | .stringBytes => "string"
  | .nextOffset => "next string offset"
  | .termSize => "term size"
  | .termBytes => "term"
  | .termCount => "term offsets count"
  | .stringOffset => "string offset"
  | .linkCount => "link hashes count"
  | .link => "link hash"
  | .config path => s!"config {path}"
  | .create path => s!"create {path}"
  | .flush path => s!"flush {path}"
  | .sync path => s!"sync {path}"
  | .rename path => s!"rename to {path}"

/-- How stored data contradict each other. -/
inductive Corruption
  /-- The log is shorter than it was when the indexes were saved. -/
  | savedPastEnd (saved logEnd : Offset)
  /-- A term leads to a place that cannot hold a record. -/
  | termPastEnd (term : Bytes) (logEnd : Offset)
  /-- A link leads to a place that cannot hold a record. -/
  | linkPastEnd (offset logEnd : Offset)
  /-- A record is not a text. -/
  | notText (offset : Offset)
  deriving DecidableEq, Repr

def Corruption.message : Corruption → String
  | .savedPastEnd saved logEnd => s!"saved next offset {saved} is past content log end {logEnd}"
  | .termPastEnd term logEnd =>
    "term " ++ Text.quoted (Text.lossy term) ++
      s!" references an offset past content log end {logEnd}"
  | .linkPastEnd offset logEnd =>
    s!"link index references offset {offset} past content log end {logEnd}"
  | .notText offset => s!"record at {offset} is not valid UTF-8"

/-- Why a configuration cannot be used. -/
inductive ConfigFlaw
  /-- No string would be short enough to be searched for. -/
  | zeroThreshold
  /-- Terms are to be separated by delimiters, but there are none. -/
  | noDelimiters
  deriving DecidableEq, Repr

def ConfigFlaw.message : ConfigFlaw → String
  | .zeroThreshold => "max_searchable_string_size must be positive"
  | .noDelimiters => "delimiter tokenizer needs at least one delimiter"

inductive StoreError
  /-- The root directory does not exist and cannot be made. -/
  | invalidPath (path : String) (cause : Option Cause)
  | notInitialized
  | noString (id : LinkId)
  | read (step : Step) (cause : Cause)
  | corrupt (corruption : Corruption)
  | write (step : Step) (cause : Cause)
  /-- A document does not describe a configuration. -/
  | config
  | invalidConfig (flaw : ConfigFlaw)
  deriving DecidableEq, Repr

namespace StoreError

def message : StoreError → String
  | .invalidPath path _ => s!"Invalid store path: {path}"
  | .notInitialized => "String store is not initialized"
  | .noString id => s!"No string linked to {id}"
  | .read step cause => s!"Read error ({step.message}): {cause.message}"
  | .corrupt corruption => s!"Corrupt data: {corruption.message}"
  | .write step cause => s!"Write error ({step.message}): {cause.message}"
  | .config => "Config error"
  | .invalidConfig flaw => s!"Invalid config: {flaw.message}"

/-- Short and corrupt data count as read errors. -/
def isRead : StoreError → Bool
  | .read .. | .corrupt _ => true
  | _ => false

def isWrite : StoreError → Bool
  | .write .. => true
  | _ => false

/-- An identifier without a string is an expected outcome. -/
def isNotFound : StoreError → Bool
  | .noString _ => true
  | _ => false

end StoreError

end Concordance
