/-!
# Causes of failure

Why a request to the disk failed, or why what was read from it was refused.
-/
namespace Concordance

inductive Cause
  | notFound
  /-- A path ends in `.` or `..` where a name of its own is needed. -/
  | busy
  | alreadyExists
  | notADirectory
  | isADirectory
  | invalidArgument
  | fileTooLarge
  | noSpace
  | nameTooLong
  /-- A path with a NUL character. -/
  | nulInPath
  /-- Fewer bytes were left than had to be read. -/
  | endOfFile
  /-- Bytes that had to be a text are none. -/
  | notText
  /-- The input ends inside a word, after `found` bytes of it. -/
  | truncatedWord (found : Nat)
  | shortRead (expected : UInt64) (found : Nat)
  /-- A record of `size` bytes does not end before the end of the log. -/
  | pastLogEnd (size logEnd : UInt64)
  deriving DecidableEq, Repr

def Cause.message : Cause → String
  | .notFound => "No such file or directory (os error 2)"
  | .busy => "Device or resource busy (os error 16)"
  | .alreadyExists => "File exists (os error 17)"
  | .notADirectory => "Not a directory (os error 20)"
  | .isADirectory => "Is a directory (os error 21)"
  | .invalidArgument => "Invalid argument (os error 22)"
  | .fileTooLarge => "File too large (os error 27)"
  | .noSpace => "No space left on device (os error 28)"
  | .nameTooLong => "File name too long (os error 36)"
  | .nulInPath => "file name contained an unexpected NUL byte"
  | .endOfFile => "failed to fill whole buffer"
  | .notText => "stream did not contain valid UTF-8"
  | .truncatedWord found => s!"truncated word: {found} of 8 bytes"
  | .shortRead expected found => s!"expected {expected} bytes, found {found}"
  | .pastLogEnd size logEnd => s!"size {size} runs past log end {logEnd}"

end Concordance
