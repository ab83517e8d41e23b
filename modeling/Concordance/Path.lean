import Concordance.Text.Runs

/-!
# Paths

A path is a text in which slashes separate names. Empty names mean nothing, `.` stays where it
is and `..` goes back to the directory before. Paths are shown and joined as they are written;
`locate` says which place they lead to, starting from the working directory.
-/
namespace Concordance

/-- A place on the disk: the names that lead to it, the working directory being `[]`. -/
abbrev Location := List String

namespace Path

/-- Whether a path ends in a slash and so can only be that of a directory. -/
def isSlashed (path : String) : Bool :=
  path.toList.getLast? == some '/'

/-- The path of `name` in the directory `root`. -/
def join (root name : String) : String :=
  if root.isEmpty || isSlashed root then root ++ name else root ++ "/" ++ name

/-- The names that a path walks through. -/
def names (path : String) : List String :=
  (Text.runs (· == '/') path.toList).map String.ofList

/-- Where a name leads to from a place. -/
def follow (place : Location) (name : String) : Location :=
  if name = "." then place
  else if name = ".." then place.dropLast
  else place ++ [name]

/-- The place that a path leads to. -/
def locate (path : String) : Location :=
  (names path).foldl follow []

/-- Drops the slashes and the dots that stand alone at the end of a path, which is given
backwards. -/
def trim : List Char → List Char
  | '/' :: rest => trim rest
  | '.' :: '/' :: rest => trim rest
  | path => path

/-- Whether the last name of a path can be that of a file. The names `.` and `..` lead to
directories, which have names of their own. -/
def isNamed (path : String) : Bool :=
  match (names path).getLast? with
  | some name => name != "." && name != ".."
  | none => false

/-- The path of the file that is written before it takes the place of the one at `path`: the
last name is extended by `.tmp`. A path without a last name is its own.

The text after the last dot is cut off before it is put back with `.tmp` behind it. If nothing
but `..` is left of the last name, this is where it ends, since `..` is no name to extend. -/
def temporary (path : String) : String :=
  let trimmed := trim path.toList.reverse
  let name := trimmed.takeWhile (· != '/')
  if name = [] ∨ name = ['.'] ∨ name = ['.', '.'] then path
  else if trimmed.length = path.toList.length ∧ name.dropWhile (· != '.') = ['.', '.'] then
    String.ofList (trimmed.dropWhile (· != '.')).reverse
  else String.ofList trimmed.reverse ++ ".tmp"

end Path

end Concordance
