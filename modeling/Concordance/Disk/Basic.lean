import Concordance.Disk.Cause
import Concordance.Disk.FileBody
import Concordance.Path
import Concordance.Text.Encoding
import Std.Data.TreeMap

/-!
# The disk

The disk is a table of places and what is found there. A file keeps the number it was given when
it was made, so one that is removed or replaced while it is being read can still be told from
its successor. Some places may be links to a device that is always full.

Requests that change the disk can fail for reasons that the disk itself does not show. They take
their fate from a list of faults, one entry each; when the list is used up they succeed.
Requests that only read take nothing from it. One of them asks for the size of an open file, which
is therefore always told.

The zeros that the full device yields have no end, so a program that reads a file to its end never
finishes there. No value stands for that. Where all bytes of an entry are asked for, `contents`
gives none for the device, and nothing follows from this about a program that reads on.
-/
namespace Concordance

/-- What is found at a place. -/
inductive Entry
  | file (number : Nat) (body : FileBody)
  | directory
  /-- A link to a device that takes no byte, has no size and yields zeros. -/
  | full
  deriving DecidableEq

/-- The failure of a request. Of the bytes to be written, no more than `accepted`, no more than the
file has room for and never all of them reach the file. -/
structure Fault where
  cause : Cause
  accepted : Nat
  deriving DecidableEq, Repr

structure Disk where
  entries : Std.TreeMap Location Entry
  /-- The files that have no name any more, by their numbers. -/
  unlinked : List (Nat × FileBody)
  /-- How many files have been made. -/
  made : Nat
  /-- What will become of the requests to come. -/
  faults : List (Option Fault)

namespace Disk

def empty : Disk := ⟨∅, [], 0, []⟩

/-! ### Places -/

/-- What is found at a place, if anything. The working directory is always there. -/
def entry? (disk : Disk) (place : Location) : Option Entry :=
  if place = [] then some .directory else disk.entries[place]?

/-- The disk with `entry` at `place`. -/
def put (disk : Disk) (place : Location) (entry : Entry) : Disk :=
  { disk with entries := disk.entries.insert place entry }

/-- The disk with nothing at `place`. -/
def remove (disk : Disk) (place : Location) : Disk :=
  { disk with entries := disk.entries.erase place }

/-- The most bytes a name may have. -/
def nameLimit : Nat := 255

/-- The most bytes a path may have. -/
def pathLimit : Nat := 4095

/-- The most bytes a file may have. -/
def sizeLimit : Nat := 0x7FFFFFFFFFFFFFFF

/-- The place that `name` leads to from the directory `place`, which must be a directory if the
walk goes on from there. -/
def enter (disk : Disk) (place : Location) (name : String) : Except Cause Location :=
  if nameLimit < Text.size name then .error .nameTooLong
  else
    match disk.entry? (Path.follow place name) with
    | some .directory => .ok (Path.follow place name)
    | some _ => .error .notADirectory
    | none => .error .notFound

/-- Walks to the directory of the last name of a path: all names before it have to lead to
directories. -/
def walk (disk : Disk) (path : String) : Except Cause Unit :=
  if path.toList.contains '\x00' then .error .nulInPath
  else if path.isEmpty then .error .notFound
  else if pathLimit < Text.size path then .error .nameTooLong
  else
    match (Path.names path).dropLast.foldlM disk.enter [] with
    | .error cause => .error cause
    | .ok _ => .ok ()

/-- Whether the last name of a path has more bytes than a name may have. -/
def isOverlong (path : String) : Bool :=
  (Path.names path).getLast?.any fun name => nameLimit < Text.size name

/-- The place of a path. Nothing need be found at the place itself. -/
def resolve (disk : Disk) (path : String) : Except Cause Location :=
  match disk.walk path with
  | .error cause => .error cause
  | .ok _ => if isOverlong path then .error .nameTooLong else .ok (Path.locate path)

/-- What is found at a path. -/
def find (disk : Disk) (path : String) : Except Cause Entry :=
  match disk.resolve path with
  | .error cause => .error cause
  | .ok place =>
    match disk.entry? place with
    | none => .error .notFound
    | some .directory => .ok .directory
    | some entry => if Path.isSlashed path then .error .notADirectory else .ok entry

def pathExists (disk : Disk) (path : String) : Bool :=
  match disk.find path with
  | .ok _ => true
  | .error _ => false

def isDirectory (disk : Disk) (path : String) : Bool :=
  match disk.find path with
  | .ok .directory => true
  | _ => false

end Disk

/-! ### Reading -/

namespace Entry

/-- At most `count` bytes from `start` on. -/
def slice (entry : Entry) (start count : Nat) : Except Cause Bytes :=
  match entry with
  | .file _ body => .ok (body.slice start count)
  | .directory => .error .isADirectory
  | .full => .ok (List.replicate count 0)

/-- All bytes. Those of the full device have no end, which no value can tell; none are given. -/
def contents : Entry → Except Cause Bytes
  | .file _ body => .ok body.toList
  | .directory => .error .isADirectory
  | .full => .ok []

end Entry

namespace Disk

/-- The size that the disk reports for what is at `place`. A directory has twenty bytes for each
name in it, and for the names `.` and `..` besides. -/
def sizeAt (disk : Disk) (place : Location) : Nat :=
  match disk.entry? place with
  | some (.file _ body) => body.size
  | some .directory => 20 * (disk.entries.keys.countP (·.dropLast = place) + 2)
  | some .full => 0
  | none => 0

/-- The body of the file with the given number, whether it still has a name or not. -/
def fileNumbered? (disk : Disk) (number : Nat) : Option FileBody :=
  match disk.entries.toList.findSome? (fun
    | (_, .file other body) => if other = number then some body else none
    | _ => none) with
  | some body => some body
  | none => disk.unlinked.lookup number

/-- What an entry that was opened earlier has become. -/
def current (disk : Disk) : Entry → Entry
  | .file number body => .file number ((disk.fileNumbered? number).getD body)
  | entry => entry

/-! ### Changing -/

/-- The fate of the next request. -/
def nextFault (disk : Disk) : Option Fault :=
  disk.faults.head?.join

/-- The disk after a request has taken its fate. -/
def afterRequest (disk : Disk) : Disk :=
  { disk with faults := disk.faults.tail }

/-- Forgets the name of what is at `place`; a file lives on without it. -/
def unlink (disk : Disk) (place : Location) : Disk :=
  match disk.entry? place with
  | some (.file number body) =>
    { disk.remove place with unlinked := (number, body) :: disk.unlinked }
  | _ => disk.remove place

/-- How a file is opened for writing. -/
inductive OpenMode
  /-- The file has to be there. -/
  | append
  /-- A missing file is made. -/
  | appendOrCreate
  /-- A missing file is made, a present one emptied. -/
  | createEmpty
  deriving DecidableEq, Repr

/-- Opens the file at `path` and tells its place. -/
def openFile (disk : Disk) (path : String) (mode : OpenMode) : Except Cause Location × Disk :=
  match disk.nextFault with
  | some fault => (.error fault.cause, disk.afterRequest)
  | none =>
    let disk := disk.afterRequest
    if Path.isSlashed path ∧ mode ≠ .append then
      -- only a directory could be made here, so the last name is not looked at
      match disk.walk path with
      | .error cause => (.error cause, disk)
      | .ok _ => (.error .isADirectory, disk)
    else
      match disk.resolve path with
      | .error cause => (.error cause, disk)
      | .ok place =>
        match disk.entry? place with
        | some .directory => (.error .isADirectory, disk)
        | some (.file number _) =>
          if Path.isSlashed path then (.error .notADirectory, disk)
          else if mode = .createEmpty then (.ok place, disk.put place (.file number .empty))
          else (.ok place, disk)
        | some .full =>
          if Path.isSlashed path then (.error .notADirectory, disk) else (.ok place, disk)
        | none =>
          if mode = .append then (.error .notFound, disk)
          else (.ok place, { disk.put place (.file disk.made .empty) with made := disk.made + 1 })

/-- Writes `data` at the end of the file at `place`. Writing nothing is no request.

`position` is how far the one who writes has come in the file, 0 at first. A request that would lead
from there past the greatest size is refused. Of data that fits from there, but not behind what
others have written, the file takes as much as it has room for; what is left is then refused. -/
def extend (disk : Disk) (place : Location) (position : Nat) (data : Bytes) :
    Except Cause Unit × Disk :=
  if data = [] then (.ok (), disk)
  else
    match disk.nextFault, disk.entry? place with
    | none, some (.file number body) =>
      let room := sizeLimit - body.size
      let disk := disk.afterRequest
      if sizeLimit < position + data.length then (.error .invalidArgument, disk)
      else if data.length ≤ room then
        (.ok (), disk.put place (.file number (body.append data)))
      else if room = 0 then (.error .fileTooLarge, disk)
      else
        (.error .invalidArgument, disk.put place (.file number (body.append (data.take room))))
    | some fault, some (.file number body) =>
      let room := sizeLimit - body.size
      let accepted := data.take (min (min fault.accepted room) (data.length - 1))
      (.error fault.cause, disk.afterRequest.put place (.file number (body.append accepted)))
    | some fault, _ => (.error fault.cause, disk.afterRequest)
    | none, some .full => (.error .noSpace, disk.afterRequest)
    | none, _ => (.error .notFound, disk.afterRequest)

/-- Waits until the file at `place` is safe. -/
def sync (disk : Disk) (place : Location) : Except Cause Unit × Disk :=
  match disk.nextFault, disk.entry? place with
  | some fault, _ => (.error fault.cause, disk.afterRequest)
  | none, some .full => (.error .invalidArgument, disk.afterRequest)
  | none, _ => (.ok (), disk.afterRequest)

/-- Gives the file at the path `source` the path `target`, in one step. What was at `target`
loses its name. -/
def rename (disk : Disk) (source target : String) : Except Cause Unit × Disk :=
  match disk.nextFault with
  | some fault => (.error fault.cause, disk.afterRequest)
  | none =>
    let disk := disk.afterRequest
    match disk.resolve source, disk.resolve target with
    | .error cause, _ => (.error cause, disk)
    | .ok _, .error cause => (.error cause, disk)
    | .ok origin, .ok goal =>
      if !Path.isNamed source || !Path.isNamed target then (.error .busy, disk)
      else
        match disk.entry? origin with
        | none => (.error .notFound, disk)
        | some entry =>
          -- only files are renamed, and a file cannot take the place of a directory
          if Path.isSlashed target then (.error .notADirectory, disk)
          else if disk.entry? goal = some .directory then (.error .isADirectory, disk)
          else if origin = goal then (.ok (), disk)
          else (.ok (), ((disk.unlink goal).remove origin).put goal entry)

/-- Makes the directory to which the names lead from `place`, and all directories on the way.
`made` tells whether one of these was missing.

A missing directory is not made if all that follows are dots: it is the last one, and has to be
there to be asked to stay in. A file in the way of directories just made is met as something to
make. -/
def makeDirectoriesFrom (disk : Disk) (place : Location) (made : Bool) :
    List String → Except Cause Unit × Disk
  | [] => (.ok (), disk)
  | name :: rest =>
    if nameLimit < Text.size name then (.error .nameTooLong, disk)
    else
      let next := Path.follow place name
      let dotted := rest ≠ [] ∧ ∀ name ∈ rest, name = "."
      match disk.entry? next with
      | some .directory => disk.makeDirectoriesFrom next made rest
      | some _ =>
        if rest = [] ∨ made ∧ ¬dotted then (.error .alreadyExists, disk)
        else (.error .notADirectory, disk)
      | none =>
        if dotted then (.error .notFound, disk)
        else (disk.put next .directory).makeDirectoriesFrom next true rest

/-- Makes the directory at `path`, and all directories on the way. -/
def makeDirectories (disk : Disk) (path : String) : Except Cause Unit × Disk :=
  if path.toList.contains '\x00' then (.error .nulInPath, disk)
  else if pathLimit < Text.size path then (.error .nameTooLong, disk)
  else disk.makeDirectoriesFrom [] false (Path.names path)

end Disk

end Concordance
