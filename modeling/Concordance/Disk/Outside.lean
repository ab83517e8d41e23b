import Concordance.Disk.Basic

/-!
# Changes from outside

What other programs may do to the files of a store: write, cut, remove and link them. A change
that is refused tells the cause, and what it had done until then stays.
-/
namespace Concordance.Disk

/-- Runs a change of a file. -/
def changeFile (disk : Disk) (path : String) (change : FileBody → FileBody) :
    Except Cause Unit × Disk :=
  match disk.resolve path, disk.find path with
  | .ok place, .ok (.file number body) =>
    (.ok (), disk.put place (.file number (change body)))
  | .ok _, .ok .directory => (.error .isADirectory, disk)
  | .ok _, .ok .full => (.error .noSpace, disk)
  | .ok _, .error cause => (.error cause, disk)
  | .error cause, _ => (.error cause, disk)

/-- Makes a file with the given bytes, or replaces those of a file that is there. -/
def writeFile (disk : Disk) (path : String) (bytes : Bytes) : Except Cause Unit × Disk :=
  match disk.openFile path .createEmpty with
  | (.error cause, disk) => (.error cause, disk)
  | (.ok place, disk) => disk.extend place 0 bytes

def appendFile (disk : Disk) (path : String) (bytes : Bytes) : Except Cause Unit × Disk :=
  match disk.openFile path .append with
  | (.error cause, disk) => (.error cause, disk)
  | (.ok place, disk) => disk.extend place 0 bytes

/-- Overwrites the bytes from `start` on; a gap before them is filled with zeros. The full device
has no positions, and it takes no bytes at any of them. -/
def patchFile (disk : Disk) (path : String) (start : Nat) (bytes : Bytes) :
    Except Cause Unit × Disk :=
  match disk.find path with
  | .ok .full => (if bytes = [] then .ok () else .error .noSpace, disk)
  | _ =>
    if sizeLimit < start + bytes.length then (.error .invalidArgument, disk)
    else disk.changeFile path (·.patch start bytes)

/-- Cuts a file, or extends it with zeros, to the given size. -/
def resizeFile (disk : Disk) (path : String) (size : Nat) : Except Cause Unit × Disk :=
  if sizeLimit < size then (.error .invalidArgument, disk)
  else disk.changeFile path (·.resize size)

def removeFile (disk : Disk) (path : String) : Except Cause Unit × Disk :=
  match disk.resolve path, disk.find path with
  | .ok _, .ok .directory => (.error .isADirectory, disk)
  | .ok place, .ok _ => (.ok (), disk.unlink place)
  | .ok _, .error cause => (.error cause, disk)
  | .error cause, _ => (.error cause, disk)

/-- Removes everything in the directory at `place`. -/
def clear (disk : Disk) (place : Location) : Disk :=
  (disk.entries.keys.filter fun other => place.isPrefixOf other && other != place).foldl unlink disk

/-- Removes the empty directory at `path`, under the name that it has there. One that has gone
already needs no removal. -/
def removeDirectory (disk : Disk) (path : String) : Except Cause Unit × Disk :=
  match disk.walk path with
  | .error .notFound => (.ok (), disk)
  | .error cause => (.error cause, disk)
  | .ok _ =>
    if Path.isNamed path then (.ok (), disk.remove (Path.locate path))
    else (.error .invalidArgument, disk)

/-- Removes a directory with everything in it. What is in it goes first, and if the path leads
through some of that, the directory itself is found no more and stays. -/
def removeTree (disk : Disk) (path : String) : Except Cause Unit × Disk :=
  match disk.resolve path, disk.find path with
  | .ok place, .ok .directory => (disk.clear place).removeDirectory path
  | .ok _, .ok (.file ..) => (.error .notADirectory, disk)
  | .ok place, .ok .full => (.ok (), disk.unlink place)
  | .ok _, .error cause => (.error cause, disk)
  | .error cause, _ => (.error cause, disk)

/-- Makes a link to the device that is always full. -/
def linkToFull (disk : Disk) (path : String) : Except Cause Unit × Disk :=
  match disk.resolve path with
  | .error cause => (.error cause, disk)
  | .ok place =>
    match disk.entry? place with
    | some _ => (.error .alreadyExists, disk)
    | none =>
      if Path.isSlashed path then (.error .notFound, disk) else (.ok (), disk.put place .full)

/-- The bytes of a file. -/
def fileBytes (disk : Disk) (path : String) : Except Cause Bytes :=
  match disk.find path with
  | .error cause => .error cause
  | .ok entry => entry.contents

/-- Everything on the disk, each directory before what is in it and names in ascending order. -/
def listing (disk : Disk) : List (Location × Entry) :=
  disk.entries.toList

end Concordance.Disk
