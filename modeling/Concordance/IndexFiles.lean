import Concordance.IndexFile.LinkFile
import Concordance.IndexFile.TermFile

/-!
# Saved indexes

The term index and the link index are saved in two files, the term index first. Each file is
replaced in one step. Loading needs both files and reads every record of them. Records read
from the full device would never end, so a path that leads there is left out of account: what `load`
gives for it has no meaning.
-/
namespace Concordance

/-- Where the two index files are. -/
structure IndexFiles where
  termPath : String
  linkPath : String
  deriving DecidableEq, Repr

/-- What the two files hold. -/
structure SavedIndexes where
  nextOffset : Offset
  terms : TermIndex
  links : LinkIndex

namespace IndexFiles

/-- Whether at least one of the files is there. -/
def anyExist (files : IndexFiles) (disk : Disk) : Bool :=
  disk.pathExists files.termPath || disk.pathExists files.linkPath

/-- Writes both files. The first failure ends the attempt. -/
def save (files : IndexFiles) (saved : SavedIndexes) (disk : Disk) :
    Except StoreError Unit × Disk :=
  match IndexFile.replaceFile files.termPath
      (TermFile.ofIndex saved.nextOffset saved.terms).fields disk with
  | (.error error, disk) => (.error error, disk)
  | (.ok _, disk) =>
    IndexFile.replaceFile files.linkPath (LinkFile.ofIndex saved.links).fields disk

/-- The bytes of the file at `path`, of which `first` is the first part to be read. -/
def bytesAt (disk : Disk) (path : String) (first : Step) : Except StoreError Bytes :=
  match disk.find path with
  | .error cause => .error (.read (.openFile path) cause)
  | .ok entry =>
    match entry.contents with
    | .error cause => .error (.read first cause)
    | .ok bytes => .ok bytes

/-- Reads both files. -/
def load (files : IndexFiles) (disk : Disk) : Except StoreError SavedIndexes :=
  match bytesAt disk files.termPath .nextOffset with
  | .error error => .error error
  | .ok termBytes =>
    match TermFile.decode termBytes with
    | .error error => .error error
    | .ok termFile =>
      match bytesAt disk files.linkPath .stringOffset with
      | .error error => .error error
      | .ok linkBytes =>
        match LinkFile.decode linkBytes with
        | .error error => .error error
        | .ok linkFile => .ok ⟨termFile.nextOffset, termFile.index, linkFile.index⟩

end IndexFiles

end Concordance
