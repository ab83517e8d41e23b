import Concordance.Config.Document
import Concordance.Disk.Outside

/-!
# Configuration files
-/
namespace Concordance.Config

/-- Reads a configuration from the file at `path` and checks it. -/
def ofFile (path : String) (disk : Disk) : Except StoreError Config :=
  match disk.fileBytes path with
  | .error cause => .error (.read (.config path) cause)
  | .ok bytes =>
    match Text.decode? bytes with
    | none => .error (.read (.config path) .notText)
    | some text => ofText text

end Concordance.Config
