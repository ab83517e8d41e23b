import Concordance.Store.Search

/-!
# Shared store

A slot that holds at most one open store. Every use of an empty slot fails in the same way, and
whatever fails leaves the slot as it was.
-/
namespace Concordance

structure SharedStore where
  store? : Option Store

namespace SharedStore

def empty : SharedStore := ⟨none⟩

def isOpen (shared : SharedStore) : Bool := shared.store?.isSome

/-- Opens a store into the slot, in place of any store that is there. -/
def openWith (shared : SharedStore) (config : Config) (disk : Disk) :
    Except StoreError Unit × SharedStore × Disk :=
  match Store.openSaved config disk with
  | (.error error, disk) => (.error error, shared, disk)
  | (.ok store, disk) => (.ok (), ⟨some store⟩, disk)

/-- Runs an action that only looks at the store. -/
def read {α : Type} (shared : SharedStore) (action : Store → Except StoreError α) :
    Except StoreError α :=
  match shared.store? with
  | none => .error .notInitialized
  | some store => action store

/-- Runs an action that may change the store and the disk. -/
def write {α : Type} (shared : SharedStore) (disk : Disk)
    (action : Store → Disk → Except StoreError α × Store × Disk) :
    Except StoreError α × SharedStore × Disk :=
  match shared.store? with
  | none => (.error .notInitialized, shared, disk)
  | some store =>
    let (result, store, disk) := action store disk
    (result, ⟨some store⟩, disk)

def load (shared : SharedStore) (disk : Disk) : Except StoreError Unit × SharedStore × Disk :=
  shared.write disk fun store disk =>
    let (result, store) := store.load disk
    (result, store, disk)

def save (shared : SharedStore) (disk : Disk) : Except StoreError Unit × Disk :=
  match shared.store? with
  | none => (.error .notInitialized, disk)
  | some store => store.save disk

/-- Empties the slot, after saving the indexes if that is asked for. If they cannot be saved the
store stays. -/
def shutdown (shared : SharedStore) (saving : Bool) (disk : Disk) :
    Except StoreError Unit × SharedStore × Disk :=
  match shared.store? with
  | none => (.error .notInitialized, shared, disk)
  | some store =>
    if saving then
      match store.save disk with
      | (.error error, disk) => (.error error, shared, disk)
      | (.ok _, disk) => (.ok (), empty, disk)
    else (.ok (), empty, disk)

def link (shared : SharedStore) (id : LinkId) (string : String) (disk : Disk) :
    Except StoreError Offset × SharedStore × Disk :=
  shared.write disk fun store disk => store.link id string disk

def stringFor (shared : SharedStore) (disk : Disk) (id : LinkId) : Except StoreError String :=
  shared.read (·.stringFor disk id)

def identifiersFor (shared : SharedStore) (disk : Disk) (query : String) (how : Matching) :
    Except StoreError (Std.TreeSet LinkId) :=
  shared.read (·.identifiersFor disk query how)

def stringsFor (shared : SharedStore) (disk : Disk) (query : String) :
    Except StoreError (Std.TreeSet String) :=
  shared.read (·.stringsFor disk query)

def identifiersForTerms (shared : SharedStore) (terms : List String) (mode : TermMode) :
    Except StoreError (Std.TreeSet LinkId) :=
  shared.read fun store => .ok (store.identifiersForTerms terms mode)

def stringsForTerms (shared : SharedStore) (disk : Disk) (terms : List String)
    (mode : TermMode) : Except StoreError (Std.TreeSet String) :=
  shared.read (·.stringsForTerms disk terms mode)

end SharedStore

end Concordance
