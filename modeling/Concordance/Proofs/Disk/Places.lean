import Concordance.Disk.Basic
import Concordance.Proofs.Path
import Concordance.Proofs.Table

/-!
# Where paths lead

Whether a path leads anywhere, and where, depends only on which places are directories. So a
request that makes and removes no directory leaves all paths alone, and of the files only those at
the places it changes.
-/
namespace Concordance.Disk

/-! ### Changing one place -/

@[simp]
theorem entry?_root (disk : Disk) : disk.entry? [] = some .directory := if_pos rfl

theorem entry?_put (disk : Disk) {place : Location} (named : place ≠ []) (entry : Entry)
    (other : Location) :
    Disk.entry? (disk.put place entry) other =
      if other = place then some entry else disk.entry? other := by
  simp only [put, entry?, Table.getElem?_insert]
  by_cases root : other = []
  · subst root
    rw [if_pos rfl, if_neg (Ne.symm named), if_pos rfl]
  · simp only [if_neg root]

theorem entry?_remove (disk : Disk) {place : Location} (named : place ≠ []) (other : Location) :
    Disk.entry? (disk.remove place) other = if other = place then none else disk.entry? other := by
  simp only [remove, entry?, Table.getElem?_erase]
  by_cases root : other = []
  · subst root
    rw [if_pos rfl, if_neg (Ne.symm named), if_pos rfl]
  · simp only [if_neg root]

theorem entry?_unlink (disk : Disk) {place : Location} (named : place ≠ []) (other : Location) :
    Disk.entry? (disk.unlink place) other = if other = place then none else disk.entry? other := by
  rw [← entry?_remove disk named]
  unfold unlink
  split <;> rfl

@[simp]
theorem entry?_afterRequest (disk : Disk) (place : Location) :
    disk.afterRequest.entry? place = disk.entry? place := rfl

theorem ne_root {disk : Disk} {place : Location} (file : disk.entry? place ≠ some .directory) :
    place ≠ [] := by
  rintro rfl
  exact file disk.entry?_root

/-! ### Walking -/

theorem enter_eq_ok {disk : Disk} {place next : Location} {name : String} :
    disk.enter place name = .ok next ↔
      Text.size name ≤ nameLimit ∧ next = Path.follow place name ∧
        disk.entry? (Path.follow place name) = some .directory := by
  unfold enter
  split
  · next long => simp [Nat.not_le.mpr long]
  · next fits =>
    split
    · next found => simp [Nat.not_lt.mp fits, found, eq_comm]
    · next entry file found =>
      have other : entry ≠ .directory := file
      simp [found, other]
    · next missing => simp [missing]

/-- All places on the way to `place` are directories, and so is `place`. -/
def Reaches (disk : Disk) (place : Location) : Prop :=
  ∀ before, before <+: place → disk.entry? before = some .directory

theorem reaches_root (disk : Disk) : disk.Reaches [] := by
  intro before shorter
  rw [List.prefix_nil.mp shorter, entry?_root]

theorem Reaches.enter {disk : Disk} {place next : Location} {name : String}
    (reaches : disk.Reaches place) (entered : disk.enter place name = .ok next) :
    next = Path.follow place name ∧ disk.Reaches next := by
  obtain ⟨_, rfl, found⟩ := enter_eq_ok.mp entered
  refine ⟨rfl, ?_⟩
  unfold Path.follow at found ⊢
  split
  · exact reaches
  · split
    · exact fun before shorter => reaches before (shorter.trans (List.dropLast_prefix place))
    · next dot dots =>
      -- only the place itself is new on the way
      intro before shorter
      rw [if_neg dot, if_neg dots] at found
      rcases List.prefix_concat_iff.mp shorter with rfl | inside
      · exact found
      · exact reaches before inside

theorem foldlM_cons_eq_ok {disk : Disk} {place last : Location} {name : String}
    {rest : List String} :
    (name :: rest).foldlM disk.enter place = .ok last ↔
      ∃ next, disk.enter place name = .ok next ∧ rest.foldlM disk.enter next = .ok last := by
  rw [List.foldlM_cons]
  cases disk.enter place name with
  | error cause => simp [bind, Except.bind]
  | ok next => simp [bind, Except.bind]

theorem Reaches.foldlM {disk : Disk} {place last : Location} {names : List String}
    (reaches : disk.Reaches place) (walked : names.foldlM disk.enter place = .ok last) :
    last = names.foldl Path.follow place ∧ disk.Reaches last := by
  induction names generalizing place with
  | nil =>
    obtain rfl : place = last := Except.ok.inj walked
    exact ⟨rfl, reaches⟩
  | cons name rest ih =>
    obtain ⟨next, entered, further⟩ := foldlM_cons_eq_ok.mp walked
    obtain ⟨rfl, on⟩ := reaches.enter entered
    exact ih on further

/-- Whoever walks on has walked so far. -/
theorem foldlM_append_eq_ok {disk : Disk} {place last : Location} {front rest : List String} :
    (front ++ rest).foldlM disk.enter place = .ok last ↔
      ∃ next, front.foldlM disk.enter place = .ok next ∧
        rest.foldlM disk.enter next = .ok last := by
  rw [List.foldlM_append]
  cases front.foldlM disk.enter place with
  | error cause => simp [bind, Except.bind]
  | ok next => simp [bind, Except.bind]

theorem walk_eq_ok {disk : Disk} {path : String} :
    disk.walk path = .ok () ↔
      '\x00' ∉ path.toList ∧ path ≠ "" ∧ Text.size path ≤ pathLimit ∧
        ∃ last, (Path.names path).dropLast.foldlM disk.enter [] = .ok last := by
  unfold walk
  split
  · next nul => simp [List.contains_iff_mem.mp nul]
  · next clean =>
    split
    · next empty => simp [String.isEmpty_iff.mp empty]
    · next some =>
      split
      · next long => simp [Nat.not_le.mpr long]
      · next fits =>
        have filled : path ≠ "" := fun same => some (by simp [same])
        have plain : '\x00' ∉ path.toList := fun nul => clean (List.contains_iff_mem.mpr nul)
        simp only [plain, filled, Nat.not_lt.mp fits, ne_eq, not_false_eq_true, true_and]
        -- where the walk ends does not matter here, as long as it ends somewhere
        cases (Path.names path).dropLast.foldlM disk.enter [] with
        | error cause => simp
        | ok last => simp

theorem resolve_eq_ok {disk : Disk} {path : String} {place : Location} :
    disk.resolve path = .ok place ↔
      disk.walk path = .ok () ∧ isOverlong path = false ∧ place = Path.locate path := by
  unfold resolve
  split
  · next failed => simp [failed]
  · next walked =>
    split
    · next long => simp [long]
    · next fits => simp [walked, Bool.eq_false_iff.mpr fits, eq_comm]

theorem find_eq_ok {disk : Disk} {path : String} {entry : Entry} :
    disk.find path = .ok entry ↔
      disk.resolve path = .ok (Path.locate path) ∧
        disk.entry? (Path.locate path) = some entry ∧
        (Path.isSlashed path = true → entry = .directory) := by
  unfold find
  cases resolved : disk.resolve path with
  | error cause => simp
  | ok place =>
    obtain rfl := (resolve_eq_ok.mp resolved).2.2
    dsimp only
    cases found : disk.entry? (Path.locate path) with
    | none => simp
    | some other =>
      cases other <;> by_cases slashed : Path.isSlashed path <;>
        simp +contextual [slashed, eq_comm]

/-- A path whose last name is no name of its own leads to a directory. -/
theorem directory_of_unnamed {disk : Disk} {path : String} (walked : disk.walk path = .ok ())
    (unnamed : Path.isNamed path = false) :
    disk.entry? (Path.locate path) = some .directory := by
  obtain ⟨_, _, _, last, entered⟩ := walk_eq_ok.mp walked
  obtain ⟨rfl, reaches⟩ := disk.reaches_root.foldlM entered
  cases ending : (Path.names path).getLast? with
  | none =>
    rw [Path.locate, List.getLast?_eq_none_iff.mp ending]
    exact disk.entry?_root
  | some name =>
    obtain ⟨front, split⟩ := List.getLast?_eq_some_iff.mp ending
    rw [Path.isNamed_of_names split] at unnamed
    rw [split, List.dropLast_concat] at reaches
    rw [Path.locate, split, List.foldl_append, List.foldl_cons, List.foldl_nil, Path.follow]
    -- one dot stays in the directory reached so far, two lead to one on the way to it
    split
    · exact reaches _ (List.prefix_refl _)
    · next dot =>
      have dots : name = ".." := by simpa [dot] using unnamed
      rw [if_pos dots]
      exact reaches _ (List.dropLast_prefix _)

/-- A path that no file can have leads to a directory if it leads anywhere. -/
theorem find_eq_ok_of_unfit {disk : Disk} {path : String} {entry : Entry}
    (unfit : Path.isNamed path = false ∨ Path.isSlashed path = true) :
    disk.find path = .ok entry ↔
      disk.resolve path = .ok (Path.locate path) ∧
        disk.entry? (Path.locate path) = some .directory ∧ entry = .directory := by
  rw [find_eq_ok]
  refine and_congr_right fun resolved => ?_
  constructor
  · rintro ⟨found, file⟩
    have directory : entry = .directory := by
      rcases unfit with unnamed | slashed
      · rw [directory_of_unnamed (resolve_eq_ok.mp resolved).1 unnamed] at found
        exact (Option.some.inj found).symm
      · exact file slashed
    rw [directory] at found
    exact ⟨found, directory⟩
  · rintro ⟨found, rfl⟩
    exact ⟨found, fun _ => rfl⟩

section Congr

variable {disk after : Disk}
  (directory : ∀ place,
    after.entry? place = some .directory ↔ disk.entry? place = some .directory)

include directory

theorem enter_eq_ok_congr {place next : Location} {name : String} :
    after.enter place name = .ok next ↔ disk.enter place name = .ok next := by
  rw [enter_eq_ok, enter_eq_ok, directory]

theorem foldlM_eq_ok_congr {place last : Location} {names : List String} :
    names.foldlM after.enter place = .ok last ↔ names.foldlM disk.enter place = .ok last := by
  induction names generalizing place with
  | nil => exact Iff.rfl
  | cons name rest ih => simp only [foldlM_cons_eq_ok, enter_eq_ok_congr directory, ih]

/-- Where a path leads is settled by the directories. -/
theorem resolve_eq_ok_congr {path : String} {place : Location} :
    after.resolve path = .ok place ↔ disk.resolve path = .ok place := by
  simp only [resolve_eq_ok, walk_eq_ok, foldlM_eq_ok_congr directory]

/-- What is found at a path that no file can have is settled by the directories. -/
theorem find_eq_ok_congr_of_unfit {path : String} {entry : Entry}
    (unfit : Path.isNamed path = false ∨ Path.isSlashed path = true) :
    after.find path = .ok entry ↔ disk.find path = .ok entry := by
  rw [find_eq_ok_of_unfit unfit, find_eq_ok_of_unfit unfit, resolve_eq_ok_congr directory,
    directory]

end Congr

/-! ### Leaving places alone -/

/-- Going from `before` to `after` changes nothing but the places `changed`, and these are no
directories. -/
structure Keeps (changed : List Location) (before after : Disk) : Prop where
  elsewhere : ∀ place, place ∉ changed → after.entry? place = before.entry? place
  directory : ∀ place,
    after.entry? place = some .directory ↔ before.entry? place = some .directory

namespace Keeps

variable {changed : List Location} {before after : Disk}

theorem of_entries (same : ∀ place, after.entry? place = before.entry? place) :
    Keeps changed before after where
  elsewhere place _ := same place
  directory place := by rw [same]

theorem refl (changed : List Location) (disk : Disk) : Keeps changed disk disk :=
  of_entries fun _ => rfl

theorem trans {last : Disk} (first : Keeps changed before after)
    (second : Keeps changed after last) : Keeps changed before last where
  elsewhere place away := (second.elsewhere place away).trans (first.elsewhere place away)
  directory place := (second.directory place).trans (first.directory place)

theorem mono {more : List Location} (kept : Keeps changed before after)
    (inside : changed ⊆ more) : Keeps more before after where
  elsewhere place away := kept.elsewhere place fun member => away (inside member)
  directory := kept.directory

/-- A file may take the place of anything but a directory. -/
theorem put {disk : Disk} {place : Location} (file : disk.entry? place ≠ some .directory)
    {entry : Entry} (another : entry ≠ .directory) : Keeps [place] disk (disk.put place entry) where
  elsewhere other away := by
    rw [entry?_put disk (ne_root file), if_neg fun same => away (List.mem_singleton.mpr same)]
  directory other := by
    rw [entry?_put disk (ne_root file)]
    split
    · next same => simp [same, file, another]
    · exact Iff.rfl

theorem resolve_eq_ok (kept : Keeps changed before after) {path : String} {place : Location} :
    after.resolve path = .ok place ↔ before.resolve path = .ok place :=
  resolve_eq_ok_congr kept.directory

/-- What is found at a path stays if the path does not lead to a place that is changed. -/
theorem find_eq_ok (kept : Keeps changed before after) {path : String} {entry : Entry}
    (away : ∀ place, before.resolve path = .ok place → place ∉ changed) :
    after.find path = .ok entry ↔ before.find path = .ok entry := by
  rw [Disk.find_eq_ok, Disk.find_eq_ok, kept.resolve_eq_ok]
  refine and_congr_right fun resolved => ?_
  rw [kept.elsewhere _ (away _ resolved)]

end Keeps

end Concordance.Disk
