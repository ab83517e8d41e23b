import Concordance.Config
import Concordance.Proofs.Path

/-!
# The files of a store

The paths of the three files differ in the stem of one name. An extension may lead anywhere, so two
of the paths can lead to the same place, but then it is the place of every such path. What is
written beside a file never lies at the place of a file.
-/
namespace Concordance.Config

open Concordance.Path (IsStem follow locate names isNamed isSlashed temporary)

variable (config : Config)

/-- The path of the file whose name begins with `stem`. -/
def pathOf (stem : String) : String := Path.join config.path (config.fileName stem)

theorem logPath_eq : config.logPath = config.pathOf "strings" := rfl

/-- What follows the stem in the names of the files. -/
def ending : String := if config.extension.isEmpty then "" else "." ++ config.extension

/-- What follows the stem in the same name. -/
def suffix : String := String.ofList (Text.Runs.ofText (· == '/') config.ending.toList).first

/-- The names after the one with the stem, which there are if the extension has a slash. -/
def within : List String :=
  (Text.Runs.ofText (· == '/') config.ending.toList).rest.map String.ofList

theorem fileName_eq (stem : String) : config.fileName stem = stem ++ config.ending := by
  unfold fileName ending
  split
  · simp
  · rw [String.append_assoc]

section Stem

variable {stem : String} (isStem : IsStem stem)

include isStem

theorem names_pathOf :
    names (config.pathOf stem) =
      names config.path ++ (stem ++ config.suffix) :: config.within := by
  rw [pathOf, Path.names_join, fileName_eq, Path.names_stem isStem]
  rfl

theorem isSlashed_pathOf :
    isSlashed (config.pathOf stem) = (config.ending.toList.getLast? == some '/') := by
  rw [pathOf, fileName_eq, Path.join]
  split
  · exact Path.isSlashed_append_stem isStem ..
  · exact Path.isSlashed_append_stem isStem ..

theorem follow_stem (place : Location) :
    follow place (stem ++ config.suffix) = place ++ [stem ++ config.suffix] :=
  Path.follow_of_proper (isStem.append_ne rfl) (isStem.append_ne rfl) place

theorem locate_pathOf :
    locate (config.pathOf stem) =
      config.within.foldl follow (locate config.path ++ [stem ++ config.suffix]) := by
  rw [locate, names_pathOf config isStem, List.foldl_append, List.foldl_cons, ← locate,
    follow_stem config isStem]

theorem isNamed_pathOf :
    isNamed (config.pathOf stem) =
      match config.within.getLast? with
      | some name => name != "." && name != ".."
      | none => true := by
  have split := names_pathOf config isStem
  cases last : config.within.getLast? with
  | none =>
    rw [List.getLast?_eq_none_iff.mp last] at split
    rw [Path.isNamed_of_names split, bne_iff_ne.mpr (isStem.append_ne rfl),
      bne_iff_ne.mpr (isStem.append_ne rfl)]
    rfl
  | some name =>
    obtain ⟨front, within⟩ := List.getLast?_eq_some_iff.mp last
    rw [within, ← List.cons_append, ← List.append_assoc] at split
    rw [Path.isNamed_of_names split]

end Stem

/-- If the paths of two files lead to the same place, all of them do. -/
theorem locate_pathOf_eq {left right : String} (left_stem : IsStem left)
    (right_stem : IsStem right) (differ : left ≠ right)
    (same : locate (config.pathOf left) = locate (config.pathOf right)) {other : String}
    (other_stem : IsStem other) : locate (config.pathOf left) = locate (config.pathOf other) := by
  rw [locate_pathOf config left_stem, locate_pathOf config right_stem] at same
  rw [locate_pathOf config left_stem, locate_pathOf config other_stem]
  rcases Path.foldl_follow_below (locate config.path) [] config.within with
    ⟨rest, below⟩ | ⟨there, leaves⟩
  · rw [below, below] at same
    have names_same := List.head_eq_of_cons_eq (List.append_cancel_left same)
    exact absurd (String.append_left_inj _ |>.mp names_same) differ
  · rw [leaves, leaves]

/-- What is written beside a file does not lie at the place of a file. -/
theorem locate_temporary_ne {stem other : String} (isStem : IsStem stem)
    (other_stem : IsStem other) (apart : stem.toList <+: other.toList → stem = other)
    (named : isNamed (config.pathOf stem) = true)
    (unslashed : isSlashed (config.pathOf stem) = false)
    (sibling_named : isNamed (temporary (config.pathOf stem)) = true) :
    locate (temporary (config.pathOf stem)) ≠ locate (config.pathOf other) := by
  obtain ⟨front, name, split, sibling_place⟩ :=
    Path.locate_temporary named unslashed sibling_named
  have longer (name : String) : name ++ ".tmp" ≠ name := by
    intro same
    have sizes := congrArg String.length same
    simp at sizes
  rw [names_pathOf config isStem] at split
  rw [sibling_place, locate_pathOf config other_stem]
  cases last : config.within.getLast? with
  | none =>
    -- the name with the stem is the last one
    rw [List.getLast?_eq_none_iff.mp last] at split ⊢
    obtain ⟨_, stem_name⟩ := List.append_inj' split rfl
    obtain rfl : stem ++ config.suffix = name := List.head_eq_of_cons_eq stem_name
    intro same
    have names_same := List.head_eq_of_cons_eq (List.append_inj' same rfl).2
    have chars := congrArg String.toList names_same
    simp only [String.toList_append, List.append_assoc] at chars
    -- the name with the shorter stem begins with it, so the stems are the same
    rcases List.append_eq_append_iff.mp chars with ⟨more, longer_stem, _⟩ | ⟨more, shorter, rest⟩
    · obtain rfl := apart ⟨more, longer_stem.symm⟩
      exact longer _ names_same
    · have sizes := congrArg List.length rest
      simp at sizes
      omega
  | some inner =>
    -- the last name comes from the extension and is the same for both files
    obtain ⟨before, within⟩ := List.getLast?_eq_some_iff.mp last
    rw [within, ← List.cons_append, ← List.append_assoc] at split
    obtain ⟨_, inner_name⟩ := List.append_inj' split rfl
    obtain rfl : inner = name := List.head_eq_of_cons_eq inner_name
    rw [within, List.foldl_append]
    rw [isNamed_pathOf config isStem, last] at named
    have proper : inner ≠ "." ∧ inner ≠ ".." := by simpa using named
    intro same
    rw [List.foldl_cons, List.foldl_nil, Path.follow_of_proper proper.1 proper.2] at same
    exact longer inner (List.head_eq_of_cons_eq (List.append_inj' same rfl).2)

end Concordance.Config
