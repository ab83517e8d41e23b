import Concordance.Proofs.Path

/-!
# Names in a directory

A name is divided at its last dot into a stem and an extension, and put together again with another
extension. So what stands behind the last dot decides how the sibling of a file is named; but
whatever stands there, if anything, the sibling has the name of the file with `.tmp` behind it.
-/
namespace Concordance.Path

/-- The stem and the extension of a name. A name without a dot, or with none but its first
character, is all stem, and so is `..`. -/
def divide (name : String) : String × Option String :=
  let behind := name.toList.reverse.takeWhile (· != '.')
  match name.toList.reverse.dropWhile (· != '.') with
  | [] => (name, none)
  | _ :: before =>
    if before = [] ∨ name = ".." then (name, none)
    else (String.ofList before.reverse, some (String.ofList behind.reverse))

/-- A name with another extension in the place of the one that it has, if it has one. -/
def withExtension (name extension : String) : String :=
  (divide name).1 ++ "." ++ extension

/-- The name of the file that is written before it takes the place of the one with the given
name. -/
def temporaryName (name : String) : String :=
  match (divide name).2 with
  | some extension => withExtension name (extension ++ ".tmp")
  | none => withExtension name "tmp"

/-- A name that is divided is its parts with a dot between them. -/
theorem divide_cases (name : String) :
    (∃ stem extension, divide name = (stem, some extension) ∧ name = stem ++ "." ++ extension) ∨
      divide name = (name, none) := by
  unfold divide
  dsimp only
  cases rest : name.toList.reverse.dropWhile (· != '.') with
  | nil => exact .inr rfl
  | cons dot before =>
    dsimp only
    split
    · exact .inr rfl
    · refine .inl ⟨_, _, rfl, String.toList_injective ?_⟩
      -- the first character that is left is the dot
      have stops := List.head?_dropWhile_not (· != '.') name.toList.reverse
      rw [rest] at stops
      obtain rfl : dot = '.' := by simpa using stops
      have whole := List.takeWhile_append_dropWhile (p := (· != '.')) (l := name.toList.reverse)
      have forward := congrArg List.reverse whole
      rw [rest, List.reverse_append, List.reverse_cons, List.reverse_reverse] at forward
      simpa using forward.symm

/-- However a name is divided, it has `.tmp` behind it afterwards. -/
theorem temporaryName_eq (name : String) : temporaryName name = name ++ ".tmp" := by
  unfold temporaryName withExtension
  rcases divide_cases name with ⟨stem, extension, parts, joined⟩ | whole
  · rw [parts, joined]
    dsimp only
    rw [String.append_assoc, String.append_assoc, String.append_assoc]
  · rw [whole]
    exact String.append_assoc ..

/-- `path` is that of `name` in the directory `root`, as it is written and as it is walked. -/
structure Names (root name path : String) : Prop where
  joined : path = join root name
  names : Path.names path = Path.names root ++ [name]
  place : locate path = locate root ++ [name]

theorem join_append (root name more : String) :
    join root (name ++ more) = join root name ++ more := by
  unfold join
  split
  · rw [String.append_assoc]
  · rw [String.append_assoc, String.append_assoc, String.append_assoc]

/-- A name in a directory begins the path or stands behind a slash. -/
theorem toList_join (root name : String) :
    ∃ front, (join root name).toList = front ++ name.toList ∧
      (front = [] ∨ ∃ more, front = more ++ ['/']) := by
  unfold join
  split
  · next closed =>
    refine ⟨root.toList, String.toList_append, ?_⟩
    rcases Bool.or_eq_true_iff.mp closed with empty | slashed
    · exact .inl (by simpa using empty)
    · exact .inr (List.getLast?_eq_some_iff.mp (beq_iff_eq.mp slashed))
  · refine ⟨root.toList ++ ['/'], ?_, .inr ⟨_, rfl⟩⟩
    rw [String.toList_append, String.toList_append]
    rfl

/-- The sibling of a path whose last name does not begin with a dot. -/
theorem temporary_of_undotted {path : String} {front rest : List Char} {first : Char}
    (split : path.toList = front ++ first :: rest) (undotted : first ≠ '.')
    (free : ∀ char ∈ first :: rest, (char == '/') = false)
    (ends : front = [] ∨ ∃ more, front = more ++ ['/']) : temporary path = path ++ ".tmp" := by
  have reversed : path.toList.reverse = (first :: rest).reverse ++ front.reverse := by
    rw [split, List.reverse_append]
  have plain : ∀ char ∈ (first :: rest).reverse, (char != '/') = true := by
    intro char member
    rw [bne, free char (List.mem_reverse.mp member)]
    rfl
  -- whatever the last name ends in, it begins with its first character
  have begins (dots : List Char) (dotted : dots.head? = some '.') :
      ¬dots <+: first :: rest := by
    rintro ⟨more, same⟩
    cases dots with
    | nil => cases dotted
    | cons dot dots =>
      obtain rfl : dot = '.' := Option.some.inj dotted
      exact undotted (List.head_eq_of_cons_eq same).symm
  have last : path.toList.reverse.takeWhile (· != '/') = (first :: rest).reverse := by
    rw [reversed, List.takeWhile_append_of_pos plain]
    rcases ends with rfl | ⟨more, rfl⟩
    · simp
    · simp
  have trimmed : trim path.toList.reverse = path.toList.reverse := by
    cases backwards : (first :: rest).reverse with
    | nil => simp at backwards
    | cons char others =>
      rw [backwards] at reversed plain
      have unslashed := plain char List.mem_cons_self
      refine trim_eq_self ?_ fun others' same => ?_
      · rw [reversed]
        rintro ⟨⟩
        simp at unslashed
      · -- a dot behind a slash would be the whole name
        rw [same] at last
        have whole : (first :: rest).reverse = ['.'] := last.symm
        exact begins ['.'] rfl (List.reverse_eq_iff.mp whole ▸ List.prefix_refl _)
  unfold temporary
  simp only [trimmed, last]
  rw [if_neg, if_neg, List.reverse_reverse, String.ofList_toList]
  · rintro ⟨_, cut⟩
    have suffix : ['.', '.'].reverse <:+ (first :: rest).reverse := by
      rw [List.reverse_cons, List.reverse_singleton, List.singleton_append, ← cut]
      exact List.dropWhile_suffix _
    exact begins ['.', '.'] rfl (List.reverse_suffix.mp suffix)
  · rintro (empty | dot | dots)
    · simp at empty
    · exact begins ['.'] rfl (List.reverse_eq_iff.mp dot ▸ List.prefix_refl _)
    · exact begins ['.', '.'] rfl (List.reverse_eq_iff.mp dots ▸ List.prefix_refl _)

section Stem

variable {stem tail : String} (isStem : IsStem stem)
  (free : ∀ char ∈ tail.toList, (char == '/') = false)

include isStem free

theorem free_of_stem : ∀ char ∈ (stem ++ tail).toList, (char == '/') = false := by
  intro char member
  rw [String.toList_append] at member
  exact (List.mem_append.mp member).elim (isStem.free char) (free char)

theorem names_of_stem (root : String) : Names root (stem ++ tail) (join root (stem ++ tail)) := by
  have some : (stem ++ tail).toList ≠ [] := by
    rw [String.toList_append]
    exact List.append_ne_nil_of_left_ne_nil isStem.toList_ne_nil _
  have alone : Path.names (stem ++ tail) = [stem ++ tail] := by
    have kept := Text.runs_free some (free_of_stem isStem free) []
    rw [List.append_nil] at kept
    rw [Path.names, kept]
    exact congrArg (fun name => [name]) <|
      (congrArg String.ofList (List.append_nil _)).trans String.ofList_toList
  have walked : Path.names (join root (stem ++ tail)) = Path.names root ++ [stem ++ tail] := by
    rw [names_join, alone]
  refine ⟨rfl, walked, ?_⟩
  rw [locate, walked, List.foldl_append, List.foldl_cons, List.foldl_nil, ← locate]
  exact follow_of_proper (isStem.append_ne rfl) (isStem.append_ne rfl) _

/-- The sibling of a file has the rebuilt name, in the same directory. -/
theorem temporary_join (root : String) :
    temporary (join root (stem ++ tail)) = join root (temporaryName (stem ++ tail)) := by
  obtain ⟨first, rest, split, undotted⟩ := isStem.begins
  obtain ⟨front, whole, ends⟩ := toList_join root (stem ++ tail)
  have plain := free_of_stem isStem free
  rw [String.toList_append, split, List.cons_append] at whole plain
  rw [temporary_of_undotted whole undotted plain ends, temporaryName_eq]
  exact (join_append root (stem ++ tail) ".tmp").symm

end Stem

end Concordance.Path
