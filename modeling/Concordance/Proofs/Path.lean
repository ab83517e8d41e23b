import Concordance.Path
import Concordance.Proofs.Text.Runs

/-!
# Names and places

The names of a joined path are those of its parts, one after the other. What is changed in one name
of a path is either still to be seen in the place that the path leads to, or not to be seen at all,
because the path has left that name again by `..`.
-/
namespace Concordance.Path

/-! ### The names of a path -/

@[simp]
theorem names_empty : names "" = [] := rfl

theorem names_slashed {path : String} {front : List Char} (split : path.toList = front ++ ['/'])
    (name : String) :
    names (path ++ name) = names path ++ names name := by
  have apart (rest : List Char) :
      Text.runs (· == '/') (front ++ '/' :: rest) =
        Text.runs (· == '/') front ++ Text.runs (· == '/') rest :=
    Text.runs_delimiter rfl front rest
  have alone : Text.runs (· == '/') path.toList = Text.runs (· == '/') front := by
    rw [split, apart]
    exact List.append_nil _
  have joined : (path ++ name).toList = front ++ '/' :: name.toList := by simp [split]
  rw [names, names, names, joined, apart, alone, List.map_append]

theorem names_join (root name : String) : names (join root name) = names root ++ names name := by
  unfold join
  split
  · next closed =>
    rcases Bool.or_eq_true_iff.mp closed with empty | slashed
    · obtain rfl : root = "" := by simpa using empty
      simp
    · obtain ⟨front, split⟩ := List.getLast?_eq_some_iff.mp (beq_iff_eq.mp slashed)
      exact names_slashed split name
  · have split : (root ++ "/").toList = root.toList ++ ['/'] := by simp
    rw [names_slashed split]
    congr 1
    rw [names, split, Text.runs_delimiter rfl]
    exact congrArg (List.map String.ofList) (List.append_nil _)

/-- A text that can begin a name of its own: it has no slash and does not begin with a dot. -/
structure IsStem (stem : String) : Prop where
  begins : ∃ first rest, stem.toList = first :: rest ∧ first ≠ '.'
  free : ∀ char ∈ stem.toList, (char == '/') = false

theorem free_of_all {text : String} (all : text.toList.all (· != '/') = true) :
    ∀ char ∈ text.toList, (char == '/') = false := by
  intro char member
  simpa using List.all_eq_true.mp all char member

theorem IsStem.toList_ne_nil {stem : String} (isStem : IsStem stem) : stem.toList ≠ [] := by
  obtain ⟨first, rest, split, _⟩ := isStem.begins
  simp [split]

/-- A name that begins with a stem does not stand for a directory. -/
theorem IsStem.append_ne {stem : String} (isStem : IsStem stem) {tail dots : String}
    (dotted : dots.toList.head? = some '.') : stem ++ tail ≠ dots := by
  rintro rfl
  obtain ⟨first, rest, split, differs⟩ := isStem.begins
  rw [String.toList_append, split] at dotted
  exact differs (Option.some.inj dotted)

theorem names_stem {stem : String} (isStem : IsStem stem) (tail : String) :
    names (stem ++ tail) =
      (stem ++ String.ofList (Text.Runs.ofText (· == '/') tail.toList).first) ::
        (Text.Runs.ofText (· == '/') tail.toList).rest.map String.ofList := by
  rw [names, String.toList_append, Text.runs_free isStem.toList_ne_nil isStem.free, List.map_cons,
    String.ofList_append, String.ofList_toList]

theorem isSlashed_append_stem {stem : String} (isStem : IsStem stem) (front tail : String) :
    isSlashed (front ++ (stem ++ tail)) = (tail.toList.getLast? == some '/') := by
  -- the stem has a character, so what stands before it does not matter
  have ends : (front ++ (stem ++ tail)).toList.getLast? =
      tail.toList.getLast?.or stem.toList.getLast? := by
    rw [String.toList_append, String.toList_append, List.getLast?_append, List.getLast?_append]
    cases tail.toList.getLast? with
    | some char => rfl
    | none =>
      cases last : stem.toList.getLast? with
      | some char => rfl
      | none => exact absurd (List.getLast?_eq_none_iff.mp last) isStem.toList_ne_nil
  rw [isSlashed, ends]
  cases tail.toList.getLast? with
  | some char => rfl
  | none =>
    rw [Option.none_or]
    cases last : stem.toList.getLast? with
    | none => rfl
    | some char => exact isStem.free char (List.mem_of_getLast? last)

/-! ### The last name -/

/-- A path that does not end in a slash ends in a name without one. -/
theorem exists_last {path : String} (some : path ≠ "") (unslashed : isSlashed path = false) :
    ∃ front piece : List Char, path.toList = front ++ piece ∧ piece ≠ [] ∧
      path.toList.reverse.takeWhile (· != '/') = piece.reverse ∧
      (∀ char ∈ piece, (char == '/') = false) ∧ (front = [] ∨ ∃ more, front = more ++ ['/']) := by
  refine ⟨(path.toList.reverse.dropWhile (· != '/')).reverse,
    (path.toList.reverse.takeWhile (· != '/')).reverse, ?_, ?_,
    (List.reverse_reverse _).symm, ?_, ?_⟩
  · rw [← List.reverse_append, List.takeWhile_append_dropWhile, List.reverse_reverse]
  · -- the last character is no slash, so it belongs to the piece
    intro empty
    rw [List.reverse_eq_nil_iff] at empty
    have begins : path.toList.reverse ≠ [] := by simpa using some
    obtain ⟨last, rest, split⟩ := List.exists_cons_of_ne_nil begins
    rw [split, List.takeWhile_cons] at empty
    have ends : path.toList.getLast? = Option.some last := by
      rw [← List.head?_reverse, split, List.head?_cons]
    simp only [isSlashed, ends] at unslashed
    split at empty
    · simp at empty
    · next slash => simp_all
  · intro char member
    have kept := List.all_eq_true.mp List.all_takeWhile char (List.mem_reverse.mp member)
    simpa using kept
  · -- what stops the piece is a slash
    cases rest : path.toList.reverse.dropWhile (· != '/') with
    | nil => exact .inl rfl
    | cons slash more =>
      have stops := List.head?_dropWhile_not (· != '/') path.toList.reverse
      rw [rest] at stops
      obtain rfl : slash = '/' := by simpa using stops
      exact .inr ⟨more.reverse, by simp⟩

/-- The names of a path whose last name has no slash. -/
theorem names_last {front piece : List Char} (some : piece ≠ [])
    (free : ∀ char ∈ piece, (char == '/') = false)
    (ends : front = [] ∨ ∃ more, front = more ++ ['/']) :
    names (String.ofList (front ++ piece)) =
      names (String.ofList front) ++ [String.ofList piece] := by
  have alone : names (String.ofList piece) = [String.ofList piece] := by
    have kept := Text.runs_free some free []
    rw [List.append_nil] at kept
    rw [names, String.toList_ofList, kept]
    exact congrArg (fun first => [String.ofList first]) (List.append_nil piece)
  rcases ends with rfl | ⟨more, rfl⟩
  · exact alone
  · have split : (String.ofList (more ++ ['/'])).toList = more ++ ['/'] := String.toList_ofList
    rw [String.ofList_append, names_slashed split, alone]

theorem isNamed_of_names {path : String} {front : List String} {name : String}
    (split : names path = front ++ [name]) :
    isNamed path = (name != "." && name != "..") := by
  rw [isNamed, split, List.getLast?_concat]

/-! ### The sibling of a path -/

theorem trim_eq_self {path : List Char} (unslashed : path.head? ≠ some '/')
    (undotted : ∀ rest, path ≠ '.' :: '/' :: rest) : trim path = path := by
  unfold trim
  split
  · simp at unslashed
  · next rest => exact absurd rfl (undotted rest)
  · rfl

theorem dropWhile_reverse_append {piece front : List Char} {dots : List Char} (some : dots ≠ [])
    (dropped : piece.reverse.dropWhile (· != '.') = dots) :
    ((piece.reverse ++ front.reverse).dropWhile (· != '.')).reverse = front ++ dots.reverse := by
  rw [List.dropWhile_append, dropped, if_neg (by simpa using some), List.reverse_append,
    List.reverse_reverse]

/-- The sibling of a file has the last name of the file with `.tmp` behind it, or it has no name of
its own. -/
theorem names_temporary {path : String} (named : isNamed path = true)
    (unslashed : isSlashed path = false) :
    (∃ front name, names path = front ++ [name] ∧
        names (temporary path) = front ++ [name ++ ".tmp"]) ∨
      isNamed (temporary path) = false := by
  have some : path ≠ "" := by
    rintro rfl
    simp [isNamed] at named
  obtain ⟨front, piece, split, filled, last, free, ends⟩ := exists_last some unslashed
  have whole : String.ofList (front ++ piece) = path := by rw [← split, String.ofList_toList]
  have reversed : path.toList.reverse = piece.reverse ++ front.reverse := by
    rw [split, List.reverse_append]
  have names_path : names path = names (String.ofList front) ++ [String.ofList piece] := by
    rw [← whole]
    exact names_last filled free ends
  rw [isNamed_of_names names_path, Bool.and_eq_true, bne_iff_ne, bne_iff_ne] at named
  -- the last name is neither of the two dots, so the extension can be replaced
  have dot : piece ≠ ['.'] := fun same => named.1 (by rw [same])
  have dots : piece ≠ ['.', '.'] := fun same => named.2 (by rw [same])
  have trimmed : trim path.toList.reverse = path.toList.reverse := by
    refine trim_eq_self ?_ fun rest same => dot ?_
    · rw [List.head?_reverse]
      exact fun slash => by simp [isSlashed, slash] at unslashed
    · rw [same] at last
      exact List.reverse_inj.mp last.symm
  unfold temporary
  simp only [trimmed, last, List.reverse_eq_nil_iff, filled, false_or]
  rw [if_neg (by
    rintro (same | same)
    · exact dot (List.reverse_inj.mp same)
    · exact dots (List.reverse_inj.mp same))]
  split
  · next cut =>
    -- nothing but the two dots is left of the last name
    right
    rw [reversed, dropWhile_reverse_append (List.cons_ne_nil '.' ['.']) cut.2]
    have dotted : names (String.ofList (front ++ ['.', '.'])) =
        names (String.ofList front) ++ [".."] :=
      names_last (List.cons_ne_nil '.' ['.']) (by simp) ends
    exact isNamed_of_names dotted
  · left
    refine ⟨names (String.ofList front), String.ofList piece, names_path, ?_⟩
    -- what is appended to the path is appended to its last name
    have extended : String.ofList path.toList.reverse.reverse ++ ".tmp" =
        String.ofList (front ++ (piece ++ ".tmp".toList)) := by
      rw [List.reverse_reverse, split]
      simp only [String.ofList_append, String.ofList_toList, String.append_assoc]
    have plain : ∀ char ∈ piece ++ ".tmp".toList, (char == '/') = false := by
      intro char member
      rcases List.mem_append.mp member with before | suffix
      · exact free char before
      · exact free_of_all (by decide) char suffix
    rw [extended, names_last (List.append_ne_nil_of_left_ne_nil filled _) plain ends,
      String.ofList_append, String.ofList_toList]

/-! ### Places -/

theorem follow_of_proper {name : String} (dot : name ≠ ".") (dots : name ≠ "..")
    (place : Location) : follow place name = place ++ [name] := by
  rw [follow, if_neg dot, if_neg dots]

/-- The place of a sibling, in terms of the names of the path. -/
theorem locate_temporary {path : String} (named : isNamed path = true)
    (unslashed : isSlashed path = false) (sibling_named : isNamed (temporary path) = true) :
    ∃ front name, names path = front ++ [name] ∧
      locate (temporary path) = front.foldl follow [] ++ [name ++ ".tmp"] := by
  rcases names_temporary named unslashed with ⟨front, name, split, sibling⟩ | unnamed
  · refine ⟨front, name, split, ?_⟩
    rw [isNamed_of_names sibling, Bool.and_eq_true, bne_iff_ne, bne_iff_ne] at sibling_named
    rw [locate, sibling, List.foldl_append]
    exact follow_of_proper sibling_named.1 sibling_named.2 _
  · simp [unnamed] at sibling_named

/-- A walk that goes on from the place of a name either stays below it, whatever the name is, or
leaves it for the same place. -/
theorem foldl_follow_below (place tail : Location) (walked : List String) :
    (∃ rest, ∀ name, walked.foldl follow (place ++ name :: tail) = place ++ name :: rest) ∨
      ∃ there, ∀ name, walked.foldl follow (place ++ name :: tail) = there := by
  induction walked generalizing tail with
  | nil => exact .inl ⟨tail, fun _ => rfl⟩
  | cons step rest ih =>
    by_cases dot : step = "."
    · simpa only [List.foldl_cons, follow, if_pos dot] using ih tail
    by_cases dots : step = ".."
    · cases last : tail.getLast? with
      | none =>
        -- the walk leaves the name behind and forgets it
        obtain rfl := List.getLast?_eq_none_iff.mp last
        right
        refine ⟨rest.foldl follow place, fun name => ?_⟩
        simp [follow, dots]
      | some name =>
        have some : tail ≠ [] := by
          rintro rfl
          simp at last
        have back (name : String) : (place ++ name :: tail).dropLast =
            place ++ name :: tail.dropLast := by
          rw [List.dropLast_append_of_ne_nil (List.cons_ne_nil name tail),
            List.dropLast_cons_of_ne_nil some]
        simpa only [List.foldl_cons, follow, if_neg dot, if_pos dots, back] using ih tail.dropLast
    · simpa only [List.foldl_cons, follow, if_neg dot, if_neg dots, List.append_assoc,
        List.cons_append] using ih (tail ++ [step])

end Concordance.Path
