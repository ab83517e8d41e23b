import Concordance.Proofs.Table
import Concordance.Proofs.Text.Runs

/-!
# Maximal runs

A run is maximal if it cannot be made longer: there is a delimiter or an end of the text on either
side of it. A text may have one run several times, so what tells runs apart is their place, the
number of characters before them. All maximal runs in the order of their places are one list, and
this is the list that a text is cut into.
-/
namespace Concordance.Text

/-! ### Runs by their places -/

/-- The runs that occur, each as often as there are places for it, in the order of the places. -/
def Enumerates (occurs : Nat → List Char → Prop) (runs : List (List Char)) : Prop :=
  ∃ placed : List (Nat × List Char), placed.map (·.2) = runs ∧
    placed.Pairwise (fun first second => first.1 < second.1) ∧
      ∀ place run, (place, run) ∈ placed ↔ occurs place run

namespace Enumerates

variable {occurs : Nat → List Char → Prop} {runs others : List (List Char)}

theorem congr {same : Nat → List Char → Prop} (enumerates : Enumerates occurs runs)
    (agree : ∀ place run, occurs place run ↔ same place run) : Enumerates same runs := by
  obtain ⟨placed, listed, ascending, members⟩ := enumerates
  refine ⟨placed, listed, ascending, fun place run => ?_⟩
  rw [members, agree]

/-- Only one list has the runs in this order. -/
theorem unique (left : Enumerates occurs runs) (right : Enumerates occurs others) :
    runs = others := by
  obtain ⟨placed, rfl, ascending, members⟩ := left
  obtain ⟨again, rfl, ascends, same⟩ := right
  have equal : placed = again := by
    refine Table.eq_of_ascending Prod.fst (ascending.imp Nat.compare_eq_lt.mpr)
      (ascends.imp Nat.compare_eq_lt.mpr) ?_
    rintro ⟨place, run⟩
    rw [members, same]
  rw [equal]

theorem nil (never : ∀ place run, ¬occurs place run) : Enumerates occurs [] :=
  ⟨[], rfl, .nil, fun place run => by simp [never]⟩

/-- One more character in front moves every run by one place. -/
theorem shift (enumerates : Enumerates occurs runs) :
    Enumerates (fun place run => ∃ former, place = former + 1 ∧ occurs former run) runs := by
  obtain ⟨placed, rfl, ascending, members⟩ := enumerates
  refine ⟨placed.map fun entry => (entry.1 + 1, entry.2), ?_, ?_, fun place run => ?_⟩
  · simp
  · rw [List.pairwise_map]
    exact ascending.imp Nat.succ_lt_succ
  · simp only [List.mem_map, Prod.exists, Prod.mk.injEq, ← members]
    constructor
    · rintro ⟨former, _, member, rfl, rfl⟩
      exact ⟨former, rfl, member⟩
    · rintro ⟨former, rfl, member⟩
      exact ⟨former, run, member, rfl, rfl⟩

/-- A run at the beginning comes before all others. -/
theorem cons {first : List Char} (begins : ∀ run, occurs 0 run ↔ run = first)
    (later : Enumerates (fun place run => 0 < place ∧ occurs place run) runs) :
    Enumerates occurs (first :: runs) := by
  obtain ⟨placed, rfl, ascending, members⟩ := later
  refine ⟨(0, first) :: placed, rfl, ?_, fun place run => ?_⟩
  · apply List.pairwise_cons.mpr
    exact ⟨fun entry member => ((members _ _).mp member).1, ascending⟩
  · rw [List.mem_cons, members]
    cases place with
    | zero => simp [begins]
    | succ place => simp

end Enumerates

/-! ### What makes a run maximal -/

/-- A run with what comes before it and after it in a text. -/
structure MaximalRun (delimits : Char → Prop) (before run after : List Char) : Prop where
  filled : run ≠ []
  free : ∀ char ∈ run, ¬delimits char
  starts : ∀ char ∈ before.getLast?, delimits char
  ends : ∀ char ∈ after.head?, delimits char

/-- A text has a maximal run behind its first `place` characters. -/
def RunAt (delimits : Char → Prop) (text : List Char) (place : Nat) (run : List Char) : Prop :=
  ∃ before after, text = before ++ run ++ after ∧ before.length = place ∧
    MaximalRun delimits before run after

theorem not_runAt_nil {delimits : Char → Prop} {place : Nat} {run : List Char} :
    ¬RunAt delimits [] place run := by
  rintro ⟨before, after, split, _, maximal⟩
  have empty : run = [] := by
    simp only [List.nil_eq, List.append_eq_nil_iff] at split
    exact split.1.2
  exact maximal.filled empty

/-- A character in front of a text moves its runs, but a run at the beginning stays maximal only if
the character is a delimiter. -/
theorem runAt_succ {delimits : Char → Prop} {char : Char} {text run : List Char} {place : Nat} :
    RunAt delimits (char :: text) (place + 1) run ↔
      RunAt delimits text place run ∧ (place = 0 → delimits char) := by
  constructor
  · rintro ⟨before, after, split, length, maximal⟩
    cases before with
    | nil => cases length
    | cons head front =>
      obtain ⟨rfl, rfl⟩ := List.cons.inj split
      have counted : front.length = place := Nat.succ.inj length
      refine ⟨⟨front, after, rfl, counted, ?_⟩, ?_⟩
      · refine ⟨maximal.filled, maximal.free, fun last member => ?_, maximal.ends⟩
        exact maximal.starts last (List.mem_getLast?_cons member)
      · rintro rfl
        rw [List.length_eq_zero_iff.mp counted] at maximal
        exact maximal.starts char rfl
  · rintro ⟨⟨before, after, rfl, rfl, maximal⟩, delimited⟩
    refine ⟨char :: before, after, rfl, rfl, maximal.filled, maximal.free, ?_, maximal.ends⟩
    cases before with
    | nil =>
      rintro last ⟨⟩
      exact delimited rfl
    | cons head front =>
      rw [List.getLast?_cons_cons]
      exact maximal.starts

/-! ### The runs of a text -/

variable {isDelimiter : Char → Bool}

/-- The first run of a text ends where a delimiter comes or the text ends. -/
theorem Runs.first_ends (isDelimiter : Char → Bool) (text : List Char) :
    ∃ after, text = (ofText isDelimiter text).first ++ after ∧
      (∀ char ∈ (ofText isDelimiter text).first, ¬isDelimiter char = true) ∧
        ∀ char ∈ after.head?, isDelimiter char = true := by
  induction text with
  | nil => exact ⟨[], rfl, by simp [ofText], by simp⟩
  | cons char rest ih =>
    simp only [ofText, List.foldr_cons, add] at ih ⊢
    split
    · next delimits => exact ⟨char :: rest, rfl, by simp, by simpa using delimits⟩
    · next free =>
      obtain ⟨after, split, plain, ends⟩ := ih
      refine ⟨after, ?_, List.forall_mem_cons.mpr ⟨free, plain⟩, ends⟩
      rw [List.cons_append, ← split]

theorem Runs.first_eq_nil {text : List Char}
    (begins : ∀ char ∈ text.head?, isDelimiter char = true) :
    (ofText isDelimiter text).first = [] := by
  cases text with
  | nil => rfl
  | cons char rest => simp [ofText, add, begins char rfl]

/-- The maximal run at the beginning of a text is its first run, unless that is empty. -/
theorem runAt_zero {text run : List Char} :
    RunAt (isDelimiter · = true) text 0 run ↔
      run ≠ [] ∧ run = (Runs.ofText isDelimiter text).first := by
  constructor
  · rintro ⟨before, after, rfl, length, maximal⟩
    rw [List.length_eq_zero_iff.mp length, List.nil_append,
      Runs.ofText_free (by simpa using maximal.free), Runs.first_eq_nil maximal.ends,
      List.append_nil]
    exact ⟨maximal.filled, rfl⟩
  · rintro ⟨filled, rfl⟩
    obtain ⟨after, split, free, ends⟩ := Runs.first_ends isDelimiter text
    exact ⟨[], after, split, rfl, filled, free, by simp, ends⟩

theorem enumerates_toList {text : List Char}
    (later : Enumerates (fun place run => 0 < place ∧ RunAt (isDelimiter · = true) text place run)
      (Runs.ofText isDelimiter text).rest) :
    Enumerates (RunAt (isDelimiter · = true) text) (runs isDelimiter text) := by
  unfold runs Runs.toList
  split
  · next empty =>
    refine later.congr fun place run => and_iff_right_of_imp fun occurs => ?_
    -- nothing is at the beginning but a delimiter
    apply Nat.pos_of_ne_zero
    rintro rfl
    obtain ⟨filled, rfl⟩ := runAt_zero.mp occurs
    exact filled (List.isEmpty_iff.mp empty)
  · next filled =>
    apply Enumerates.cons _ later
    intro run
    rw [runAt_zero, and_iff_right_of_imp]
    rintro rfl none
    exact filled (List.isEmpty_iff.mpr none)

theorem enumerates_rest (isDelimiter : Char → Bool) (text : List Char) :
    Enumerates (fun place run => 0 < place ∧ RunAt (isDelimiter · = true) text place run)
      (Runs.ofText isDelimiter text).rest := by
  induction text with
  | nil => exact .nil fun _ _ occurs => not_runAt_nil occurs.2
  | cons char rest ih =>
    cases delimits : isDelimiter char with
    | true =>
      -- behind a delimiter every run of the rest is maximal
      have moved := (enumerates_toList ih).shift
      simp only [Runs.ofText, List.foldr_cons, Runs.add, delimits, if_true] at moved ⊢
      refine moved.congr fun place run => ?_
      cases place with
      | zero => simp
      | succ place => simp [runAt_succ, delimits]
    | false =>
      -- the run that the rest begins with goes on to the left
      have moved := ih.shift
      simp only [Runs.ofText, List.foldr_cons, Runs.add, delimits, Bool.false_eq_true, if_false]
        at moved ⊢
      refine moved.congr fun place run => ?_
      cases place with
      | zero => simp
      | succ place => simp [runAt_succ, delimits, Nat.pos_iff_ne_zero, and_comm]

/-- A text is cut into its maximal runs, in order. -/
theorem enumerates_runs (isDelimiter : Char → Bool) (text : List Char) :
    Enumerates (RunAt (isDelimiter · = true) text) (runs isDelimiter text) :=
  enumerates_toList (enumerates_rest isDelimiter text)

/-! ### Texts without delimiters -/

theorem free_of_mem_runs {text run : List Char} (member : run ∈ runs isDelimiter text) {char : Char}
    (inside : char ∈ run) : isDelimiter char = false := by
  have kept : char ∈ (runs isDelimiter text).flatten := List.mem_flatten_of_mem member inside
  rw [flatten_runs, List.mem_filter] at kept
  simpa using kept.2

theorem runs_of_free {text : List Char} (filled : text ≠ [])
    (free : ∀ char ∈ text, isDelimiter char = false) : runs isDelimiter text = [text] := by
  have cut := runs_free filled free []
  rw [List.append_nil] at cut
  rw [cut, Runs.ofText, List.foldr_nil, List.append_nil]

/-- Runs that are put together with a delimiter between them are cut apart again. -/
theorem runs_intercalate {delimiter : Char} (delimits : isDelimiter delimiter = true)
    {pieces : List (List Char)} (filled : ∀ piece ∈ pieces, piece ≠ [])
    (free : ∀ piece ∈ pieces, ∀ char ∈ piece, isDelimiter char = false) :
    runs isDelimiter ([delimiter].intercalate pieces) = pieces := by
  induction pieces with
  | nil => rfl
  | cons piece rest ih =>
    obtain ⟨here, later⟩ := List.forall_mem_cons.mp filled
    obtain ⟨plain, others⟩ := List.forall_mem_cons.mp free
    cases rest with
    | nil =>
      rw [List.intercalate_singleton]
      exact runs_of_free here plain
    | cons next rest =>
      rw [List.intercalate_cons_cons, List.append_assoc, List.singleton_append,
        runs_delimiter delimits, runs_of_free here plain, ih later others]
      rfl

end Concordance.Text
