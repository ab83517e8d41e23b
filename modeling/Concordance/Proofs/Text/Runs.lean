import Concordance.Text.Runs

/-!
# Runs of joined texts

A delimiter between two texts keeps their runs apart, wherever it belongs. A text without a
delimiter adds to the run that the text after it begins with. If a text goes on, its first run is
kept or goes on as well.
-/
namespace Concordance.Text

variable {isDelimiter : Char → Bool}

theorem Runs.ne_nil_of_mem_toList {runs : Runs} (some : ∀ run ∈ runs.rest, run ≠ [])
    {run : List Char} (member : run ∈ runs.toList) : run ≠ [] := by
  unfold Runs.toList at member
  split at member
  · exact some run member
  · next first =>
    rcases List.mem_cons.mp member with rfl | later
    · exact fun empty => first (List.isEmpty_iff.mpr empty)
    · exact some run later

theorem Runs.ne_nil_of_mem_rest {text run : List Char}
    (member : run ∈ (Runs.ofText isDelimiter text).rest) : run ≠ [] := by
  induction text generalizing run with
  | nil => simp [Runs.ofText] at member
  | cons char rest ih =>
    simp only [Runs.ofText, List.foldr_cons, Runs.add] at ih member
    split at member
    · exact Runs.ne_nil_of_mem_toList (fun _ => ih) member
    · exact ih member

/-- No run is empty. -/
theorem ne_nil_of_mem_runs {text run : List Char} (member : run ∈ runs isDelimiter text) :
    run ≠ [] :=
  Runs.ne_nil_of_mem_toList (fun _ => Runs.ne_nil_of_mem_rest) member

theorem Runs.toList_append (first : List Char) (rest more : List (List Char)) :
    (Runs.mk first (rest ++ more)).toList = (Runs.mk first rest).toList ++ more := by
  unfold toList
  split
  · rfl
  · rfl

theorem Runs.ofText_delimiter {delimiter : Char} (delimits : isDelimiter delimiter = true)
    (left right : List Char) :
    ofText isDelimiter (left ++ delimiter :: right) =
      ⟨(ofText isDelimiter left).first, (ofText isDelimiter left).rest ++
        runs isDelimiter right⟩ := by
  induction left with
  | nil => simp [ofText, add, delimits, runs]
  | cons char rest ih =>
    simp only [ofText, List.cons_append, List.foldr_cons] at ih ⊢
    rw [ih, add, add]
    split
    · rw [toList_append]
    · rfl

/-- A delimiter between two texts keeps their runs apart. -/
theorem runs_delimiter {delimiter : Char} (delimits : isDelimiter delimiter = true)
    (left right : List Char) :
    runs isDelimiter (left ++ delimiter :: right) =
      runs isDelimiter left ++ runs isDelimiter right := by
  rw [runs, Runs.ofText_delimiter delimits, Runs.toList_append]
  rfl

theorem Runs.ofText_free {piece : List Char} (free : ∀ char ∈ piece, isDelimiter char = false)
    (right : List Char) :
    ofText isDelimiter (piece ++ right) =
      ⟨piece ++ (ofText isDelimiter right).first, (ofText isDelimiter right).rest⟩ := by
  induction piece with
  | nil => rfl
  | cons char rest ih =>
    obtain ⟨here, later⟩ := List.forall_mem_cons.mp free
    simp only [ofText, List.cons_append, List.foldr_cons] at ih ⊢
    rw [ih later, add, here]
    rfl

/-- A text without a delimiter adds to the run that the text after it begins with. -/
theorem runs_free {piece : List Char} (some : piece ≠ [])
    (free : ∀ char ∈ piece, isDelimiter char = false) (right : List Char) :
    runs isDelimiter (piece ++ right) =
      (piece ++ (Runs.ofText isDelimiter right).first) :: (Runs.ofText isDelimiter right).rest := by
  rw [runs, Runs.ofText_free free, Runs.toList, if_neg]
  simp [some]

/-! ### Texts that go on -/

/-- A text with a character that is no delimiter has a run. -/
theorem runs_ne_nil {text : List Char} {char : Char} (member : char ∈ text)
    (free : isDelimiter char = false) : runs isDelimiter text ≠ [] := by
  intro none
  have kept : char ∈ (runs isDelimiter text).flatten := by
    rw [flatten_runs]
    exact List.mem_filter.mpr ⟨member, by simp [free]⟩
  rw [none] at kept
  exact absurd kept List.not_mem_nil

theorem runs_cons_delimiter {delimiter : Char} (delimits : isDelimiter delimiter = true)
    (text : List Char) : runs isDelimiter (delimiter :: text) = runs isDelimiter text :=
  runs_delimiter delimits [] text

theorem runs_cons_free {char : Char} (free : isDelimiter char = false) (text : List Char) :
    runs isDelimiter (char :: text) =
      (char :: (Runs.ofText isDelimiter text).first) :: (Runs.ofText isDelimiter text).rest :=
  runs_free (List.cons_ne_nil char []) (List.forall_mem_singleton.mpr free) text

/-- Two texts meet at a delimiter, or the first of them is empty. -/
def Apart (isDelimiter : Char → Bool) (left right : List Char) : Prop :=
  left = [] ∨ (∃ front delimiter, left = front ++ [delimiter] ∧ isDelimiter delimiter = true) ∨
    ∃ delimiter rest, right = delimiter :: rest ∧ isDelimiter delimiter = true

/-- The runs of texts that meet at a delimiter are kept apart. -/
theorem runs_append {left right : List Char} (apart : Apart isDelimiter left right) :
    runs isDelimiter (left ++ right) = runs isDelimiter left ++ runs isDelimiter right := by
  rcases apart with rfl | ⟨front, delimiter, rfl, delimits⟩ | ⟨delimiter, rest, rfl, delimits⟩
  · rfl
  · rw [List.append_assoc, List.singleton_append, runs_delimiter delimits, runs_delimiter delimits,
      List.append_assoc]
    rfl
  · rw [runs_delimiter delimits, runs_cons_delimiter delimits]

theorem Runs.first_ofText_append (isDelimiter : Char → Bool) (text more : List Char) :
    (ofText isDelimiter text).first <+: (ofText isDelimiter (text ++ more)).first := by
  induction text with
  | nil => exact List.nil_prefix
  | cons char rest ih =>
    simp only [ofText, List.cons_append, List.foldr_cons, add] at ih ⊢
    split
    · exact List.nil_prefix
    · exact List.cons_prefix_cons.mpr ⟨rfl, ih⟩

/-- If a text goes on, its first run begins the first run of the longer text. -/
theorem first_runs_append {text run : List Char} {rest : List (List Char)}
    (first : runs isDelimiter text = run :: rest) (more : List Char) :
    ∃ longer later, runs isDelimiter (text ++ more) = longer :: later ∧ run <+: longer := by
  induction text with
  | nil => cases first
  | cons char text ih =>
    rw [List.cons_append]
    cases delimits : isDelimiter char with
    | true =>
      -- a delimiter in front changes neither text
      rw [runs_cons_delimiter delimits] at first ⊢
      exact ih first
    | false =>
      rw [runs_cons_free delimits] at first ⊢
      obtain ⟨rfl, rfl⟩ := List.cons.inj first
      exact ⟨_, _, rfl, List.cons_prefix_cons.mpr ⟨rfl, Runs.first_ofText_append ..⟩⟩

/-- Where a text stands behind a delimiter or begins with one, or where nothing comes before it, its
first run begins a run of the whole. -/
theorem first_runs_infix {before text run : List Char} {rest : List (List Char)}
    (apart : Apart isDelimiter before text) (first : runs isDelimiter text = run :: rest)
    (behind : List Char) :
    ∃ longer ∈ runs isDelimiter (before ++ text ++ behind), run <+: longer := by
  have whole : Apart isDelimiter before (text ++ behind) := by
    refine apart.imp_right (Or.imp_right ?_)
    rintro ⟨delimiter, more, rfl, delimits⟩
    exact ⟨delimiter, more ++ behind, rfl, delimits⟩
  obtain ⟨longer, later, split, begins⟩ := first_runs_append first behind
  rw [List.append_assoc, runs_append whole, split]
  exact ⟨longer, List.mem_append_right _ List.mem_cons_self, begins⟩

end Concordance.Text
