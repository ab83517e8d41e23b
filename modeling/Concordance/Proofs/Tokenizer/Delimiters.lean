import Concordance.Proofs.Text.MaximalRuns
import Concordance.Proofs.Tokenizer

/-!
# Terms between delimiters

A text is divided at delimiters into its maximal runs of other characters. The same is said by a few
laws that do not speak of places: terms are filled and free of delimiters, nothing else is lost, a
delimiter keeps what is on its left apart from what is on its right, and a text without one is a
term. There is no second way to divide texts by these laws.
-/
namespace Concordance.Tokenizer

/-- The tokenizer that divides at each character of `delimiters`. -/
def between (delimiters : String) : Tokenizer := ⟨.delimiters, delimiters⟩

/-- `terms` are the maximal runs of characters in `text` that are no delimiters, in order. -/
def ListsRuns (delimiters text : String) (terms : List String) : Prop :=
  Text.Enumerates (Text.RunAt (· ∈ delimiters.toList) text.toList) (terms.map String.toList)

/-- The laws of a function that divides texts at delimiters. -/
structure Laws (delimiters : String) (divide : String → List String) : Prop where
  filled : ∀ text, ∀ term ∈ divide text, term ≠ ""
  free : ∀ text, ∀ term ∈ divide text, ∀ char ∈ term.toList, char ∉ delimiters.toList
  /-- The terms together are the text without its delimiters. -/
  kept : ∀ text, String.join (divide text) =
    String.ofList (text.toList.filter (· ∉ delimiters.toList))
  apart : ∀ left right, ∀ delimiter ∈ delimiters.toList,
    divide (left ++ String.singleton delimiter ++ right) = divide left ++ divide right
  whole : ∀ text, text ≠ "" → (∀ char ∈ text.toList, char ∉ delimiters.toList) →
    divide text = [text]

/-! ### The laws leave no choice -/

namespace Laws

variable {delimiters : String} {divide other : String → List String}

theorem divide_empty (laws : Laws delimiters divide) : divide "" = [] := by
  have joined := laws.kept ""
  cases terms : divide "" with
  | nil => rfl
  | cons term rest =>
    rw [terms] at joined
    have empty := congrArg String.toList joined
    simp only [String.toList_join, List.flatMap_cons, String.toList_ofList, String.toList_empty,
      List.filter_nil, List.append_eq_nil_iff, String.toList_eq_nil_iff] at empty
    exact absurd empty.1 (laws.filled "" term (by simp [terms]))

theorem unique (laws : Laws delimiters divide) (again : Laws delimiters other)
    (text : String) : divide text = other text := by
  -- a text is divided at any of its delimiters, and both sides of it are shorter
  induction length : text.toList.length using Nat.strong_induction_on generalizing text with
  | _ length shorter =>
  subst length
  by_cases free : ∀ char ∈ text.toList, char ∉ delimiters.toList
  · by_cases empty : text = ""
    · rw [empty, laws.divide_empty, again.divide_empty]
    · rw [laws.whole text empty free, again.whole text empty free]
  · push Not at free
    obtain ⟨delimiter, inside, delimits⟩ := free
    obtain ⟨left, right, split⟩ := List.append_of_mem inside
    have text_eq : text =
        String.ofList left ++ String.singleton delimiter ++ String.ofList right := by
      apply String.toList_injective
      simp [split]
    have before := shorter left.length (by simp [split]) (String.ofList left) (by simp)
    have behind := shorter right.length (by simp [split]; omega) (String.ofList right) (by simp)
    rw [text_eq, laws.apart _ _ delimiter delimits, again.apart _ _ delimiter delimits, before,
      behind]

end Laws

/-! ### The terms of a text -/

theorem divides_between {delimiters : String} {char : Char} :
    (between delimiters).divides char = true ↔ char ∈ delimiters.toList :=
  divides_iff

theorem not_divides_between {delimiters : String} {char : Char} :
    (between delimiters).divides char = false ↔ char ∉ delimiters.toList := by
  rw [← divides_between, Bool.not_eq_true]

theorem split_between (delimiters text : String) :
    (between delimiters).split text =
      (Text.runs (between delimiters).divides text.toList).map String.ofList := by
  rw [split_eq, parts_eq_runs rfl]

theorem toList_split_between (delimiters text : String) :
    ((between delimiters).split text).map String.toList =
      Text.runs (between delimiters).divides text.toList := by
  rw [split_between, List.map_map]
  simp [Function.comp_def]

theorem listsRuns_split (delimiters text : String) :
    ListsRuns delimiters text ((between delimiters).split text) := by
  rw [ListsRuns, toList_split_between]
  simpa only [divides_between] using Text.enumerates_runs (between delimiters).divides text.toList

theorem ListsRuns.unique {delimiters text : String} {terms others : List String}
    (lists : ListsRuns delimiters text terms) (again : ListsRuns delimiters text others) :
    terms = others :=
  List.map_injective_iff.mpr (fun _ _ => String.toList_injective)
    (Text.Enumerates.unique lists again)

theorem free_of_mem_split {delimiters text term : String}
    (member : term ∈ (between delimiters).split text) {char : Char} (inside : char ∈ term.toList) :
    char ∉ delimiters.toList := by
  rw [split_between] at member
  obtain ⟨run, listed, rfl⟩ := List.mem_map.mp member
  rw [String.toList_ofList] at inside
  exact not_divides_between.mp (Text.free_of_mem_runs listed inside)

theorem laws_split (delimiters : String) : Laws delimiters (between delimiters).split where
  filled _ _ := ne_empty_of_mem_split
  free _ _ member _ := free_of_mem_split member
  kept text := by
    apply String.toList_injective
    rw [String.toList_join, List.flatMap_def, toList_split_between, Text.flatten_runs,
      String.toList_ofList]
    apply List.filter_congr
    intro char _
    simp [← divides_between]
  apart left right delimiter delimits := by
    rw [split_between, String.toList_append, String.toList_append, String.toList_singleton,
      List.append_assoc, List.singleton_append, Text.runs_delimiter (divides_between.mpr delimits),
      List.map_append, ← split_between, ← split_between]
  whole text filled free := by
    rw [split_between, Text.runs_of_free (by simpa using filled), List.map_singleton,
      String.ofList_toList]
    intro char inside
    exact not_divides_between.mpr (free char inside)

/-- The laws describe exactly the maximal runs. -/
theorem lists_iff_laws {delimiters : String} {divide : String → List String} :
    (∀ text, ListsRuns delimiters text (divide text)) ↔ Laws delimiters divide := by
  constructor
  · intro lists
    have same : divide = (between delimiters).split :=
      funext fun text => (lists text).unique (listsRuns_split delimiters text)
    rw [same]
    exact laws_split delimiters
  · intro laws text
    rw [laws.unique (laws_split delimiters)]
    exact listsRuns_split delimiters text

/-- Terms that are joined with a delimiter are divided again. -/
theorem split_intercalate {delimiters : String} {delimiter : Char}
    (delimits : delimiter ∈ delimiters.toList) (text : String) :
    (between delimiters).split
        ((String.singleton delimiter).intercalate ((between delimiters).split text)) =
      (between delimiters).split text := by
  rw [split_between, String.toList_intercalate, String.toList_singleton, toList_split_between,
    Text.runs_intercalate (divides_between.mpr delimits)
      (fun _ => Text.ne_nil_of_mem_runs) (fun _ member _ => Text.free_of_mem_runs member),
    ← split_between]

/-- Only the set of delimiters counts. -/
theorem split_congr {delimiters others : String}
    (same : ∀ char, char ∈ others.toList ↔ char ∈ delimiters.toList) (text : String) :
    (between others).split text = (between delimiters).split text := by
  have divides : (between others).divides = (between delimiters).divides := by
    funext char
    rw [Bool.eq_iff_iff, divides_between, divides_between, same]
  rw [split_between, split_between, divides]

/-- What a tokenizer promises that divides at delimiters. -/
structure Delimited (delimiters : String) : Prop where
  runs : ∀ text, ListsRuns delimiters text ((between delimiters).split text)
  laws : Laws delimiters (between delimiters).split
  /-- The laws hold exactly for what lists the maximal runs of all texts. -/
  equivalent : ∀ divide : String → List String,
    (∀ text, ListsRuns delimiters text (divide text)) ↔ Laws delimiters divide
  /-- Nothing else obeys the laws. -/
  only : ∀ divide : String → List String,
    Laws delimiters divide → divide = (between delimiters).split
  /-- Terms that are joined with any delimiter are divided again. -/
  joined : ∀ text, ∀ delimiter ∈ delimiters.toList,
    (between delimiters).split
        ((String.singleton delimiter).intercalate ((between delimiters).split text)) =
      (between delimiters).split text
  /-- Neither the order of delimiters nor their repetition counts. -/
  unordered : ∀ others : String, (∀ char, char ∈ others.toList ↔ char ∈ delimiters.toList) →
    ∀ text, (between others).split text = (between delimiters).split text

/-- The terms of every text are its maximal runs between delimiters. -/
theorem delimited_between (delimiters : String) : Delimited delimiters where
  runs := listsRuns_split delimiters
  laws := laws_split delimiters
  equivalent _ := lists_iff_laws
  only _ laws := funext (laws.unique (laws_split delimiters))
  joined text _ delimits := split_intercalate delimits text
  unordered _ same := split_congr same

theorem delimited_between_sample :
    (between " ,").split "ab, cd" = ["ab", "cd"] ∧
      (between " ,").split "ab,cd" = ["ab", "cd"] ∧
      (between ", ,").split "ab, cd" = ["ab", "cd"] := by
  have delimited := delimited_between " ,"
  have terms : (between " ,").split "ab, cd" = ["ab", "cd"] := by
    have left := delimited.laws.apart "ab" " cd" ',' (by simp)
    have right := delimited.laws.apart "" "cd" ' ' (by simp)
    have first := delimited.laws.whole "ab" (by simp) (by simp)
    have last := delimited.laws.whole "cd" (by simp) (by simp)
    rw [first] at left
    rw [delimited.laws.divide_empty, last] at right
    exact left.trans (congrArg _ right)
  refine ⟨terms, ?_, ?_⟩
  · have again := delimited.joined "ab, cd" ',' (by simp)
    rwa [terms] at again
  · rw [delimited.unordered ", ," (by simp [or_comm]), terms]

end Concordance.Tokenizer
