import Concordance.Proofs.Store.Session
import Concordance.Proofs.Text.Encoding
import Concordance.Proofs.Tokenizer
import Concordance.Store.Search

/-!
# Searching for a string

What a query finds is what a scan of all current strings would find: an exact query the identifiers
whose string it is, a substring query those whose string contains it and has a term that begins with
the query's first term. Candidates are looked up in the term index, but since it lists the archived
strings under all of their terms, and every linked string that can be searched for is archived, none
is missed; and since candidates are compared with the query, none is found by mistake.
-/
namespace Concordance

namespace Matching

/-- A text matches a query. -/
def Holds : (how : Matching) → (content query : String) → Prop
  | .exact, content, query => content = query
  | .substring, content, query => query.toList <:+: content.toList

/-- A text with a certain term is looked up for a query with a certain first term. -/
def Leads : (how : Matching) → (first term : String) → Prop
  | .exact, first, term => term = first
  | .substring, first, term => first.toList <+: term.toList

/-- A text has a term under which it is looked up for a query. -/
def Reaches (how : Matching) (tokenizer : Tokenizer) (query content : String) : Prop :=
  ∃ first, tokenizer.firstTerm? query = some first ∧
    ∃ term ∈ tokenizer.split content, how.Leads first term

theorem contentFits_iff {how : Matching} {content query : String} :
    how.contentFits content query = true ↔ how.Holds content query := by
  cases how with
  | exact => exact beq_iff_eq
  | substring => exact String.contains_string_iff

/-- A text that contains another one is at least as long. -/
theorem size_le_of_holds {how : Matching} {content query : String}
    (holds : how.Holds content query) : Text.size query ≤ Text.size content := by
  cases how with
  | exact => exact Nat.le_of_eq (congrArg Text.size (Eq.symm holds))
  | substring =>
    rw [Text.size_eq_utf8Len, Text.size_eq_utf8Len]
    exact String.utf8Len_le_of_sublist holds.sublist

/-- No text that matches is left out because of its size. -/
theorem sizeFits_of_holds {how : Matching} {content query : String}
    (holds : how.Holds content query) (fits : Text.size content < UInt64.size) :
    how.sizeFits (UInt64.ofNat (Text.size content)) (UInt64.ofNat (Text.size query)) = true := by
  have shorter := size_le_of_holds holds
  cases how with
  | exact =>
    obtain rfl : content = query := holds
    exact beq_self_eq_true _
  | substring =>
    refine decide_eq_true (UInt64.le_iff_toNat_le.mpr ?_)
    rw [UInt64.toNat_ofNat_of_lt' fits, UInt64.toNat_ofNat_of_lt' (by omega)]
    exact shorter

end Matching

/-- The archived strings with a term that begins with a text. -/
theorem Indexed.mem_offsetsForStart {config : Config} {log : Bytes} {archive : Archive}
    {terms : TermIndex} (indexed : Indexed config log archive terms) {start : String}
    {offset : Offset} :
    offset ∈ terms.offsetsForStart start ↔
      ∃ string, (offset, string) ∈ archive ∧
        ∃ term ∈ config.tokenizer.split string, start.toList <+: term.toList := by
  rw [TermIndex.mem_offsetsForStart indexed.formed]
  constructor
  · rintro ⟨key, begins, listed⟩
    obtain ⟨string, archived, term, has, rfl⟩ := indexed.mem_offsetsAt.mp listed
    exact ⟨string, archived, term, has, Text.encode_isPrefix_iff.mp begins⟩
  · rintro ⟨string, archived, term, has, begins⟩
    exact ⟨Text.encode term, Text.encode_isPrefix_iff.mpr begins,
      indexed.mem_offsetsAt.mpr ⟨string, archived, term, has, rfl⟩⟩

variable {config : Config} {disk : Disk} {log : Bytes} {archive : Archive} {store : Store}

/-! ### Strings and offsets -/

namespace Searchable

theorem hasRecord (searchable : Searchable config disk log archive store) {offset : Offset}
    {string : String} (archived : (offset, string) ∈ archive) :
    HasRecord log offset (Text.encode string) :=
  searchable.indexed.stored (offset, string) archived

/-- An offset has the record of one string. -/
theorem string_unique (searchable : Searchable config disk log archive store) {offset : Offset}
    {string other : String} (left : HasRecord log offset (Text.encode string))
    (right : HasRecord log offset (Text.encode other)) : string = other :=
  Text.encode_injective (left.unique right searchable.bounded)

end Searchable

namespace Store

/-- The current string of an identifier is that of the record it refers to. -/
theorem stringFor_eq_ok_iff (coherent : Coherent config disk log archive store)
    (freely : store.ReadsFreely disk) {id : LinkId} {string : String} :
    store.stringFor disk id = .ok string ↔
      ∃ offset, store.links.referenceOf? id = some offset ∧
        HasRecord log offset (Text.encode string) := by
  rw [stringFor]
  constructor
  · intro read
    cases found : store.links.referenceOf? id with
    | none => simp [getString, found] at read
    | some offset =>
      obtain ⟨held, has, _⟩ := coherent.linked.stored id offset found
      rw [getString_eq_ok coherent freely found has] at read
      obtain rfl : held = string := Except.ok.inj read
      exact ⟨offset, rfl, has⟩
  · rintro ⟨offset, found, has⟩
    rw [getString_eq_ok coherent freely found has]

theorem mem_ownersOfAll (sound : store.links.Sound) {offsets : List Offset} {id : LinkId} :
    id ∈ store.ownersOfAll offsets ↔
      ∃ offset ∈ offsets, store.links.referenceOf? id = some offset := by
  rw [ownersOfAll, Std.TreeSet.mem_ofList, List.contains_iff_mem, List.mem_flatMap]
  exact exists_congr fun offset => and_congr_right fun _ => sound.inverse

/-- If offsets are found by the archived strings they hold, their owners are the identifiers whose
string can be searched for and is among these strings. -/
theorem mem_ownersOfAll_iff (coherent : Coherent config disk log archive store)
    (freely : store.ReadsFreely disk) {offsets : List Offset} {wanted : String → Prop}
    (found : ∀ offset, offset ∈ offsets ↔ ∃ string, (offset, string) ∈ archive ∧ wanted string)
    {id : LinkId} :
    id ∈ store.ownersOfAll offsets ↔
      ∃ string, store.stringFor disk id = .ok string ∧ config.Searches string ∧ wanted string := by
  simp only [mem_ownersOfAll coherent.linked.sound, found, stringFor_eq_ok_iff coherent freely]
  constructor
  · rintro ⟨offset, ⟨string, archived, good⟩, refers⟩
    exact ⟨string, ⟨offset, refers, coherent.searchable.hasRecord archived⟩,
      coherent.indexed.searched _ archived, good⟩
  · rintro ⟨string, ⟨offset, refers, has⟩, searches, good⟩
    -- what the identifier refers to is archived, since its string can be searched for
    obtain ⟨held, has', archived⟩ := coherent.linked.stored id offset refers
    obtain rfl := coherent.searchable.string_unique has has'
    exact ⟨offset, ⟨string, archived searches, good⟩, refers⟩

/-! ### Candidates -/

/-- The candidates of a query are the archived strings that it reaches. -/
theorem mem_candidates (searchable : Searchable config disk log archive store)
    {query : String} {how : Matching} {offset : Offset} :
    offset ∈ store.candidates query how ↔
      ∃ string, (offset, string) ∈ archive ∧ how.Reaches config.tokenizer query string := by
  unfold candidates Matching.Reaches
  rw [searchable.config_eq]
  cases config.tokenizer.firstTerm? query with
  | none => simp
  | some first =>
    simp only [Option.some.injEq, exists_eq_left']
    cases how with
    | exact =>
      dsimp only [Matching.Leads]
      rw [mem_distinct, TermIndex.offsetsFor, Array.mem_toList_iff, searchable.indexed.mem_posting]
      simp only [exists_eq_right]
    | substring =>
      dsimp only [Matching.Leads]
      rw [mem_distinct, searchable.indexed.mem_offsetsForStart]

/-! ### Looking at the candidates -/

/-- Looks at one candidate: its string, if it matches. -/
def check (reader : LogReader) (query : String) (how : Matching) (offset : Offset) :
    Except StoreError (Option String) :=
  match reader.readIf offset (how.sizeFits · (UInt64.ofNat (Text.size query))) with
  | .error error => .error error
  | .ok none => .ok none
  | .ok (some bytes) =>
    match LogReader.textOf offset bytes with
    | .error error => .error error
    | .ok content => .ok (if how.contentFits content query then some content else none)

section Verify

variable {reader : LogReader} {query : String} {how : Matching} {offset : Offset}

/-- Candidates are looked at one after the other. -/
theorem verify_eq_check (reader : LogReader) (query : String) (how : Matching)
    (found : List (Offset × String)) (offset : Offset) (rest : List Offset) :
    verify reader query how found (offset :: rest) =
      match check reader query how offset with
      | .error error => .error error
      | .ok none => verify reader query how found rest
      | .ok (some content) => verify reader query how ((offset, content) :: found) rest := by
  rw [verify, check]
  cases reader.readIf offset (how.sizeFits · (UInt64.ofNat (Text.size query))) with
  | error error => rfl
  | ok read =>
    cases read with
    | none => rfl
    | some bytes =>
      dsimp only
      cases LogReader.textOf offset bytes with
      | error error => rfl
      | ok content => cases fits : how.contentFits content query <;> simp [fits]

/-- What has been verified are the candidates that have been looked at and match. -/
theorem mem_verify {found verified : List (Offset × String)} {candidates : List Offset}
    (same : verify reader query how found candidates = .ok verified) {entry : Offset × String} :
    entry ∈ verified ↔ entry ∈ found ∨
      entry.1 ∈ candidates ∧ check reader query how entry.1 = .ok (some entry.2) := by
  induction candidates generalizing found with
  | nil =>
    cases same
    simp
  | cons offset rest ih =>
    rw [verify_eq_check] at same
    split at same
    · cases same
    · next unmatched =>
      -- the first candidate does not match
      rw [ih same]
      refine or_congr_right (and_congr_left fun matching => ?_)
      rw [List.mem_cons]
      refine ⟨.inr, fun member => member.resolve_left fun here => ?_⟩
      rw [here, unmatched] at matching
      cases matching
    · next content checked =>
      rw [ih same, List.mem_cons, List.mem_cons, or_assoc, or_and_right, or_left_comm]
      refine or_congr_right (or_congr_left ?_)
      constructor
      · rintro rfl
        exact ⟨rfl, checked⟩
      · rintro ⟨here, matching⟩
        rw [here, checked] at matching
        obtain rfl : content = entry.2 := Option.some.inj (Except.ok.inj matching)
        exact Prod.ext here rfl

/-- Verifying fails exactly if a candidate is refused. -/
theorem verify_eq_error_iff {found : List (Offset × String)} {candidates : List Offset} :
    (∃ error, verify reader query how found candidates = .error error) ↔
      ∃ offset ∈ candidates, ∃ error, check reader query how offset = .error error := by
  induction candidates generalizing found with
  | nil => simp [verify]
  | cons offset rest ih =>
    rw [verify_eq_check, List.exists_mem_cons_iff]
    cases checked : check reader query how offset with
    | error error => simp
    | ok read => cases read <;> simp [ih]

theorem check_of_verify_error {found : List (Offset × String)} {candidates : List Offset}
    {error : StoreError} (failed : verify reader query how found candidates = .error error) :
    ∃ offset ∈ candidates, check reader query how offset = .error error := by
  induction candidates generalizing found with
  | nil => cases failed
  | cons offset rest ih =>
    rw [verify_eq_check] at failed
    split at failed
    · next refused =>
      cases failed
      exact ⟨offset, List.mem_cons_self, refused⟩
    · obtain ⟨later, member, refused⟩ := ih failed
      exact ⟨later, List.mem_cons_of_mem _ member, refused⟩
    · obtain ⟨later, member, refused⟩ := ih failed
      exact ⟨later, List.mem_cons_of_mem _ member, refused⟩

/-- A candidate that is a text is kept exactly if it matches the query. -/
theorem eq_of_check {content : String} {kept : Option String} (shows : reader.Shows log)
    (has : HasRecord log offset (Text.encode content))
    (checked : check reader query how offset = .ok kept) :
    kept = if how.contentFits content query then some content else none := by
  have fits := has.length_lt shows.bounded
  rw [Text.length_encode] at fits
  unfold check at checked
  rw [LogReader.readIf_eq shows has] at checked
  cases read : LogReader.outcomeIf offset (Text.encode content)
      (how.sizeFits · (UInt64.ofNat (Text.size query))) with
  | error error =>
    rw [read] at checked
    cases checked
  | ok found =>
    have found_eq := LogReader.eq_of_outcomeIf read
    rw [Text.length_encode] at found_eq
    rw [read] at checked
    cases sized : how.sizeFits (UInt64.ofNat (Text.size content))
        (UInt64.ofNat (Text.size query)) with
    | false =>
      -- what does not fit by its size would not have matched either
      have differs : ¬how.contentFits content query = true := by
        intro matching
        have sized' := Matching.sizeFits_of_holds (Matching.contentFits_iff.mp matching) fits
        rw [sized] at sized'
        cases sized'
      rw [sized, if_neg Bool.false_ne_true] at found_eq
      rw [found_eq] at checked
      rw [if_neg differs]
      exact (Except.ok.inj checked).symm
    | true =>
      rw [sized, if_pos rfl] at found_eq
      rw [found_eq] at checked
      simp only [LogReader.textOf, Text.decode?_encode] at checked
      exact (Except.ok.inj checked).symm

theorem denies_of_check {content : String} {error : StoreError} (shows : reader.Shows log)
    (has : HasRecord log offset (Text.encode content))
    (failed : check reader query how offset = .error error) : reader.Denies error := by
  unfold check at failed
  split at failed
  · next refused =>
    cases failed
    exact LogReader.denies_of_readIf shows has refused
  · cases failed
  · next bytes read =>
    -- the bytes that have been read are a text
    rw [LogReader.readIf_eq shows has] at read
    have bytes_eq := LogReader.eq_of_outcomeIf read
    split at bytes_eq
    · obtain rfl := Option.some.inj bytes_eq
      simp only [LogReader.textOf, Text.decode?_encode] at failed
      cases failed
    · cases bytes_eq

end Verify

/-- Where the log can be opened, all candidates are verified. -/
theorem verifiedCandidates_eq_verify {reader : LogReader} {query : String} {how : Matching}
    (opened : store.log.reader disk = .ok reader) :
    store.verifiedCandidates disk query how =
      verify reader query how [] (store.candidates query how) := by
  unfold verifiedCandidates
  cases store.candidates query how with
  | nil => rfl
  | cons first rest => rw [opened]

/-- A window of the log has been refused, so not all of it can be read freely. -/
structure Denies (store : Store) (disk : Disk) (error : StoreError) : Prop where
  far : ¬store.ReadsFreely disk
  invalid : ∃ step, error = .read step .invalidArgument

theorem denies_of_reader {reader : LogReader} {error : StoreError}
    (opened : store.log.reader disk = .ok reader) (denied : reader.Denies error) :
    store.Denies disk error :=
  ⟨fun freely => denied.far (freely reader opened), denied.invalid⟩

section Verified

variable (searchable : Searchable config disk log archive store) {query : String} {how : Matching}

include searchable

/-- What a query finds, if it is not refused, are the archived strings that it reaches and that
match it. -/
theorem mem_verifiedCandidates {verified : List (Offset × String)}
    (same : store.verifiedCandidates disk query how = .ok verified) {offset : Offset}
    {content : String} :
    (offset, content) ∈ verified ↔
      (offset, content) ∈ archive ∧ how.Holds content query ∧
        how.Reaches config.tokenizer query content := by
  obtain ⟨reader, opened, shows⟩ := searchable.reader_eq_ok
  rw [verifiedCandidates_eq_verify opened] at same
  rw [mem_verify same, or_iff_right List.not_mem_nil, mem_candidates searchable]
  constructor
  · rintro ⟨⟨string, archived, reaches⟩, checked⟩
    have kept := eq_of_check shows (searchable.hasRecord archived) checked
    split at kept
    · next fits =>
      obtain rfl : content = string := Option.some.inj kept
      exact ⟨archived, Matching.contentFits_iff.mp fits, reaches⟩
    · cases kept
  · rintro ⟨archived, holds, reaches⟩
    have member : offset ∈ store.candidates query how :=
      (mem_candidates searchable).mpr ⟨content, archived, reaches⟩
    refine ⟨⟨content, archived, reaches⟩, ?_⟩
    cases checked : check reader query how offset with
    | error error =>
      -- verifying would have ended here
      obtain ⟨_, failed⟩ := verify_eq_error_iff.mpr ⟨offset, member, error, checked⟩
      rw [same] at failed
      cases failed
    | ok kept =>
      rw [eq_of_check shows (searchable.hasRecord archived) checked,
        if_pos (Matching.contentFits_iff.mpr holds)]

theorem denies_of_verifiedCandidates {error : StoreError}
    (failed : store.verifiedCandidates disk query how = .error error) :
    store.Denies disk error := by
  obtain ⟨reader, opened, shows⟩ := searchable.reader_eq_ok
  rw [verifiedCandidates_eq_verify opened] at failed
  obtain ⟨offset, member, refused⟩ := check_of_verify_error failed
  obtain ⟨string, archived, _⟩ := (mem_candidates searchable).mp member
  exact denies_of_reader opened (denies_of_check shows (searchable.hasRecord archived) refused)

end Verified

/-- What a query finds are the archived strings that it reaches and that match it. -/
theorem verifiedCandidates_spec (searchable : Searchable config disk log archive store)
    (freely : store.ReadsFreely disk) (query : String) (how : Matching) :
    ∃ verified, store.verifiedCandidates disk query how = .ok verified ∧
      ∀ offset content, (offset, content) ∈ verified ↔
        (offset, content) ∈ archive ∧ how.Holds content query ∧
          how.Reaches config.tokenizer query content := by
  cases verified : store.verifiedCandidates disk query how with
  | error error => exact absurd freely (denies_of_verifiedCandidates searchable verified).far
  | ok found =>
    exact ⟨found, rfl, fun _ _ => mem_verifiedCandidates searchable verified⟩

/-- A query finds the identifiers whose string can be searched for, is reached by the query and
matches it. -/
theorem identifiersFor_spec (coherent : Coherent config disk log archive store)
    (freely : store.ReadsFreely disk) (query : String) (how : Matching) :
    ∃ found, store.identifiersFor disk query how = .ok found ∧
      ∀ id, id ∈ found ↔ ∃ content, store.stringFor disk id = .ok content ∧
        config.Searches content ∧ how.Holds content query ∧
          how.Reaches config.tokenizer query content := by
  obtain ⟨verified, same, members⟩ := verifiedCandidates_spec coherent.searchable freely query how
  refine ⟨_, by rw [identifiersFor, same], fun id => mem_ownersOfAll_iff coherent freely ?_⟩
  intro offset
  simp only [List.mem_map, Prod.exists, exists_and_right, exists_eq_right, members]

/-! ### Exact and substring queries -/

/-- An exact query finds the identifiers whose string it is, provided that it is short enough and
has a term; otherwise it finds nothing. -/
theorem identifiersFor_exact (reached : Session.Reached config ⟨some store, disk⟩)
    (freely : store.ReadsFreely disk) (query : String) :
    ∃ found, store.identifiersFor disk query .exact = .ok found ∧
      (config.tokenizer.split query ≠ [] ∧ Text.size query < config.threshold.toNat →
        ∀ id, id ∈ found ↔ store.stringFor disk id = .ok query) ∧
      (¬(config.tokenizer.split query ≠ [] ∧ Text.size query < config.threshold.toNat) →
        found.isEmpty = true) := by
  obtain ⟨log, archive, intact⟩ := reached.intact
  have coherent := intact.coherent store rfl
  obtain ⟨found, same, members⟩ := identifiersFor_spec coherent freely query .exact
  refine ⟨found, same, ?_, ?_⟩
  · rintro ⟨some, short⟩ id
    rw [members]
    constructor
    · rintro ⟨content, current, _, rfl, _⟩
      exact current
    · intro current
      obtain ⟨first, rest, split⟩ := List.exists_cons_of_ne_nil some
      refine ⟨query, current, ⟨short, some⟩, rfl, first, ?_, first, ?_, rfl⟩
      · rw [Tokenizer.firstTerm?, split, List.head?_cons]
      · rw [split]
        exact List.mem_cons_self
  · intro ignored
    rw [Std.TreeSet.isEmpty_iff_forall_not_mem]
    intro id member
    obtain ⟨content, _, ⟨short, some⟩, rfl, _⟩ := (members id).mp member
    exact ignored ⟨some, short⟩

/-- An identifier that has moved on to another string is not found by its old one, which another
identifier still has. -/
theorem identifiersFor_exact_of_sample :
    ∃ found, sampleMoved.2.1.identifiersFor sampleMoved.2.2 "ab cd" .exact = .ok found ∧
      2 ∈ found ∧ 1 ∉ found := by
  obtain ⟨first, second⟩ := stringFor_moved
  obtain ⟨found, same, members, _⟩ :=
    identifiersFor_exact reached_moved readsFreely_moved "ab cd"
  have members := members (by decide +kernel)
  refine ⟨found, same, (members 2).mpr second, fun member => ?_⟩
  have current := (members 1).mp member
  rw [first] at current
  exact absurd current (by decide)

/-- A substring query finds the identifiers whose string is short enough, contains it and has a term
that begins with the query's first term. A query without a term finds nothing. -/
theorem identifiersFor_substring (reached : Session.Reached config ⟨some store, disk⟩)
    (freely : store.ReadsFreely disk) (query : String) :
    ∃ found, store.identifiersFor disk query .substring = .ok found ∧
      (∀ id, id ∈ found ↔ ∃ content, store.stringFor disk id = .ok content ∧
        Text.size content < config.threshold.toNat ∧ query.toList <:+: content.toList ∧
          ∃ first, config.tokenizer.firstTerm? query = some first ∧
            ∃ term ∈ config.tokenizer.split content, first.toList <+: term.toList) ∧
      (config.tokenizer.split query = [] → found.isEmpty = true) := by
  obtain ⟨log, archive, intact⟩ := reached.intact
  have coherent := intact.coherent store rfl
  obtain ⟨found, same, members⟩ := identifiersFor_spec coherent freely query .substring
  refine ⟨found, same, fun id => ?_, fun none => ?_⟩
  · rw [members]
    constructor
    · rintro ⟨content, current, ⟨short, _⟩, contains, reaches⟩
      exact ⟨content, current, short, contains, reaches⟩
    · rintro ⟨content, current, short, contains, first, head, term, has, begins⟩
      exact ⟨content, current, ⟨short, List.ne_nil_of_mem has⟩, contains, first, head, term, has,
        begins⟩
  · rw [Std.TreeSet.isEmpty_iff_forall_not_mem]
    intro id member
    obtain ⟨_, _, _, _, first, head, _⟩ := (members id).mp member
    rw [Tokenizer.firstTerm?, none] at head
    exact nomatch head

/-- One of two strings with the same terms contains the query. A query that begins in the middle of
a term finds no string, though one of them contains it. -/
theorem identifiersFor_substring_of_sample :
    (∃ found, sampleMoved.2.1.identifiersFor sampleMoved.2.2 "ab c" .substring = .ok found ∧
      2 ∈ found ∧ 1 ∉ found) ∧
    ∃ found, sampleMoved.2.1.identifiersFor sampleMoved.2.2 "b c" .substring = .ok found ∧
      2 ∉ found := by
  obtain ⟨first, second⟩ := stringFor_moved
  obtain ⟨found, same, members, _⟩ :=
    identifiersFor_substring reached_moved readsFreely_moved "ab c"
  obtain ⟨none, same', members', _⟩ :=
    identifiersFor_substring reached_moved readsFreely_moved "b c"
  refine ⟨⟨found, same, ?_, fun member => ?_⟩, none, same', fun member => ?_⟩
  · exact (members 2).mpr ⟨"ab cd", second, by decide +kernel⟩
  · obtain ⟨content, current, _, contains, _⟩ := (members 1).mp member
    rw [first] at current
    obtain rfl := Except.ok.inj current
    exact absurd contains (by decide)
  · obtain ⟨content, current, _, _, starts⟩ := (members' 2).mp member
    rw [second] at current
    obtain rfl := Except.ok.inj current
    exact absurd starts (by decide +kernel)

end Store

end Concordance
