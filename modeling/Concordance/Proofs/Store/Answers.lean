import Concordance.Proofs.Store.TermQueries

/-!
# The answers of a store

What a store answers is settled by its archive, by what its identifiers refer to and by the records
of its log. So two stores that agree on the first two answer alike, even if the log of one of them
has grown: the records of the shorter log are read from both in the same way.
-/
namespace Concordance

/-- One store answers every question as the other one does. -/
structure Store.SameAnswers (store : Store) (disk : Disk) (other : Store) (otherDisk : Disk) :
    Prop where
  offsetOf? : ∀ id, other.offsetOf? id = store.offsetOf? id
  ownersOf : ∀ offset, other.ownersOf offset = store.ownersOf offset
  stringFor : ∀ id, other.stringFor otherDisk id = store.stringFor disk id
  offsetsFor : ∀ term, other.terms.offsetsFor term = store.terms.offsetsFor term
  offsetsForStart : ∀ start, other.terms.offsetsForStart start = store.terms.offsetsForStart start
  identifiersFor : ∀ query how,
    other.identifiersFor otherDisk query how = store.identifiersFor disk query how
  stringsFor : ∀ query, other.stringsFor otherDisk query = store.stringsFor disk query
  identifiersForTerms : ∀ terms mode,
    other.identifiersForTerms terms mode = store.identifiersForTerms terms mode
  stringsForTerms : ∀ terms mode,
    other.stringsForTerms otherDisk terms mode = store.stringsForTerms disk terms mode

/-! ### Reading the records -/

namespace LogReader

variable {reader other : LogReader} {log longer : Bytes} {offset : Offset}

theorem readIf_eq_of_prefix {content : Bytes} (shows : reader.Shows log)
    (other_shows : other.Shows longer) (older : log <+: longer)
    (has : HasRecord log offset content) (accept : UInt64 → Bool) :
    other.readIf offset accept = reader.readIf offset accept := by
  rw [readIf_eq shows has, readIf_eq other_shows (has.mono older)]

theorem readString_eq_of_prefix {content : Bytes} (shows : reader.Shows log)
    (other_shows : other.Shows longer) (older : log <+: longer)
    (has : HasRecord log offset content) : other.readString offset = reader.readString offset := by
  unfold readString
  rw [read_eq shows has, read_eq other_shows (has.mono older)]

end LogReader

theorem mapM_congr {α β ε : Type} {f g : α → Except ε β} {list : List α}
    (same : ∀ element ∈ list, f element = g element) : list.mapM f = list.mapM g := by
  induction list with
  | nil => rfl
  | cons element rest ih =>
    obtain ⟨here, later⟩ := List.forall_mem_cons.mp same
    rw [List.mapM_cons, List.mapM_cons, here, ih later]

namespace Store

variable {config : Config} {disk disk' : Disk} {log longer : Bytes} {archive : Archive}
  {store store' : Store}

/-! ### Candidates -/

theorem recorded_of_mem_candidates (coherent : Coherent config disk log archive store)
    {query : String} {how : Matching} {offset : Offset}
    (member : offset ∈ store.candidates query how) : ∃ content, HasRecord log offset content := by
  obtain ⟨string, archived, _⟩ := (mem_candidates coherent.searchable).mp member
  exact ⟨_, coherent.searchable.hasRecord archived⟩

theorem recorded_of_mem_offsetsForTerms (coherent : Coherent config disk log archive store)
    {terms : List String} {mode : TermMode} {offset : Offset}
    (member : offset ∈ store.offsetsForTerms terms mode) :
    ∃ content, HasRecord log offset content := by
  obtain ⟨string, archived, _⟩ := (mem_offsetsForTerms_archived coherent.searchable).mp member
  exact ⟨_, coherent.searchable.hasRecord archived⟩

/-! ### Two stores -/

theorem verify_eq_of_prefix {reader other : LogReader} (shows : reader.Shows log)
    (other_shows : other.Shows longer) (older : log <+: longer) (query : String) (how : Matching)
    (found : List (Offset × String)) {candidates : List Offset}
    (recorded : ∀ offset ∈ candidates, ∃ content, HasRecord log offset content) :
    verify other query how found candidates = verify reader query how found candidates := by
  induction candidates generalizing found with
  | nil => rfl
  | cons offset rest ih =>
    obtain ⟨⟨content, has⟩, later⟩ := List.forall_mem_cons.mp recorded
    unfold verify
    -- the first candidate is read in the same way from both logs
    rw [LogReader.readIf_eq_of_prefix shows other_shows older has]
    simp only [ih _ later]

/-- What an identifier refers to is read in the same way from the longer log, whatever has been
archived there. -/
theorem stringFor_eq {other : Archive} (coherent : Coherent config disk log archive store)
    (coherent' : Coherent config disk' longer other store') (older : log <+: longer) {id : LinkId}
    (same : store'.links.referenceOf? id = store.links.referenceOf? id) :
    store'.stringFor disk' id = store.stringFor disk id := by
  obtain ⟨reader, opened, shows⟩ := reader_eq_ok coherent
  obtain ⟨reader', opened', shows'⟩ := reader_eq_ok coherent'
  unfold stringFor getString ContentLog.readString
  rw [same, opened, opened']
  cases found : store.links.referenceOf? id with
  | none => rfl
  | some offset =>
    obtain ⟨string, has, _⟩ := coherent.linked.stored id offset found
    dsimp only
    rw [LogReader.readString_eq_of_prefix shows shows' older has]

section Two

variable (coherent : Coherent config disk log archive store)
  (coherent' : Coherent config disk' longer archive store') (older : log <+: longer)

include coherent coherent'

theorem offsetsAt_eq (key : Bytes) : store'.terms.offsetsAt key = store.terms.offsetsAt key :=
  (coherent'.indexed.listed key).trans (coherent.indexed.listed key).symm

theorem candidates_eq (query : String) (how : Matching) :
    store'.candidates query how = store.candidates query how := by
  unfold candidates
  rw [coherent.config_eq, coherent'.config_eq]
  cases config.tokenizer.firstTerm? query with
  | none => rfl
  | some first =>
    dsimp only
    rw [TermIndex.offsetsFor_eq, TermIndex.offsetsFor_eq, offsetsAt_eq coherent coherent',
      TermIndex.offsetsForStart_eq coherent'.indexed.formed coherent.indexed.formed
        (offsetsAt_eq coherent coherent')]

theorem offsetsForTerms_eq (terms : List String) (mode : TermMode) :
    store'.offsetsForTerms terms mode = store.offsetsForTerms terms mode := by
  have each (term : String) : store'.offsetsForTerm term = store.offsetsForTerm term := by
    rw [offsetsForTerm, offsetsForTerm, TermIndex.offsetsFor_eq, TermIndex.offsetsFor_eq,
      offsetsAt_eq coherent coherent']
  have more (found : Std.TreeSet Offset) (terms : List String) :
      store'.offsetsForMore mode found terms = store.offsetsForMore mode found terms := by
    induction terms generalizing found with
    | nil => rfl
    | cons term rest ih => rw [offsetsForMore, offsetsForMore, each, ih]
  cases terms with
  | nil => rfl
  | cons term rest => rw [offsetsForTerms, offsetsForTerms, each, more]

include older

theorem verifiedCandidates_eq (query : String) (how : Matching) :
    store'.verifiedCandidates disk' query how = store.verifiedCandidates disk query how := by
  obtain ⟨reader, opened, shows⟩ := reader_eq_ok coherent
  obtain ⟨reader', opened', shows'⟩ := reader_eq_ok coherent'
  unfold verifiedCandidates
  rw [candidates_eq coherent coherent', opened, opened']
  have recorded (offset : Offset) (member : offset ∈ store.candidates query how) :
      ∃ content, HasRecord log offset content := recorded_of_mem_candidates coherent member
  cases candidates : store.candidates query how with
  | nil => rfl
  | cons first rest =>
    dsimp only
    rw [candidates] at recorded
    exact verify_eq_of_prefix shows shows' older query how [] recorded

theorem stringsForTerms_eq (terms : List String) (mode : TermMode) :
    store'.stringsForTerms disk' terms mode = store.stringsForTerms disk terms mode := by
  obtain ⟨reader, opened, shows⟩ := reader_eq_ok coherent
  obtain ⟨reader', opened', shows'⟩ := reader_eq_ok coherent'
  unfold stringsForTerms
  rw [offsetsForTerms_eq coherent coherent', opened, opened']
  have alike (offset : Offset) (member : offset ∈ (store.offsetsForTerms terms mode).toList) :
      reader'.readString offset = reader.readString offset := by
    rw [Std.TreeSet.mem_toList] at member
    obtain ⟨content, has⟩ := recorded_of_mem_offsetsForTerms coherent member
    exact LogReader.readString_eq_of_prefix shows shows' older has
  cases offsets : (store.offsetsForTerms terms mode).toList with
  | nil => rfl
  | cons first rest =>
    dsimp only
    rw [offsets] at alike
    -- all records are there in both logs
    rw [mapM_congr alike]

/-- Stores with one archive and the same references answer alike, however far the log of the second
one has grown. -/
theorem sameAnswers
    (same : ∀ id, store'.links.referenceOf? id = store.links.referenceOf? id) :
    SameAnswers store disk store' disk' := by
  -- the references settle the owners, and the archive settles where strings are found
  have owners (offset : Offset) : store'.ownersOf offset = store.ownersOf offset :=
    LinkIndex.ownersOf_eq coherent'.linked.sound coherent.linked.sound same offset
  have owners_all (offsets : List Offset) :
      store'.ownersOfAll offsets = store.ownersOfAll offsets := by
    rw [ownersOfAll, ownersOfAll, funext owners]
  have verified := verifiedCandidates_eq coherent coherent' older
  exact {
    offsetOf? := same
    ownersOf := owners
    stringFor := fun id => stringFor_eq coherent coherent' older (same id)
    offsetsFor := fun _ => offsetsAt_eq coherent coherent' _
    offsetsForStart := TermIndex.offsetsForStart_eq coherent'.indexed.formed
      coherent.indexed.formed (offsetsAt_eq coherent coherent')
    identifiersFor := fun query how => by
      simp only [identifiersFor, verified, owners_all]
    stringsFor := fun query => by
      simp only [stringsFor, verified]
    identifiersForTerms := fun terms mode => by
      rw [identifiersForTerms, identifiersForTerms, offsetsForTerms_eq coherent coherent',
        owners_all]
    stringsForTerms := stringsForTerms_eq coherent coherent' older }

end Two

end Store

end Concordance
