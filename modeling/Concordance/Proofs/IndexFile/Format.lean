import Concordance.Proofs.IndexFile.LinkFile
import Concordance.Proofs.IndexFile.TermFile

/-!
# What the readers accept

The reader of either index file accepts exactly the bytes that spell a file, and bytes spell one
file at most. Sizes and counts are any words, so each part that is taken off the front has to be
compared with what is left: a word or a byte string is taken if and only if it stands there as a
whole. A file that is cut short is still a file if it is cut between two records, and then it is the
file of the records before the cut. Everything else is refused with a read error.
-/
namespace Concordance

namespace IndexFile

variable {step : Step} {bytes rest : Bytes}

/-! ### Taking something off the front -/

theorem takeWord_eq_ok_iff {word : UInt64} :
    takeWord step bytes = .ok (word, rest) ↔ bytes = Word.toBytes word ++ rest := by
  constructor
  · intro taken
    simp only [takeWord] at taken
    split at taken
    · cases taken
    · next long =>
      have full : (bytes.take Word.width).length = Word.width := by
        have most := List.length_take_le Word.width bytes
        omega
      obtain ⟨rfl, rfl⟩ := Prod.mk.inj (Except.ok.inj taken)
      rw [Word.toBytes_ofBytes _ full, List.take_append_drop]
  · rintro rfl
    exact takeWord_append word rest

theorem takeWord_error {error : StoreError} (failed : takeWord step bytes = .error error) :
    ∃ cause, error = .read step cause := by
  simp only [takeWord] at failed
  split at failed
  · exact ⟨_, (Except.error.inj failed).symm⟩
  · cases failed

/-- No record is left exactly at the end of the file. -/
theorem takeFirst_eq_none_iff : takeFirst step bytes = .ok none ↔ bytes = [] := by
  simp only [takeFirst, List.length_take]
  constructor
  · intro ended
    split at ended
    · next nothing =>
      simp only [Word.width] at nothing
      exact List.length_eq_zero_iff.mp (by omega)
    · split at ended
      · cases ended
      · cases ended
  · rintro rfl
    rfl

theorem takeFirst_eq_some_iff {word : UInt64} :
    takeFirst step bytes = .ok (some (word, rest)) ↔ bytes = Word.toBytes word ++ rest := by
  constructor
  · intro taken
    simp only [takeFirst] at taken
    split at taken
    · cases taken
    · split at taken
      · cases taken
      · next long =>
        have full : (bytes.take Word.width).length = Word.width := by
          have most := List.length_take_le Word.width bytes
          omega
        obtain ⟨rfl, rfl⟩ := Prod.mk.inj (Option.some.inj (Except.ok.inj taken))
        rw [Word.toBytes_ofBytes _ full, List.take_append_drop]
  · rintro rfl
    exact takeFirst_append word rest

theorem takeFirst_error {error : StoreError} (failed : takeFirst step bytes = .error error) :
    ∃ cause, error = .read step cause := by
  simp only [takeFirst] at failed
  split at failed
  · cases failed
  · split at failed
    · exact ⟨_, (Except.error.inj failed).symm⟩
    · cases failed

/-- Bytes are taken exactly if as many are there, however large the size is. -/
theorem takeBytes_eq_ok_iff {size : UInt64} {head : Bytes} :
    takeBytes step size bytes = .ok (head, rest) ↔
      head.length = size.toNat ∧ bytes = head ++ rest := by
  simp only [takeBytes]
  constructor
  · intro taken
    split at taken
    · next full =>
      obtain ⟨rfl, rfl⟩ := Prod.mk.inj (Except.ok.inj taken)
      exact ⟨full, (List.take_append_drop ..).symm⟩
    · cases taken
  · rintro ⟨full, rfl⟩
    rw [← full, List.take_left, List.drop_left, if_pos rfl]

theorem takeBytes_error {size : UInt64} {error : StoreError}
    (failed : takeBytes step size bytes = .error error) : ∃ cause, error = .read step cause := by
  simp only [takeBytes] at failed
  split at failed
  · cases failed
  · exact ⟨_, (Except.error.inj failed).symm⟩

/-- Words are taken exactly if as many are there, however large the count is. -/
theorem takeWords_eq_ok_iff {count : Nat} {read words : List UInt64} :
    takeWords step read count bytes = .ok (words, rest) ↔
      ∃ more, words = read.reverse ++ more ∧ more.length = count ∧
        bytes = more.flatMap Word.toBytes ++ rest := by
  constructor
  · intro taken
    -- each turn of the loop takes one word off the front and puts it behind those before
    induction count generalizing read bytes with
    | zero =>
      obtain ⟨rfl, rfl⟩ := Prod.mk.inj (Except.ok.inj taken)
      exact ⟨[], (List.append_nil _).symm, rfl, rfl⟩
    | succ count ih =>
      rw [takeWords] at taken
      split at taken
      · cases taken
      · next word left first =>
        obtain ⟨more, rfl, counted, rest_eq⟩ := ih taken
        refine ⟨word :: more, by simp, congrArg (· + 1) counted, ?_⟩
        rw [takeWord_eq_ok_iff.mp first, rest_eq, List.flatMap_cons, List.append_assoc]
  · rintro ⟨more, rfl, rfl, rfl⟩
    exact takeWords_append read more rest

theorem takeWords_error {count : Nat} {read : List UInt64} {error : StoreError}
    (failed : takeWords step read count bytes = .error error) :
    ∃ cause, error = .read step cause := by
  induction count generalizing read bytes with
  | zero => cases failed
  | succ count ih =>
    rw [takeWords] at failed
    split at failed
    · next first =>
      obtain rfl := Except.error.inj failed
      exact takeWord_error first
    · exact ih failed

/-! ### Reading records -/

/-- What can come of looking for a record at the front. -/
inductive Outcome {Record : Type} (Fits : Record → Prop) (spelling : Record → Bytes) :
    Bytes → Except StoreError (Option (Record × Bytes)) → Prop
  /-- There is no record exactly at the end of the file. -/
  | ended : Outcome Fits spelling [] (.ok none)
  /-- The record that is found is spelled there. -/
  | found {record : Record} (rest : Bytes) :
    Fits record → Outcome Fits spelling (spelling record ++ rest) (.ok (some (record, rest)))
  | failed {bytes : Bytes} (step : Step) (cause : Cause) :
    Outcome Fits spelling bytes (.error (.read step cause))

/-- A reader finds nothing but what is spelled, and it finds whatever is spelled. -/
structure Recognizes {Record : Type} (take : Bytes → Except StoreError (Option (Record × Bytes)))
    (Fits : Record → Prop) (spelling : Record → Bytes) : Prop where
  outcome (bytes : Bytes) : Outcome Fits spelling bytes (take bytes)
  ends : take [] = .ok none
  finds {record : Record} (fits : Fits record) (rest : Bytes) :
    take (spelling record ++ rest) = .ok (some (record, rest))

section Records

variable {Record : Type} {take : Bytes → Except StoreError (Option (Record × Bytes))}
  {shorter : ∀ {bytes record rest}, take bytes = .ok (some (record, rest)) →
    rest.length < bytes.length}
  {Fits : Record → Prop} {spelling : Record → Bytes}

/-- The records of a file are read exactly if the file consists of them. -/
theorem takeAll_eq_ok_iff (recognizes : Recognizes take Fits spelling)
    {read records : List Record} :
    takeAll take shorter read bytes = .ok records ↔
      ∃ more, records = read.reverse ++ more ∧ (∀ record ∈ more, Fits record) ∧
        bytes = more.flatMap spelling := by
  constructor
  · intro taken
    -- each turn of the loop takes one record off the front and puts it behind those before
    fun_induction takeAll take shorter read bytes with
    | case1 read bytes error failed => cases taken
    | case2 read bytes ended =>
      obtain rfl := Except.ok.inj taken
      have outcome := recognizes.outcome bytes
      rw [ended] at outcome
      cases outcome
      exact ⟨[], (List.append_nil _).symm, nofun, rfl⟩
    | case3 read bytes record rest found ih =>
      obtain ⟨more, rfl, fits, rest_eq⟩ := ih taken
      have outcome := recognizes.outcome bytes
      rw [found] at outcome
      cases outcome with
      | found _ fits_first =>
        refine ⟨record :: more, by simp, List.forall_mem_cons.mpr ⟨fits_first, fits⟩, ?_⟩
        rw [rest_eq, List.flatMap_cons]
  · rintro ⟨more, rfl, fits, rfl⟩
    have each : ∀ record ∈ more, ∀ rest,
        take (spelling record ++ rest) = .ok (some (record, rest)) := by
      intro record member rest
      exact recognizes.finds (fits record member) rest
    exact takeAll_flatMap shorter spelling recognizes.ends read more each

theorem takeAll_of_error {read : List Record} {error : StoreError}
    (failed : take bytes = .error error) : takeAll take shorter read bytes = .error error := by
  rw [takeAll]
  split
  · next first =>
    rw [first] at failed
    rw [Except.error.inj failed]
  · next ended => simp [failed] at ended
  · next found => simp [failed] at found

theorem takeAll_error (recognizes : Recognizes take Fits spelling) {read : List Record}
    {error : StoreError} (failed : takeAll take shorter read bytes = .error error) :
    ∃ step cause, error = .read step cause := by
  fun_induction takeAll take shorter read bytes with
  | case1 read bytes first here =>
    obtain rfl := Except.error.inj failed
    have outcome := recognizes.outcome bytes
    rw [here] at outcome
    cases outcome with
    | failed step cause => exact ⟨step, cause, rfl⟩
  | case2 read bytes ended => cases failed
  | case3 read bytes record rest found ih => exact ih failed

theorem spelling_take (spelling : Record → Bytes) (records : List Record) (count : Nat) :
    (records.take count).flatMap spelling <+: records.flatMap spelling := by
  refine ⟨(records.drop count).flatMap spelling, ?_⟩
  rw [← List.flatMap_append, List.take_append_drop]

/-- Bytes begin with those of other records only if they begin with the same records: where one
record is spelled, no other record and no end of the file is. -/
theorem prefix_of_spelling_prefix (recognizes : Recognizes take Fits spelling)
    {left right : List Record} (left_fits : ∀ record ∈ left, Fits record)
    (right_fits : ∀ record ∈ right, Fits record)
    (begins : left.flatMap spelling <+: right.flatMap spelling) : left <+: right := by
  induction left generalizing right with
  | nil => exact List.nil_prefix
  | cons record more ih =>
    obtain ⟨fits_first, fits_more⟩ := List.forall_mem_cons.mp left_fits
    obtain ⟨tail, same⟩ := begins
    rw [List.flatMap_cons, List.append_assoc] at same
    have found : take (right.flatMap spelling) =
        .ok (some (record, more.flatMap spelling ++ tail)) := by
      rw [← same]
      exact recognizes.finds fits_first _
    cases right with
    | nil =>
      rw [List.flatMap_nil, recognizes.ends] at found
      cases found
    | cons other later =>
      obtain ⟨fits_other, fits_later⟩ := List.forall_mem_cons.mp right_fits
      rw [List.flatMap_cons, recognizes.finds fits_other] at found
      obtain ⟨rfl, rest_eq⟩ := Prod.mk.inj (Option.some.inj (Except.ok.inj found))
      have further := ih fits_more fits_later ⟨tail, rest_eq.symm⟩
      exact (List.prefix_append_right_inj [other]).mpr further

end Records

/-! ### Reading files -/

/-- What makes a reader exact for a format in which `file` is spelled `spelling file`, and
`first file count` is what is left of a file after its first `count` records. -/
structure Exact {File : Type} (decode : Bytes → Except StoreError File) (Fits : File → Prop)
    (spelling : File → Bytes) (first : File → Nat → File) : Prop where
  /-- The reader accepts what spells a file, and gives that file. -/
  accepts {bytes : Bytes} {file : File} :
    decode bytes = .ok file ↔ Fits file ∧ bytes = spelling file
  /-- Bytes spell one file at most. -/
  unique {left right : File} :
    Fits left → Fits right → spelling left = spelling right → left = right
  /-- All other bytes give a read error. -/
  refuses {bytes : Bytes} : (∀ file, Fits file → bytes ≠ spelling file) →
    ∃ step cause, decode bytes = .error (.read step cause)
  /-- A file that is cut short is accepted exactly if the cut is behind one of the records, or
  before the first of them, and then the records before the cut are read. -/
  cut {file kept : File} {size : Nat} : Fits file → size ≤ (spelling file).length →
    (decode ((spelling file).take size) = .ok kept ↔
      ∃ count, size = (spelling (first file count)).length ∧ kept = first file count)

/-- A reader is exact if it accepts what spells a file, and no file begins like another one except
with the records of that one. -/
theorem exact_of {File : Type} {decode : Bytes → Except StoreError File} {Fits : File → Prop}
    {spelling : File → Bytes} {first : File → Nat → File}
    (accepts : ∀ {bytes file}, decode bytes = .ok file ↔ Fits file ∧ bytes = spelling file)
    (fails : ∀ {bytes error}, decode bytes = .error error →
      ∃ step cause, error = .read step cause)
    (shortened : ∀ {left right}, Fits left → Fits right → spelling left <+: spelling right →
      ∃ count, left = first right count)
    (fits_first : ∀ {file}, Fits file → ∀ count, Fits (first file count))
    (begins : ∀ file count, spelling (first file count) <+: spelling file) :
    Exact decode Fits spelling first where
  accepts := accepts
  unique {left right} left_fits right_fits same := by
    have read := accepts.mpr ⟨left_fits, rfl⟩
    rw [same, accepts.mpr ⟨right_fits, rfl⟩] at read
    exact (Except.ok.inj read).symm
  refuses {bytes} other := by
    cases read : decode bytes with
    | ok file =>
      obtain ⟨fits, spelled⟩ := accepts.mp read
      exact absurd spelled (other file fits)
    | error error =>
      obtain ⟨step, cause, rfl⟩ := fails read
      exact ⟨step, cause, rfl⟩
  cut {file kept size} fits within := by
    constructor
    · intro read
      obtain ⟨kept_fits, spelled⟩ := accepts.mp read
      obtain ⟨count, rfl⟩ := shortened kept_fits fits (spelled ▸ List.take_prefix ..)
      refine ⟨count, ?_, rfl⟩
      rw [← spelled, List.length_take, Nat.min_eq_left within]
    · rintro ⟨count, rfl, rfl⟩
      rw [← List.prefix_iff_eq_take.mp (begins file count)]
      exact accepts.mpr ⟨fits_first fits count, rfl⟩

end IndexFile

open IndexFile

/-! ### The format of the term file -/

namespace TermRecord

/-- The bytes of a record: the size of the term, the term, the number of its offsets, and the
offsets. -/
def spelling (record : TermRecord) : Bytes :=
  Word.toBytes (UInt64.ofNat record.term.length) ++ (record.term ++
    (Word.toBytes (UInt64.ofNat record.offsets.length) ++ record.offsets.flatMap Word.toBytes))

theorem outcome_take? (bytes : Bytes) : Outcome Fits spelling bytes (take? bytes) := by
  unfold take?
  split
  · next first =>
    obtain ⟨cause, rfl⟩ := takeFirst_error first
    exact .failed _ cause
  · next first =>
    rw [takeFirst_eq_none_iff.mp first]
    exact .ended
  · next size afterSize first =>
    split
    · next term =>
      obtain ⟨cause, rfl⟩ := takeBytes_error term
      exact .failed _ cause
    · next term afterTerm termTaken =>
      split
      · next count =>
        obtain ⟨cause, rfl⟩ := takeWord_error count
        exact .failed _ cause
      · next count afterCount countTaken =>
        split
        · next offsets =>
          obtain ⟨cause, rfl⟩ := takeWords_error offsets
          exact .failed _ cause
        · next offsets rest offsetsTaken =>
          obtain ⟨sized, term_eq⟩ := takeBytes_eq_ok_iff.mp termTaken
          obtain ⟨_, rfl, counted, offsets_eq⟩ := takeWords_eq_ok_iff.mp offsetsTaken
          -- size and count are words, since they have been read as such
          have fits : Fits ⟨term, offsets⟩ :=
            ⟨sized ▸ size.toNat_lt_size, counted ▸ count.toNat_lt_size⟩
          have spelled : bytes = spelling ⟨term, offsets⟩ ++ rest := by
            rw [takeFirst_eq_some_iff.mp first, term_eq, takeWord_eq_ok_iff.mp countTaken,
              offsets_eq, spelling, sized, counted, UInt64.ofNat_toNat, UInt64.ofNat_toNat]
            simp only [List.append_assoc]
          rw [spelled]
          exact .found rest fits

theorem recognizes : Recognizes take? Fits spelling where
  outcome := outcome_take?
  ends := rfl
  finds {record} fits rest := by
    rw [spelling, ← encode_fields]
    exact take?_append fits rest

end TermRecord

namespace TermFile

/-- The sizes and counts of all records are words. -/
def Fits (file : TermFile) : Prop := ∀ record ∈ file.records, record.Fits

/-- The bytes of a file: the end of the log and then the records. -/
def spelling (file : TermFile) : Bytes :=
  Word.toBytes file.nextOffset ++ file.records.flatMap TermRecord.spelling

/-- The file with only the first records. -/
def first (file : TermFile) (count : Nat) : TermFile :=
  { file with records := file.records.take count }

theorem decode_eq_ok_iff {bytes : Bytes} {file : TermFile} :
    decode bytes = .ok file ↔ file.Fits ∧ bytes = file.spelling := by
  simp only [decode]
  constructor
  · intro read
    split at read
    · cases read
    · next nextOffset rest header =>
      split at read
      · cases read
      · next records taken =>
        obtain rfl := Except.ok.inj read
        obtain ⟨_, rfl, fits, rest_eq⟩ := (takeAll_eq_ok_iff TermRecord.recognizes).mp taken
        exact ⟨fits, by rw [takeWord_eq_ok_iff.mp header, rest_eq]; rfl⟩
  · rintro ⟨fits, rfl⟩
    have records : takeAll TermRecord.take? TermRecord.take?_length []
        (file.records.flatMap TermRecord.spelling) = .ok file.records :=
      (takeAll_eq_ok_iff TermRecord.recognizes).mpr ⟨file.records, rfl, fits, rfl⟩
    simp only [spelling, takeWord_append, records]

theorem decode_error {bytes : Bytes} {error : StoreError} (failed : decode bytes = .error error) :
    ∃ step cause, error = .read step cause := by
  simp only [decode] at failed
  split at failed
  · next header =>
    obtain rfl := Except.error.inj failed
    exact ⟨_, takeWord_error header⟩
  · split at failed
    · next records =>
      obtain rfl := Except.error.inj failed
      exact takeAll_error TermRecord.recognizes records
    · cases failed

/-- One file begins like another only if it has the first records of that one. -/
theorem eq_first_of_prefix {left right : TermFile} (left_fits : left.Fits)
    (right_fits : right.Fits) (begins : left.spelling <+: right.spelling) :
    ∃ count, left = right.first count := by
  obtain ⟨tail, same⟩ := begins
  rw [spelling, spelling, List.append_assoc] at same
  obtain ⟨header, records⟩ := List.append_inj same (by simp only [Word.length_toBytes])
  have shorter := prefix_of_spelling_prefix TermRecord.recognizes left_fits right_fits
    ⟨tail, records⟩
  refine ⟨left.records.length, ?_⟩
  rw [first, ← List.prefix_iff_eq_take.mp shorter, ← Word.toBytes_injective header]

theorem spelling_first (file : TermFile) (count : Nat) :
    (file.first count).spelling <+: file.spelling :=
  (List.prefix_append_right_inj _).mpr (spelling_take ..)

theorem exact_decode : Exact decode Fits spelling first :=
  exact_of decode_eq_ok_iff decode_error eq_first_of_prefix
    (fun fits _ record member => fits record (List.mem_of_mem_take member)) spelling_first

end TermFile

/-! ### The format of the link file -/

namespace LinkRecord

/-- The bytes of a record: the offset, the number of its owners, and the owners. -/
def spelling (record : LinkRecord) : Bytes :=
  Word.toBytes record.offset ++ (Word.toBytes (UInt64.ofNat record.ids.length) ++
    record.ids.flatMap Word.toBytes)

theorem outcome_take? (bytes : Bytes) : Outcome Fits spelling bytes (take? bytes) := by
  unfold take?
  split
  · next first =>
    obtain ⟨cause, rfl⟩ := takeFirst_error first
    exact .failed _ cause
  · next first =>
    rw [takeFirst_eq_none_iff.mp first]
    exact .ended
  · next offset afterOffset first =>
    split
    · next count =>
      obtain ⟨cause, rfl⟩ := takeWord_error count
      exact .failed _ cause
    · next count afterCount countTaken =>
      split
      · next ids =>
        obtain ⟨cause, rfl⟩ := takeWords_error ids
        exact .failed _ cause
      · next ids rest idsTaken =>
        obtain ⟨_, rfl, counted, ids_eq⟩ := takeWords_eq_ok_iff.mp idsTaken
        have fits : Fits ⟨offset, ids⟩ := by
          rw [Fits, counted]
          exact count.toNat_lt_size
        have spelled : bytes = spelling ⟨offset, ids⟩ ++ rest := by
          rw [takeFirst_eq_some_iff.mp first, takeWord_eq_ok_iff.mp countTaken, ids_eq, spelling,
            counted, UInt64.ofNat_toNat]
          simp only [List.append_assoc]
        rw [spelled]
        exact .found rest fits

theorem recognizes : Recognizes take? Fits spelling where
  outcome := outcome_take?
  ends := rfl
  finds {record} fits rest := by
    rw [spelling, ← encode_fields]
    exact take?_append fits rest

end LinkRecord

namespace LinkFile

/-- The counts of all records are words. -/
def Fits (file : LinkFile) : Prop := ∀ record ∈ file.records, record.Fits

/-- The bytes of a file are those of its records. -/
def spelling (file : LinkFile) : Bytes := file.records.flatMap LinkRecord.spelling

/-- The file with only the first records. -/
def first (file : LinkFile) (count : Nat) : LinkFile := ⟨file.records.take count⟩

theorem decode_eq_ok_iff {bytes : Bytes} {file : LinkFile} :
    decode bytes = .ok file ↔ file.Fits ∧ bytes = file.spelling := by
  simp only [decode]
  constructor
  · intro read
    split at read
    · cases read
    · next records taken =>
      obtain rfl := Except.ok.inj read
      obtain ⟨_, rfl, fits, bytes_eq⟩ := (takeAll_eq_ok_iff LinkRecord.recognizes).mp taken
      exact ⟨fits, bytes_eq⟩
  · rintro ⟨fits, rfl⟩
    have records : takeAll LinkRecord.take? LinkRecord.take?_length [] file.spelling =
        .ok file.records :=
      (takeAll_eq_ok_iff LinkRecord.recognizes).mpr ⟨file.records, rfl, fits, rfl⟩
    simp only [records]

theorem decode_error {bytes : Bytes} {error : StoreError} (failed : decode bytes = .error error) :
    ∃ step cause, error = .read step cause := by
  simp only [decode] at failed
  split at failed
  · next records =>
    obtain rfl := Except.error.inj failed
    exact takeAll_error LinkRecord.recognizes records
  · cases failed

/-- One file begins like another only if it has the first records of that one. -/
theorem eq_first_of_prefix {left right : LinkFile} (left_fits : left.Fits)
    (right_fits : right.Fits) (begins : left.spelling <+: right.spelling) :
    ∃ count, left = right.first count := by
  have shorter := prefix_of_spelling_prefix LinkRecord.recognizes left_fits right_fits begins
  refine ⟨left.records.length, ?_⟩
  rw [first, ← List.prefix_iff_eq_take.mp shorter]

theorem spelling_first (file : LinkFile) (count : Nat) :
    (file.first count).spelling <+: file.spelling :=
  spelling_take ..

theorem exact_decode : Exact decode Fits spelling first :=
  exact_of decode_eq_ok_iff decode_error eq_first_of_prefix
    (fun fits _ record member => fits record (List.mem_of_mem_take member)) spelling_first

end LinkFile

/-! ### Both readers -/

/-- Both readers accept exactly what is spelled in their format, read it in the only way, and refuse
everything else; a cut file is read up to the cut if that is between two records. The index that
is made of a file has every offset added under its term, or every reference set, in the order of
the file. -/
theorem IndexFile.readers_exact :
    Exact TermFile.decode TermFile.Fits TermFile.spelling TermFile.first ∧
      (∀ file : TermFile, file.index = TermIndex.empty.addAll file.additions) ∧
      Exact LinkFile.decode LinkFile.Fits LinkFile.spelling LinkFile.first ∧
      ∀ file : LinkFile, file.index = LinkIndex.empty.setAll file.settings :=
  ⟨TermFile.exact_decode, TermFile.index_eq, LinkFile.exact_decode, LinkFile.index_eq⟩

end Concordance
