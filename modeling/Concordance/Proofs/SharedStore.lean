import Concordance.Proofs.Store.Opening
import Concordance.Proofs.Store.Restoring
import Concordance.SharedStore
import Mathlib.Logic.Relation

/-!
# The shared store over time

A slot, what is saved of its store, and the files of the directory change one by one. What belongs
together is kept together: whatever fails leaves the store in the slot with all that has been linked
in it, closing it after saving loses nothing, and closing it without saving brings back what was
saved last. So the slot can be understood as a store that may be missing and a copy of it.
-/
namespace Concordance

open Disk (SameAt)
open Store (SameAnswers)

namespace SharedStore

variable {config : Config} {shared shared' : SharedStore} {disk after : Disk}

/-- Opening fills the slot or leaves it alone. -/
theorem openWith_cases {result : Except StoreError Unit}
    (run : shared.openWith config disk = (result, shared', after)) :
    (∃ error, result = .error error ∧ shared' = shared ∧
        Store.openSaved config disk = (.error error, after)) ∨
      ∃ store, result = .ok () ∧ shared' = ⟨some store⟩ ∧
        Store.openSaved config disk = (.ok store, after) := by
  unfold openWith at run
  split at run
  · next refused =>
    cases run
    exact .inl ⟨_, rfl, rfl, refused⟩
  · next opened =>
    cases run
    exact .inr ⟨_, rfl, rfl, opened⟩

theorem openWith_of_ok {store : Store}
    (opened : Store.openSaved config disk = (.ok store, after)) :
    shared.openWith config disk = (.ok (), ⟨some store⟩, after) := by
  rw [openWith, opened]

theorem load_eq {store loaded : Store} {result : Except StoreError Unit}
    (run : store.load disk = (result, loaded)) :
    load ⟨some store⟩ disk = (result, ⟨some loaded⟩, disk) := by
  rw [load, write]
  dsimp only
  rw [run]

/-- A store is closed once it has been saved, and stays if that fails. -/
theorem shutdown_cases {store : Store} {result : Except StoreError Unit}
    (closed : shutdown ⟨some store⟩ true disk = (result, shared', after)) :
    store.save disk = (result, after) ∧
      ((∃ error, result = .error error ∧ shared' = ⟨some store⟩) ∨
        result = .ok () ∧ shared' = .empty) := by
  unfold shutdown at closed
  dsimp only at closed
  rw [if_pos rfl] at closed
  split at closed
  · next refused =>
    cases closed
    exact ⟨refused, .inl ⟨_, rfl, rfl⟩⟩
  · next written =>
    cases closed
    exact ⟨written, .inr ⟨rfl, rfl⟩⟩

end SharedStore

/-! ### The copy -/

/-- What is known of the indexes that have been saved. -/
inductive Copy
  /-- Nobody has tried to save them. -/
  | never
  /-- The last attempt has saved those of a store as it was on a disk. -/
  | of (store : Store) (disk : Disk)
  /-- The last attempt has failed. -/
  | lost

/-- What is known after an attempt to save a store. -/
def Copy.afterSave (result : Except StoreError Unit) (store : Store) (disk : Disk) : Copy :=
  match result with
  | .ok _ => .of store disk
  | .error _ => .lost

/-- What is known is right: the files are missing, or they have what the store had when the log was
shorter. -/
inductive Copied (config : Config) (disk : Disk) (log : Bytes) : Copy → Prop
  | never (absent : (Store.indexFiles config).anyExist disk = false) :
      Copied config disk log .never
  | of {before : Bytes} {earlier : Archive} {store : Store} {old : Disk}
      (coherent : Coherent config old before earlier store) (older : before <+: log)
      (snapshot : Snapshot config disk before earlier store.terms store.links) :
      Copied config disk log (.of store old)
  | lost : Copied config disk log .lost

/-- The copy stays as long as the index files stay. -/
theorem Copied.congr {config : Config} {disk after : Disk} {log longer : Bytes} {copy : Copy}
    (copied : Copied config disk log copy) (terms : SameAt config.termPath disk after)
    (links : SameAt config.linkPath disk after) (grown : log <+: longer) :
    Copied config after longer copy := by
  cases copied with
  | never absent =>
    refine .never ?_
    rw [IndexFiles.anyExist, Store.indexFiles, Disk.pathExists_congr terms,
      Disk.pathExists_congr links]
    exact absent
  | of coherent older snapshot =>
    exact .of coherent (older.trans grown) (snapshot.congr terms links)
  | lost => exact .lost

/-! ### Sequences of operations -/

/-- A shared store, the disk, and what is known of the saved indexes. -/
structure SharedSession where
  shared : SharedStore
  disk : Disk
  copy : Copy

namespace SharedSession

/-- One use of an open store that may change something. -/
inductive Use : Store × Disk × Copy → Store × Disk × Copy → Prop
  | link {store store' : Store} {disk disk' : Disk} {copy : Copy} {id : LinkId} {string : String}
      {result : Except StoreError Offset}
      (linked : store.link id string disk = (result, store', disk')) :
      Use (store, disk, copy) (store', disk', copy)
  | load {store store' : Store} {disk : Disk} {copy : Copy} {result : Except StoreError Unit}
      (loaded : store.load disk = (result, store')) :
      Use (store, disk, copy) (store', disk, copy)
  | save {store : Store} {disk disk' : Disk} {copy : Copy} {result : Except StoreError Unit}
      (written : store.save disk = (result, disk')) :
      Use (store, disk, copy) (store, disk', .afterSave result store disk)

/-- One use of a shared store that may change something. Linking and loading are actions that run in
`SharedStore.write`, and an action may use the store as often as it likes. An action that runs in
`SharedStore.read` can only save. With an empty slot only the first two change anything. -/
inductive Step (config : Config) : SharedSession → SharedSession → Prop
  /-- Any attempt to open the store, also over one that is open. -/
  | opens {shared shared' : SharedStore} {disk disk' : Disk} {copy : Copy}
      {result : Except StoreError Unit}
      (opened : shared.openWith config disk = (result, shared', disk')) :
      Step config ⟨shared, disk, copy⟩ ⟨shared', disk', copy⟩
  /-- An attempt to open another one that fails. -/
  | refuses {shared shared' : SharedStore} {disk disk' : Disk} {copy : Copy} {other : Config}
      {error : StoreError} (refused : shared.openWith other disk = (.error error, shared', disk'))
      (undisturbed : Undisturbed config disk disk') :
      Step config ⟨shared, disk, copy⟩ ⟨shared', disk', copy⟩
  | write {shared shared' : SharedStore} {store store' : Store} {disk disk' : Disk}
      {copy copy' : Copy} {α : Type} {action : Store → Disk → Except StoreError α × Store × Disk}
      {result : Except StoreError α} (held : shared.store? = some store)
      (uses : Relation.ReflTransGen Use (store, disk, copy) (store', disk', copy'))
      (acts : action store disk = (result, store', disk'))
      (written : shared.write disk action = (result, shared', disk')) :
      Step config ⟨shared, disk, copy⟩ ⟨shared', disk', copy'⟩
  | save {shared : SharedStore} {store : Store} {disk disk' : Disk} {copy : Copy}
      {result : Except StoreError Unit} (held : shared.store? = some store)
      (written : shared.save disk = (result, disk')) :
      Step config ⟨shared, disk, copy⟩ ⟨shared, disk', .afterSave result store disk⟩
  /-- Closing after saving, which keeps the store open if it cannot be saved. -/
  | shutdown {shared shared' : SharedStore} {store : Store} {disk disk' : Disk} {copy : Copy}
      {result : Except StoreError Unit} (held : shared.store? = some store)
      (closed : shared.shutdown true disk = (result, shared', disk')) :
      Step config ⟨shared, disk, copy⟩ ⟨shared', disk', .afterSave result store disk⟩
  /-- Closing without saving. -/
  | close {shared shared' : SharedStore} {disk disk' : Disk} {copy : Copy}
      {result : Except StoreError Unit}
      (closed : shared.shutdown false disk = (result, shared', disk')) :
      Step config ⟨shared, disk, copy⟩ ⟨shared', disk', copy⟩

/-- Every session in which a store has been opened without index files, after any number of
steps. -/
inductive Reached (config : Config) : SharedSession → Prop
  | start {before disk : Disk} {shared : SharedStore}
      (opened : SharedStore.empty.openWith config before = (.ok (), shared, disk))
      (fresh : (Store.indexFiles config).anyExist disk = false)
      (bounded : ∀ log, disk.Contains config.logPath log → log.length ≤ Disk.sizeLimit) :
      Reached config ⟨shared, disk, .never⟩
  | step {before after : SharedSession} (earlier : Reached config before)
      (step : Step config before after) : Reached config after

/-! ### What holds all the time -/

/-- The store in the slot is coherent with its log, and what is known of the copy is right. -/
structure Whole (config : Config) (log : Bytes) (archive : Archive) (store? : Option Store)
    (disk : Disk) (copy : Copy) : Prop where
  intact : Session.Intact config log archive ⟨store?, disk⟩
  copied : Copied config disk log copy

variable {config : Config} {disk disk' after : Disk} {log : Bytes} {archive : Archive}
  {copy : Copy} {store store' : Store} {store? : Option Store}

/-- What has been made elsewhere does not matter. -/
theorem Whole.extend (whole : Whole config log archive store? disk copy)
    (grown : Disk.Extends disk after) (undisturbed : Undisturbed config disk after) :
    Whole config log archive store? after copy := by
  obtain ⟨⟨files, saved, coherent⟩, copied⟩ := whole
  have terms := grown.sameAt undisturbed.terms
  have links := grown.sameAt undisturbed.links
  have files' := files.extend grown undisturbed
  exact ⟨⟨files', saved.congr terms links, fun store held =>
      { coherent store held with files := files' }⟩,
    copied.congr terms links (List.prefix_refl _)⟩

theorem Whole.save {result : Except StoreError Unit}
    (whole : Whole config log archive (some store) disk copy)
    (written : store.save disk = (result, disk')) :
    Whole config log archive (some store) disk' (.afterSave result store disk) := by
  have coherent := whole.intact.coherent store rfl
  obtain ⟨coherent', saved, snapshot⟩ := Store.save_spec coherent whole.intact.saved written
  refine ⟨.of_store coherent' saved, ?_⟩
  cases result with
  | ok _ => exact .of coherent (List.prefix_refl _) (snapshot rfl)
  | error _ => exact .lost

/-- One use of the store keeps all in order, and the log only grows. -/
theorem Use.whole {before after : Store × Disk × Copy} (use : Use before after)
    (whole : Whole config log archive (some before.1) before.2.1 before.2.2) :
    ∃ longer other, Whole config longer other (some after.1) after.2.1 after.2.2 := by
  cases use with
  | link linked =>
    have coherent := whole.intact.coherent _ rfl
    obtain ⟨_, _, _, _, kept, _⟩ := Store.link_spec coherent linked
    obtain ⟨longer, other, grown, intact⟩ := Session.Step.intact (.link linked) whole.intact
    obtain ⟨terms, links⟩ := coherent.files.sameAt_indexes kept
    exact ⟨longer, other, intact, whole.copied.congr terms links grown⟩
  | @load store store' disk copy result loaded =>
    have step : Session.Step config ⟨some store, disk⟩ ⟨some store', disk⟩ := .load loaded
    obtain ⟨longer, other, grown, intact⟩ := step.intact whole.intact
    exact ⟨longer, other, intact,
      whole.copied.congr (Disk.SameAt.refl _ _) (Disk.SameAt.refl _ _) grown⟩
  | save written => exact ⟨log, archive, whole.save written⟩

/-- So does any number of uses. -/
theorem whole_of_uses {before after : Store × Disk × Copy}
    (uses : Relation.ReflTransGen Use before after)
    (whole : Whole config log archive (some before.1) before.2.1 before.2.2) :
    ∃ longer other, Whole config longer other (some after.1) after.2.1 after.2.2 := by
  induction uses with
  | refl => exact ⟨log, archive, whole⟩
  | tail _ use ih =>
    obtain ⟨_, _, whole⟩ := ih
    exact use.whole whole

/-- A slot that is opened, or not, with its own configuration. -/
theorem Whole.openWith {shared shared' : SharedStore} {result : Except StoreError Unit}
    (whole : Whole config log archive shared.store? disk copy)
    (run : shared.openWith config disk = (result, shared', disk')) :
    ∃ other, Whole config log other shared'.store? disk' copy := by
  obtain ⟨error, rfl, rfl, refused⟩ | ⟨store, rfl, rfl, opened⟩ := SharedStore.openWith_cases run
  · refine ⟨archive, whole.extend (Store.extends_openSaved refused) ?_⟩
    -- the request for the log is all that reaches the disk
    obtain rfl := Store.disk_of_openSaved whole.intact.files refused
    exact ⟨rfl, rfl⟩
  · obtain ⟨_, _, ready⟩ := Store.openSaved_spec whole.intact.files whole.intact.saved opened
    obtain ⟨other, coherent, saved⟩ := ready store rfl
    obtain rfl := Store.disk_of_openSaved whole.intact.files opened
    refine ⟨other, .of_store coherent saved, ?_⟩
    exact whole.copied.congr (Disk.SameAt.afterRequest _ _) (Disk.SameAt.afterRequest _ _)
      (List.prefix_refl _)

theorem Whole.closed (whole : Whole config log archive store? disk copy) :
    Whole config log archive none disk copy := by
  obtain ⟨⟨files, saved, _⟩, copied⟩ := whole
  exact ⟨⟨files, saved, by simp⟩, copied⟩

theorem Step.whole {before after : SharedSession} (step : Step config before after)
    (whole : Whole config log archive before.shared.store? before.disk before.copy) :
    ∃ longer other, Whole config longer other after.shared.store? after.disk after.copy := by
  obtain ⟨⟨store?⟩, disk, copy⟩ := before
  cases step with
  | opens opened =>
    obtain ⟨other, whole⟩ := whole.openWith opened
    exact ⟨log, other, whole⟩
  | refuses refused undisturbed =>
    obtain ⟨_, _, rfl, run⟩ | ⟨_, failed, _⟩ := SharedStore.openWith_cases refused
    · exact ⟨log, archive, whole.extend (Store.extends_openSaved run) undisturbed⟩
    · cases failed
  | write held uses acts written =>
    cases held
    obtain ⟨longer, other, whole⟩ := whole_of_uses uses whole
    rw [SharedStore.write] at written
    dsimp only at written
    rw [acts] at written
    cases written
    exact ⟨longer, other, whole⟩
  | save held written =>
    cases held
    exact ⟨log, archive, whole.save written⟩
  | shutdown held closed =>
    cases held
    obtain ⟨written, ⟨_, _, rfl⟩ | ⟨_, rfl⟩⟩ := SharedStore.shutdown_cases closed
    · exact ⟨log, archive, whole.save written⟩
    · exact ⟨log, archive, (whole.save written).closed⟩
  | close closed =>
    cases store? with
    | none =>
      cases closed
      exact ⟨log, archive, whole⟩
    | some store =>
      cases closed
      exact ⟨log, archive, whole.closed⟩

theorem Reached.whole {session : SharedSession} (reached : Reached config session) :
    ∃ log archive, Whole config log archive session.shared.store? session.disk session.copy := by
  induction reached with
  | start opened fresh bounded =>
    obtain ⟨_, failed, _⟩ | ⟨store, _, rfl, run⟩ := SharedStore.openWith_cases opened
    · cases failed
    · have start : Store.OpenedFresh config store _ := ⟨⟨_, run⟩, fresh, bounded⟩
      obtain ⟨log, coherent, _⟩ := start.coherent
      obtain ⟨_, no_links⟩ := Bool.or_eq_false_iff.mp fresh
      exact ⟨log, [], .of_store coherent (.unfinished no_links), .never fresh⟩
  | step _ step ih =>
    obtain ⟨log, archive, whole⟩ := ih
    exact step.whole whole

end SharedSession

/-! ### What can be relied on -/

/-- Nothing can be done with a shared store, and nothing happens to the disk. -/
structure SharedStore.Unusable (shared : SharedStore) (disk : Disk) : Prop where
  load : shared.load disk = (.error .notInitialized, shared, disk)
  save : shared.save disk = (.error .notInitialized, disk)
  shutdown : ∀ saving, shared.shutdown saving disk = (.error .notInitialized, shared, disk)
  link : ∀ id string, shared.link id string disk = (.error .notInitialized, shared, disk)
  stringFor : ∀ id, shared.stringFor disk id = .error .notInitialized
  identifiersFor : ∀ query how, shared.identifiersFor disk query how = .error .notInitialized
  stringsFor : ∀ query, shared.stringsFor disk query = .error .notInitialized
  identifiersForTerms : ∀ terms mode,
    shared.identifiersForTerms terms mode = .error .notInitialized
  stringsForTerms : ∀ terms mode,
    shared.stringsForTerms disk terms mode = .error .notInitialized
  read : ∀ (α : Type) (action : Store → Except StoreError α),
    shared.read action = .error .notInitialized
  write : ∀ (α : Type) (action : Store → Disk → Except StoreError α × Store × Disk),
    shared.write disk action = (.error .notInitialized, shared, disk)

/-- As soon as the disk grants the request for the log, opening fills the slot with a good store. -/
def SharedStore.Reopens (config : Config) (shared : SharedStore) (disk : Disk)
    (good : Store → Disk → Prop) : Prop :=
  disk.nextFault = none →
    ∃ store, shared.openWith config disk = (.ok (), ⟨some store⟩, disk.afterRequest) ∧
      good store disk.afterRequest

namespace SharedSession

/-- What can be relied on in a session, whatever has happened in it. -/
structure Reliable (config : Config) (session : SharedSession) : Prop where
  /-- Another store that cannot be opened leaves the one that is open, and all its answers. -/
  refused : ∀ other error shared after,
    session.shared.openWith other session.disk = (.error error, shared, after) →
      shared = session.shared ∧
        ∀ store, session.shared.store? = some store → SameAnswers store session.disk store after
  /-- So does a store that cannot be saved when it is to be closed. -/
  unsaved : ∀ error shared after,
    session.shared.shutdown true session.disk = (.error error, shared, after) →
      shared = session.shared ∧
        ∀ store, session.shared.store? = some store → SameAnswers store session.disk store after
  /-- A store that has been saved and closed comes back with all its answers. -/
  saved : ∀ store shared after, session.shared.store? = some store →
    session.shared.shutdown true session.disk = (.ok (), shared, after) →
      shared = .empty ∧ shared.Reopens config after (SameAnswers store session.disk)
  /-- Whatever has been linked since the last save is forgotten by opening the store over the one
  that is open, by closing it without saving, and by loading. -/
  copied : ∀ old disk, session.copy = .of old disk →
    session.shared.Reopens config session.disk (SameAnswers old disk) ∧
      ∀ store, session.shared.store? = some store →
        session.shared.shutdown false session.disk = (.ok (), .empty, session.disk) ∧
          SharedStore.empty.Reopens config session.disk (SameAnswers old disk) ∧
          ∃ loaded, session.shared.load session.disk = (.ok (), ⟨some loaded⟩, session.disk) ∧
            SameAnswers old disk loaded session.disk
  /-- As long as nobody has tried to save, a store that is opened is empty, and loading fails and
  changes nothing. -/
  never : session.copy = .never →
    session.shared.Reopens config session.disk
        (fun store after => ∃ log, after.Contains config.logPath log ∧
          store = Store.unlinked config log) ∧
      ∀ store, session.shared.store? = some store →
        session.shared.shutdown false session.disk = (.ok (), .empty, session.disk) ∧
          SharedStore.empty.Reopens config session.disk
            (fun store after => ∃ log, after.Contains config.logPath log ∧
              store = Store.unlinked config log) ∧
          ∃ error, session.shared.load session.disk = (.error error, session.shared, session.disk)

variable {config : Config} {disk after oldDisk : Disk} {log : Bytes} {archive : Archive}
  {store old : Store} {store? : Option Store}

/-- Opening the store gives the answers of the copy. -/
theorem Whole.reopens_copied (whole : Whole config log archive store? disk (.of old oldDisk))
    (shared : SharedStore) : shared.Reopens config disk (SameAnswers old oldDisk) := by
  intro granted
  obtain ⟨⟨files, _, _⟩, copied⟩ := whole
  cases copied with
  | of coherent older snapshot =>
    obtain ⟨opened, restored⟩ := Store.openSaved_snapshot files older snapshot granted
    exact ⟨_, SharedStore.openWith_of_ok opened,
      (Store.restores_of_coherent coherent older restored).answers⟩

/-- So does loading it. -/
theorem Whole.load_copied (whole : Whole config log archive (some store) disk (.of old oldDisk)) :
    ∃ loaded, store.load disk = (.ok (), loaded) ∧ SameAnswers old oldDisk loaded disk := by
  obtain ⟨⟨files, _, coherent⟩, copied⟩ := whole
  have held := coherent store rfl
  cases copied with
  | of coherent older snapshot =>
    obtain ⟨loaded, restored⟩ :=
      Store.load_snapshot store files held.config_eq held.path older snapshot
    exact ⟨_, loaded, (Store.restores_of_coherent coherent older restored).answers⟩

/-- As long as nobody has tried to save, a store that is opened is empty. -/
theorem Whole.reopens_never (whole : Whole config log archive store? disk .never)
    (shared : SharedStore) :
    shared.Reopens config disk fun store after =>
      ∃ log, after.Contains config.logPath log ∧ store = Store.unlinked config log := by
  intro granted
  obtain ⟨⟨files, _, _⟩, copied⟩ := whole
  cases copied with
  | never absent =>
    have files' := files.afterRequest
    exact ⟨_, SharedStore.openWith_of_ok (Store.openSaved_of_absent files absent granted),
      log, files'.contains, rfl⟩

/-- There is nothing to load either. -/
theorem Whole.load_never (whole : Whole config log archive (some store) disk .never) :
    ∃ error, store.load disk = (.error error, store) := by
  obtain ⟨⟨_, _, coherent⟩, copied⟩ := whole
  have held := coherent store rfl
  cases copied with
  | never absent =>
    obtain ⟨_, no_links⟩ := Bool.or_eq_false_iff.mp absent
    rcases loaded : store.load disk with ⟨result, after⟩
    rw [← held.config_eq] at no_links
    cases result with
    | ok _ => exact absurd rfl (Store.load_unfinished no_links loaded)
    | error error => exact ⟨error, by rw [Store.eq_of_load_error held loaded]⟩

theorem Whole.reliable {copy : Copy} (whole : Whole config log archive store? disk copy) :
    Reliable config ⟨⟨store?⟩, disk, copy⟩ where
  refused other error shared after run := by
    obtain ⟨_, _, rfl, refused⟩ | ⟨_, failed, _⟩ := SharedStore.openWith_cases run
    · exact ⟨rfl, fun store held =>
        Store.sameAnswers_of_openSaved (whole.intact.coherent store held) refused⟩
    · cases failed
  unsaved error shared after closed := by
    cases store? with
    | none =>
      cases closed
      exact ⟨rfl, by simp⟩
    | some store =>
      obtain ⟨refused, ⟨_, _, rfl⟩ | ⟨done, _⟩⟩ := SharedStore.shutdown_cases closed
      · refine ⟨rfl, fun other held => ?_⟩
        cases held
        -- the log has not been touched
        have coherent := whole.intact.coherent store rfl
        have coherent' := (whole.save refused).intact.coherent store rfl
        exact Store.sameAnswers coherent coherent' (List.prefix_refl _) fun _ => rfl
      · cases done
  saved store shared after held closed := by
    cases held
    obtain ⟨written, ⟨_, failed, _⟩ | ⟨_, rfl⟩⟩ := SharedStore.shutdown_cases closed
    · cases failed
    · exact ⟨rfl, (whole.save written).reopens_copied _⟩
  copied old oldDisk same := by
    obtain rfl : copy = .of old oldDisk := same
    refine ⟨whole.reopens_copied _, fun store held => ?_⟩
    cases held
    obtain ⟨loaded, run, answers⟩ := whole.load_copied
    exact ⟨rfl, whole.reopens_copied _, loaded, SharedStore.load_eq run, answers⟩
  never same := by
    obtain rfl : copy = .never := same
    refine ⟨whole.reopens_never _, fun store held => ?_⟩
    cases held
    obtain ⟨error, run⟩ := whole.load_never
    exact ⟨rfl, whole.reopens_never _, error, SharedStore.load_eq run⟩

/-- Nothing can be done with an empty slot, and what cannot be opened leaves it empty. Once a store
has been opened, it and what is saved of it can be relied on. -/
theorem reliable_of_reached (config : Config) :
    (∀ disk, SharedStore.empty.Unusable disk) ∧
      (∀ disk other error shared after,
        SharedStore.empty.openWith other disk = (.error error, shared, after) →
          shared = .empty) ∧
      ∀ session, Reached config session → Reliable config session := by
  refine ⟨fun disk => ?_, fun disk other error shared after run => ?_, fun session reached => ?_⟩
  · constructor <;> intros <;> rfl
  · obtain ⟨_, _, rfl, _⟩ | ⟨_, failed, _⟩ := SharedStore.openWith_cases run
    · rfl
    · cases failed
  · obtain ⟨log, archive, whole⟩ := reached.whole
    exact whole.reliable

/-! ### Closing without saving -/

theorem Step.link {store store' : Store} {disk disk' : Disk} {copy : Copy} {id : LinkId}
    {string : String} {result : Except StoreError Offset}
    (linked : store.link id string disk = (result, store', disk')) :
    Step config ⟨⟨some store⟩, disk, copy⟩ ⟨⟨some store'⟩, disk', copy⟩ := by
  have written : SharedStore.write ⟨some store⟩ disk (·.link id string ·) =
      (result, ⟨some store'⟩, disk') := by
    rw [SharedStore.write]
    dsimp only
    rw [linked]
  exact .write rfl (.single (.link linked)) linked written

open Store (sampleConfig sampleFirst sampleSecond sampleSave sampleThird)

/-- The sample in a slot: the indexes have been saved, and then the first identifier has been linked
to another string. -/
theorem reached_third :
    Reached sampleConfig ⟨⟨some sampleThird.2.1⟩, sampleThird.2.2,
      .of sampleSecond.2.1 sampleSecond.2.2⟩ := by
  have opened : SharedStore.empty.openWith sampleConfig
      { Disk.empty with faults := none :: Store.sampleDisk.faults } =
        (.ok (), ⟨some (Store.unlinked sampleConfig [])⟩, Store.sampleDisk) := rfl
  have started := Reached.start opened Store.openedFresh_sample.fresh
    Store.openedFresh_sample.bounded
  have first : (Store.unlinked sampleConfig []).link 1 "ab cd" Store.sampleDisk =
      (sampleFirst.1, sampleFirst.2.1, sampleFirst.2.2) := rfl
  have second : sampleFirst.2.1.link 2 "ef" sampleFirst.2.2 =
      (sampleSecond.1, sampleSecond.2.1, sampleSecond.2.2) := rfl
  have saved : SharedStore.save ⟨some sampleSecond.2.1⟩ sampleSecond.2.2 =
      (.ok (), sampleSave.2) := by
    have succeeded : sampleSave.1 = .ok () := by decide +kernel
    exact Prod.ext succeeded rfl
  have third : sampleSecond.2.1.link 1 "gh" sampleSave.2 =
      (sampleThird.1, sampleThird.2.1, sampleThird.2.2) := rfl
  exact .step (.step (.step (.step started (.link first)) (.link second)) (.save rfl saved))
    (.link third)

/-- An invalid configuration leaves the new string, and after closing without saving the old one is
back. -/
theorem reliable_of_third :
    (∃ error, SharedStore.openWith ⟨some sampleThird.2.1⟩ ⟨"", 8, "", .standard⟩ sampleThird.2.2 =
        (.error error, ⟨some sampleThird.2.1⟩, sampleThird.2.2)) ∧
      sampleThird.2.1.stringFor sampleThird.2.2 1 = .ok "gh" ∧
      SharedStore.shutdown ⟨some sampleThird.2.1⟩ false sampleThird.2.2 =
        (.ok (), .empty, sampleThird.2.2) ∧
      ∃ store, SharedStore.empty.openWith sampleConfig sampleThird.2.2 =
          (.ok (), ⟨some store⟩, sampleThird.2.2.afterRequest) ∧
        store.stringFor sampleThird.2.2.afterRequest 1 = .ok "ab cd" := by
  obtain ⟨_, _, reliable⟩ := reliable_of_reached sampleConfig
  obtain ⟨_, closes⟩ := (reliable _ reached_third).copied _ _ rfl
  obtain ⟨closed, reopens, _⟩ := closes _ rfl
  obtain ⟨store, opened, answers⟩ := reopens (by decide +kernel)
  have first : sampleSecond.2.1.stringFor sampleSecond.2.2 1 = .ok "ab cd" := by decide +kernel
  refine ⟨⟨_, rfl⟩, by decide +kernel, closed, store, opened, ?_⟩
  rw [answers.stringFor, first]

/-! ### A directory in the place of an index file -/

/-- A store, and another one whose root is the path of an index file of the first. Its log would lie
in a directory that is not there. -/
def nestConfig : Config := ⟨"kb", 8, "scdb", .standard⟩

def intruderConfig : Config := ⟨"kb/term_string_offsets.scdb", 8, "a/b", .standard⟩

def nestOpened : Except StoreError Unit × SharedStore × Disk :=
  SharedStore.empty.openWith nestConfig Disk.empty

def nestIntruded : Except StoreError Unit × SharedStore × Disk :=
  nestOpened.2.1.openWith intruderConfig nestOpened.2.2

def nestClosed : Except StoreError Unit × SharedStore × Disk :=
  nestIntruded.2.1.shutdown false nestIntruded.2.2

/-- The other store cannot be opened, but its root is made first, and then the first one cannot be
opened again, although nobody has ever tried to save it. -/
theorem openWith_intruded :
    nestOpened.1 = .ok () ∧
      nestIntruded.1 = .error (.write
        (.openFile "kb/term_string_offsets.scdb/strings.a/b") .notFound) ∧
      nestClosed.1 = .ok () ∧ nestClosed.2.2.nextFault = none ∧
      (nestClosed.2.1.openWith nestConfig nestClosed.2.2).1 =
        .error (.read .nextOffset .isADirectory) := by
  decide +kernel

end SharedSession

end Concordance
