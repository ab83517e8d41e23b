import Concordance.Config.Document
import Concordance.Proofs.Json.Reading

/-!
# Configurations that are given in part

An object gives some of the fields of a configuration, in any order and among members that mean
nothing to it. What it gives is taken, what it leaves out is standard, and the result is refused
only for what is wrong with it as a whole. The keys of the object, and those of the object for the
tokenizer, have to be texts; anything at all may stand behind a key that is no field.
-/
namespace Concordance

open Json (IsDocument Member)

/-! ### Fields of an object -/

namespace Json

/-- What an object gives for a key, in the order in which it stands there. -/
def valuesOf (name : String) (members : List Member) : List Json :=
  members.filterMap fun member => if member.1 = some name then some member.2 else none

/-- What an object gives for a field. -/
inductive Gives {α : Type} (name : String) (typed : α → Json → Prop) (members : List Member) :
    Option α → Prop
  | nothing (absent : valuesOf name members = []) : Gives name typed members none
  /-- The field is given once, and with a value of its type. -/
  | once {value : α} {json : Json} (alone : valuesOf name members = [json])
      (means : typed value json) : Gives name typed members (some value)

/-- The keys of an object are texts. -/
def HasTexts (members : List Member) : Prop :=
  ∀ member ∈ members, member.1 ≠ none

variable {members : List Member}

/-- If no field is given twice, each is found with what is given for it. -/
theorem foldlM_addField? (names : List String) (texts : HasTexts members)
    (fields : List (String × Json))
    (once : ∀ name ∈ names,
      (fields.lookup name).toList.length + (valuesOf name members).length ≤ 1) :
    ∃ all, members.foldlM (addField? names) fields = some all ∧
      ∀ name ∈ names, all.lookup name = (fields.lookup name).or (valuesOf name members).head? := by
  induction members generalizing fields with
  | nil => exact ⟨fields, rfl, fun name _ => by simp [valuesOf]⟩
  | cons member members ih =>
    obtain ⟨key?, value⟩ := member
    obtain ⟨key, rfl⟩ := Option.ne_none_iff_exists'.mp (texts _ (.head _))
    have others : HasTexts members := fun member inside => texts member (.tail _ inside)
    have elsewhere {name : String} (differs : name ≠ key) :
        valuesOf name ((some key, value) :: members) = valuesOf name members := by
      simp [valuesOf, Ne.symm differs]
    have here : valuesOf key ((some key, value) :: members) = value :: valuesOf key members := by
      simp [valuesOf]
    by_cases known : key ∈ names
    · -- nothing has been given for the field before, and nothing will be given for it again
      have single := once key known
      rw [here, List.length_cons] at single
      have new : fields.lookup key = none := by
        rw [← Option.toList_eq_nil_iff, ← List.length_eq_zero_iff]
        omega
      have added : addField? names fields (some key, value) = some ((key, value) :: fields) := by
        simp [addField?, known, new]
      obtain ⟨all, read, found⟩ := ih others ((key, value) :: fields) fun name member => by
        by_cases same : name = key
        · rw [same, List.lookup_cons_self]
          simp only [Option.toList_some, List.length_singleton]
          omega
        · have before := once name member
          rw [elsewhere same] at before
          rwa [List.lookup_cons, beq_eq_false_iff_ne.mpr same]
      refine ⟨all, by rw [List.foldlM_cons, added]; exact read, fun name member => ?_⟩
      rw [found name member]
      by_cases same : name = key
      · rw [same, List.lookup_cons_self, here, new]
        rfl
      · rw [List.lookup_cons, beq_eq_false_iff_ne.mpr same, elsewhere same]
    · -- a key that is no field is passed over
      have passed : addField? names fields (some key, value) = some fields := by
        simp [addField?, known]
      have differs {name : String} (member : name ∈ names) : name ≠ key :=
        fun same => known (same ▸ member)
      obtain ⟨all, read, found⟩ := ih others fields fun name member => by
        rw [← elsewhere (differs member)]
        exact once name member
      refine ⟨all, by rw [List.foldlM_cons, passed]; exact read, fun name member => ?_⟩
      rw [found name member, elsewhere (differs member)]

theorem fields?_object (names : List String) (texts : HasTexts members)
    (once : ∀ name ∈ names, (valuesOf name members).length ≤ 1) :
    ∃ fields, (Json.object members).fields? names = some fields ∧
      ∀ name ∈ names, fields.lookup name = (valuesOf name members).head? := by
  obtain ⟨fields, read, found⟩ := foldlM_addField? names texts [] fun name member => by
    simpa using once name member
  exact ⟨fields, read, fun name member => by simpa using found name member⟩

theorem Gives.length_le {α : Type} {name : String} {typed : α → Json → Prop} {value? : Option α}
    (gives : Gives name typed members value?) : (valuesOf name members).length ≤ 1 := by
  cases gives with
  | nothing absent => simp [absent]
  | once alone => simp [alone]

theorem Gives.map {α β : Type} {name : String} {typed : α → Json → Prop} {value? : Option α}
    (view : α → β) (gives : Gives name typed members value?) :
    Gives name (fun result json => ∃ value, result = view value ∧ typed value json) members
      (value?.map view) := by
  cases gives with
  | nothing absent => exact .nothing absent
  | once alone means => exact .once alone ⟨_, rfl, means⟩

/-- A field that is given is read, one that is left out has the value for absent ones. -/
theorem optional_of_gives {α : Type} {name : String} {typed : α → Json → Prop}
    {value? : Option α} {fields : List (String × Json)} (read : Json → Option α) (absent : α)
    (gives : Gives name typed members value?)
    (found : fields.lookup name = (valuesOf name members).head?)
    (reads : ∀ {value json}, (some name, json) ∈ members → typed value json →
      read json = some value) :
    optional fields name read absent = some (value?.getD absent) := by
  cases gives with
  | nothing none =>
    rw [optional, found, none]
    rfl
  | @once value json alone means =>
    have given : json ∈ valuesOf name members := by simp [alone]
    have member : (some name, json) ∈ members := by
      obtain ⟨⟨key, other⟩, inside, same⟩ := List.mem_filterMap.mp given
      dsimp only at same
      split at same
      · next key_eq =>
        cases same
        cases key_eq
        exact inside
      · cases same
    rw [optional, found, alone]
    exact reads member means

end Json

open Json (HasTexts Gives)

/-- A text is given as itself. -/
def IsText (text : String) (json : Json) : Prop := json = .ofText text

/-- A word is given as itself. -/
def IsWord (word : UInt64) (json : Json) : Prop := json = .ofWord word

/-! ### Tokenizers -/

namespace TokenizerMode

def name : TokenizerMode → String
  | .delimiters => "delimiters"
  | .unicodeWords => "unicode_words"

/-- A mode is given by its name, alone or as the only key of an object. -/
inductive IsMode (mode : TokenizerMode) : Json → Prop
  | name : IsMode mode (.ofText mode.name)
  | key : IsMode mode (.object [(some mode.name, .null)])

theorem ofJson?_of_isMode {mode : TokenizerMode} {json : Json} (given : IsMode mode json) :
    ofJson? json = some mode := by
  cases given <;> cases mode <;> rfl

end TokenizerMode

namespace Tokenizer

/-- The fields that are given for a tokenizer. -/
structure Given where
  mode : Option TokenizerMode
  delimiters : Option String

namespace Given

/-- The tokenizer with these fields, the others being standard. -/
def tokenizer (given : Given) : Tokenizer where
  mode := given.mode.getD standard.mode
  delimiters := given.delimiters.getD standard.delimiters

/-- The members of an object give these fields. -/
structure Fields (given : Given) (members : List Member) : Prop where
  mode : Gives "mode" TokenizerMode.IsMode members given.mode
  delimiters : Gives "delimiters" IsText members given.delimiters

/-- A value is an object that gives these fields. -/
def IsGiven (given : Given) (json : Json) : Prop :=
  ∃ members, json = .object members ∧ given.Fields members

end Given

theorem ofJson?_of_fields {given : Given} {members : List Member} (fields : given.Fields members)
    (texts : HasTexts members) : ofJson? (.object members) = some given.tokenizer := by
  obtain ⟨found, read, lookup⟩ := Json.fields?_object ["mode", "delimiters"] texts (by
    simpa using ⟨fields.mode.length_le, fields.delimiters.length_le⟩)
  have mode := Json.optional_of_gives TokenizerMode.ofJson? standard.mode
    fields.mode (lookup _ (by decide)) fun _ means => TokenizerMode.ofJson?_of_isMode means
  have delimiters := Json.optional_of_gives Json.text? standard.delimiters
    fields.delimiters (lookup _ (by decide)) fun _ means => by rw [means]; rfl
  rw [ofJson?, read, Option.bind_eq_bind, Option.bind_some, mode, Option.bind_eq_bind,
    Option.bind_some, delimiters]
  rfl

/-- The fields of a tokenizer, both of them given. -/
def given (tokenizer : Tokenizer) : Given := ⟨some tokenizer.mode, some tokenizer.delimiters⟩

/-- The members of the object that is written for a tokenizer. -/
def members (tokenizer : Tokenizer) : List Member :=
  [(some "mode", tokenizer.mode.toJson), (some "delimiters", .ofText tokenizer.delimiters)]

theorem fields_given (tokenizer : Tokenizer) : tokenizer.given.Fields tokenizer.members where
  mode := by
    have named : TokenizerMode.IsMode tokenizer.mode tokenizer.mode.toJson := by
      cases tokenizer.mode <;> exact .name
    exact .once (by simp [Json.valuesOf, members]) named
  delimiters := .once (by simp [Json.valuesOf, members]) rfl

end Tokenizer

/-! ### Configurations -/

namespace Config

/-- The fields that are given for a configuration. -/
structure Given where
  path : Option String
  threshold : Option UInt64
  extension : Option String
  tokenizer : Option Tokenizer.Given

namespace Given

/-- The configuration with these fields, the others being standard. -/
def config (given : Given) : Config where
  path := given.path.getD standard.path
  threshold := given.threshold.getD standard.threshold
  extension := given.extension.getD standard.extension
  tokenizer := (given.tokenizer.map Tokenizer.Given.tokenizer).getD standard.tokenizer

/-- The members of an object give these fields. -/
structure Fields (given : Given) (members : List Member) : Prop where
  path : Gives "path" IsText members given.path
  threshold : Gives "max_searchable_string_size" IsWord members given.threshold
  extension : Gives "file_extension" IsText members given.extension
  tokenizer : Gives "tokenizer" Tokenizer.Given.IsGiven members given.tokenizer

end Given

/-- All keys that may be those of fields are texts. -/
structure HasTexts (members : List Member) : Prop where
  outside : Json.HasTexts members
  inside : ∀ inner, (some "tokenizer", .object inner) ∈ members → Json.HasTexts inner

theorem ofJson?_of_fields {given : Given} {members : List Member} (fields : given.Fields members)
    (texts : HasTexts members) : ofJson? (.object members) = some given.config := by
  obtain ⟨found, read, lookup⟩ := Json.fields?_object fieldNames texts.outside (by
    simpa [fieldNames] using ⟨fields.path.length_le, fields.threshold.length_le,
      fields.extension.length_le, fields.tokenizer.length_le⟩)
  have path := Json.optional_of_gives Json.text? standard.path fields.path
    (lookup _ (by decide)) fun _ means => by rw [means]; rfl
  have threshold := Json.optional_of_gives Json.word? standard.threshold
    fields.threshold (lookup _ (by decide)) fun _ means => by rw [means]; rfl
  have extension := Json.optional_of_gives Json.text? standard.extension
    fields.extension (lookup _ (by decide)) fun _ means => by rw [means]; rfl
  have tokenizer := Json.optional_of_gives Tokenizer.ofJson? standard.tokenizer
    -- what is given for the tokenizer is read in the same way, one level further in
    (fields.tokenizer.map Tokenizer.Given.tokenizer) (lookup _ (by decide)) (by
      rintro _ _ member ⟨given, rfl, inner, rfl, gives⟩
      exact Tokenizer.ofJson?_of_fields gives (texts.inside inner member))
  rw [ofJson?, read, Option.bind_eq_bind, Option.bind_some, path, Option.bind_eq_bind,
    Option.bind_some, threshold, Option.bind_eq_bind, Option.bind_some, extension,
    Option.bind_eq_bind, Option.bind_some, tokenizer]
  rfl

/-- The fields of a configuration, all of them given. -/
def given (config : Config) : Given where
  path := some config.path
  threshold := some config.threshold
  extension := some config.extension
  tokenizer := some config.tokenizer.given

/-- The members of the object that is written for a configuration. -/
def members (config : Config) : List Member :=
  [(some "path", .ofText config.path),
    (some "max_searchable_string_size", .ofWord config.threshold),
    (some "file_extension", .ofText config.extension),
    (some "tokenizer", .object config.tokenizer.members)]

theorem fields_given (config : Config) : config.given.Fields config.members where
  path := .once (by simp [Json.valuesOf, members]) rfl
  threshold := .once (by simp [Json.valuesOf, members]) rfl
  extension := .once (by simp [Json.valuesOf, members]) rfl
  tokenizer := .once (by simp [Json.valuesOf, members]) ⟨_, rfl, config.tokenizer.fields_given⟩

theorem hasTexts_members (config : Config) : HasTexts config.members where
  outside := by simp [Json.HasTexts, members]
  inside inner member := by
    obtain rfl : inner = config.tokenizer.members := by simpa [members, Json.ofText] using member
    simp [Json.HasTexts, Tokenizer.members]

/-- What is wrong with a configuration as a whole, if anything. -/
def IsFlawed (config : Config) : Prop :=
  config.threshold = 0 ∨ config.tokenizer.mode = .delimiters ∧ config.tokenizer.delimiters = ""

instance (config : Config) : Decidable config.IsFlawed :=
  inferInstanceAs (Decidable (config.threshold = 0 ∨
    config.tokenizer.mode = .delimiters ∧ config.tokenizer.delimiters = ""))

theorem flaw?_eq_none_iff {config : Config} : config.flaw? = none ↔ ¬config.IsFlawed := by
  unfold flaw? IsFlawed
  split
  · next zero => simp [zero]
  · next positive =>
    split
    · next empty => simpa [positive] using empty
    · next filled => simpa [positive] using filled

/-- What comes of a text from which a configuration is read. -/
structure IsRead (text : String) (config : Config) : Prop where
  /-- The text is refused for what is wrong with the configuration, and that is what is told. -/
  refused : ∀ flaw, ofText text = .error (.invalidConfig flaw) ↔ config.flaw? = some flaw
  flawed : (∃ flaw, ofText text = .error (.invalidConfig flaw)) ↔ config.IsFlawed
  /-- Otherwise it is this configuration that is returned. -/
  accepted : ¬config.IsFlawed → ofText text = .ok config

/-- A configuration that has been parsed is either refused as a whole or returned. -/
theorem isRead_of_parsed {text : String} {config : Config}
    (parsed : (Json.parse? text).bind ofJson? = some config) : IsRead text config := by
  have refused (flaw : ConfigFlaw) :
      ofText text = .error (.invalidConfig flaw) ↔ config.flaw? = some flaw := by
    simp only [ofText, parsed]
    cases config.flaw? <;> simp
  refine ⟨refused, ?_, fun sound => ?_⟩
  · simp only [refused]
    rw [← Option.isSome_iff_exists, Option.isSome_iff_ne_none, Ne, flaw?_eq_none_iff,
      Decidable.not_not]
  · simp [ofText, parsed, flaw?_eq_none_iff.mpr sound]

/-- A document that gives some of the fields is read as the configuration with these fields. -/
theorem isRead_of_fields {given : Given} {members : List Member} {text : String}
    (fields : given.Fields members) (texts : HasTexts members)
    (document : IsDocument (.object members) text) : IsRead text given.config := by
  apply isRead_of_parsed
  rw [Json.parse?_of_isDocument document, Option.bind_some, ofJson?_of_fields fields texts]

/-- Every document that holds a configuration is read as this configuration. -/
theorem ofText_of_isDocument {config : Config} {text : String}
    (document : IsDocument config.toJson text) (valid : config.validate = .ok ()) :
    ofText text = .ok config := by
  have sound : config.flaw? = none := by
    unfold validate at valid
    cases flaw : config.flaw? with
    | none => rfl
    | some flaw => simp [flaw] at valid
  have read := isRead_of_fields config.fields_given config.hasTexts_members document
  exact read.accepted (flaw?_eq_none_iff.mp sound)

/-- The fields that a document gives are taken and the others are standard, in whatever order they
stand there, however they are spelled and whatever else there is. What is written for a
configuration gives it back. -/
theorem ofText_document :
    (∀ (given : Given) (members : List Member) (text : String), given.Fields members →
      HasTexts members → IsDocument (.object members) text → IsRead text given.config) ∧
    ∀ config : Config, config.validate = .ok () → ofText config.toJson.render = .ok config :=
  ⟨fun _ _ _ => isRead_of_fields,
    fun config => ofText_of_isDocument (Json.isDocument_render config.toJson)⟩

/-- A document that gives the extension by its code units, behind something that is no field. -/
def sampleDocument : String :=
  "\x7b \"x\": [-1e5] ,\"file_extension\":\"\\ud83d\\ude00\"\x7d"

/-- A configuration with a quote, a backslash and a line feed in it. -/
def escapedConfig : Config := ⟨"a\"b\\", 1, "\n", ⟨.unicodeWords, ""⟩⟩

/-- A document that leaves the standard mode without a delimiter. -/
def bareDocument : Json :=
  .object [(some "tokenizer", .object [(some "delimiters", .ofText "")])]

theorem ofText_document_of_sample :
    ofText sampleDocument = .ok { standard with extension := "😀" } ∧
      ofText bareDocument.render = .error (.invalidConfig .noDelimiters) ∧
      ofText escapedConfig.toJson.render = .ok escapedConfig := by
  obtain ⟨taken, written⟩ := ofText_document
  have bare := taken ⟨none, none, none, some ⟨none, some ""⟩⟩ _ _
    ⟨.nothing rfl, .nothing rfl, .nothing rfl, .once rfl ⟨_, rfl, .nothing rfl, .once rfl rfl⟩⟩
    ⟨by simp [Json.HasTexts], by simp [Json.HasTexts]⟩ (Json.isDocument_render bareDocument)
  refine ⟨?_, (bare.refused _).mpr (by decide), written escapedConfig rfl⟩
  have nothing := Json.isBlank_nil
  have space : Json.IsBlank [' '] := by decide
  have number : Json.IsNumeral none (['-'] ++ (['1'] ++ ([] ++ ['e', '5']))) :=
    .other (by decide) (.positive (by decide) (by decide)) .none
      (@Json.IsExponent.mark 'e' [] ['5'] (by decide) (by decide) (by decide)) (by decide)
  have items : Json.Spells (.array [.number none]) ['[', '-', '1', 'e', '5', ']'] :=
    .array (.last nothing (.number number) nothing)
  have face : Json.IsString (some "😀")
      ['"', '\\', 'u', 'd', '8', '3', 'd', '\\', 'u', 'd', 'e', '0', '0', '"'] :=
    .quoted
      (.unit (w := 13) (x := 8) (y := 3) (z := 13) (by decide) (by decide) (by decide) (by decide)
        (.unit (w := 13) (x := 14) (y := 0) (z := 0) (by decide) (by decide) (by decide)
          (by decide) .nil))
      (.text (.units '😀' .nil))
  have document : IsDocument (.object [(some "x", .array [.number none]),
      (some "file_extension", .ofText "😀")]) sampleDocument :=
    ⟨[], _, [], nothing, .object (.more space
      (.member (Json.isString_written (some "x")) nothing space items) space
      (.last nothing (.member (Json.isString_written (some "file_extension")) nothing nothing
        (.string face)) nothing)), nothing, by decide⟩
  have read := taken ⟨none, none, some "😀", none⟩ _ _ ⟨.nothing rfl, .nothing rfl,
    .once rfl rfl, .nothing rfl⟩ ⟨by simp [Json.HasTexts], by simp⟩ document
  exact read.accepted (by decide)

/-- A key with half of a surrogate pair, which is that of no field. -/
def unpairedDocument : String := "\x7b\"\\ud800\":0\x7d"

/-- No field is given and nothing is wrong with the standard configuration, and yet the document is
refused. -/
theorem ofText_unpaired_key :
    let given : Given := ⟨none, none, none, none⟩
    given.Fields [(none, .ofWord 0)] ∧
      IsDocument (.object [(none, .ofWord 0)]) unpairedDocument ∧
      ¬given.config.IsFlawed ∧ ofText unpairedDocument = .error .config ∧
      ¬IsRead unpairedDocument given.config := by
  intro given
  have document : IsDocument (.object [(none, .ofWord 0)]) unpairedDocument :=
    Json.isDocument_render (.object [(none, .ofWord 0)])
  have refused : ofText unpairedDocument = .error .config := by
    rw [ofText, Json.parse?_of_isDocument document]
    rfl
  have sound : ¬given.config.IsFlawed := by decide
  refine ⟨⟨.nothing rfl, .nothing rfl, .nothing rfl, .nothing rfl⟩, document, sound, refused, ?_⟩
  intro read
  rw [read.accepted sound] at refused
  cases refused

end Config

end Concordance
