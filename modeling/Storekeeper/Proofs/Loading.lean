import Storekeeper.Messages.Load
import Storekeeper.Proofs.Flow.Soundness
import Storekeeper.Proofs.Json.Reading

/-!
# How loading ends

The flow and the messages come from files that may hold any bytes.  Loading should end with a valid flow, or with
messages that a file puts over the built-in ones, and otherwise in a failure that says what is being loaded.

* `FileSource.Reads` lists the ways in which reading a file ends.  `FileSource.Unreadable` are the files that a loader
  reports, and `FileSource.Escapes` are those with which no loader reckons.
* `Flow.Loads` and `Messages.Loads` are the ways in which loading ends; `Flow.load_loads` and `Messages.load_loads` say
  that there are no others.
* `loadings_end` says which of these are as they should be, and what is in a file with which they are not.
-/

namespace Storekeeper

open Text

/-! ## Files -/

namespace FileSource

/-- A document stands in the file at a path. -/
inductive Holds : FileSource → String → Json → Prop
  | written {path : String} {bytes : Bytes} {cs : List Char} {document : Json} (text : utf8? bytes = some cs)
    (read : Json.read cs = .ok document) : Holds (.content path bytes) path document

/-- There is no file at a path, or a text that is no JSON. -/
inductive Unreadable : FileSource → String → Prop
  | absent {path : String} : Unreadable (.absent path) path
  | malformed {path : String} {bytes : Bytes} {cs : List Char} (text : utf8? bytes = some cs)
    (read : Json.read cs = .error .malformed) : Unreadable (.content path bytes) path

/-- A path that cannot be one, bytes that are no text, and an integer that is too long fail each in a way of its own. -/
inductive Escapes : FileSource → Failure → Prop
  | impossible {path : String} : Escapes (.impossible path) (.raised .valueError)
  | undecodable {path : String} {bytes : Bytes} (noText : utf8? bytes = none) :
    Escapes (.content path bytes) .undecodable
  | tooLong {path : String} {bytes : Bytes} {cs : List Char} (text : utf8? bytes = some cs)
    (read : Json.read cs = .error .integerTooLong) : Escapes (.content path bytes) .integerTooLong

/-- How reading a file ends, if `unreadable` is how a loader reports it. -/
inductive Reads (unreadable : String → Failure) : FileSource → Except Failure (Option (String × Json)) → Prop
  | nothing : Reads unreadable .notGiven (.ok none)
  | document {file : FileSource} {path : String} {document : Json} (holds : file.Holds path document) :
    Reads unreadable file (.ok (some (path, document)))
  | reported {file : FileSource} {path : String} (bad : file.Unreadable path) :
    Reads unreadable file (.error (unreadable path))
  | escaped {file : FileSource} {failure : Failure} (escapes : file.Escapes failure) :
    Reads unreadable file (.error failure)

variable {file : FileSource} {failure : Failure}

/-- Every file is read in one of the ways. -/
theorem document_reads (unreadable : String → Failure) (file : FileSource) :
    Reads unreadable file (file.document unreadable) := by
  cases file with
  | notGiven => exact .nothing
  | impossible path => exact .escaped .impossible
  | absent path => exact .reported .absent
  | content path bytes =>
    simp only [document, documentOf]
    cases text : utf8? bytes with
    | none => exact .escaped (.undecodable text)
    | some cs =>
      dsimp only
      cases read : Json.read cs with
      | ok document => exact .document (.written text read)
      | error error =>
        cases error with
        | malformed => exact .reported (.malformed text read)
        | integerTooLong => exact .escaped (.tooLong text read)

/-- A failure that escapes is the failure to read the file, whatever a loader would report. -/
theorem Escapes.document_eq (escapes : file.Escapes failure) (unreadable : String → Failure) :
    file.document unreadable = .error failure := by
  cases escapes with
  | impossible => rfl
  | undecodable noText =>
    simp only [document, documentOf, noText]
    rfl
  | tooLong text read =>
    simp only [document, documentOf, text, read]
    rfl

/-- What escapes is the failure of no loader. -/
theorem Escapes.isForeign (escapes : file.Escapes failure) :
    (∀ text step flaws, failure ≠ .flow text step flaws) ∧ ∀ text, failure ≠ .messages text := by
  cases escapes <;> exact ⟨by nofun, by nofun⟩

/-- A path or the bytes stored at it are such that the failure to read them may escape. -/
inductive Breaks : Option String → Option Bytes → Prop
  | path {path : String} {stored : Option Bytes} (null : '\x00' ∈ path.toList) : Breaks (some path) stored
  | bytes {path : String} {bytes : Bytes} (noText : utf8? bytes = none) : Breaks (some path) (some bytes)
  | digits {path : String} {bytes : Bytes} {cs : List Char} (text : utf8? bytes = some cs)
    (long : Json.HasLongRow (some Json.digitLimit) cs) : Breaks (some path) (some bytes)

theorem Escapes.breaks {path : Option String} {stored : Option Bytes}
    (escapes : (ofPath path stored).Escapes failure) : Breaks path stored := by
  cases path with
  | none => cases escapes
  | some path =>
    dsimp only [ofPath] at escapes
    split at escapes
    case isTrue => cases escapes
    case isFalse =>
      split at escapes
      case isTrue null => exact .path (List.contains_iff_mem.mp null)
      case isFalse =>
        cases stored with
        | none => cases escapes
        | some bytes =>
          cases escapes with
          | undecodable noText => exact .bytes noText
          | tooLong text read => exact .digits text (Json.hasLongRow_of_read read)

end FileSource

/-! ## Flows -/

namespace Flow

/-- How loading a flow ends. -/
inductive Loads : FileSource → Except Failure Flow → Prop
  | builtin : Loads .notGiven (.ok builtin)
  | built {file : FileSource} {path : String} {document : Json} {flow : Flow} (holds : file.Holds path document)
    (read : Flow.read document = .ok flow) (whole : flow.defect? = none) : Loads file (.ok flow)
  | flawed {file : FileSource} {path : String} {document : Json} {flaws : List Flaw}
    (holds : file.Holds path document) (read : Flow.read document = .flawed flaws) :
    Loads file (.error (.flow "Invalid flow definition" none flaws))
  | defective {file : FileSource} {path : String} {document : Json} {flow : Flow} {defect : Defect}
    (holds : file.Holds path document) (read : Flow.read document = .ok flow) (found : flow.defect? = some defect) :
    Loads file (.error (.flow defect.message defect.step? []))
  | reported {file : FileSource} {path : String} (bad : file.Unreadable path) : Loads file (.error (unreadable path))
  | escaped {file : FileSource} {failure : Failure} (escapes : file.Escapes failure) : Loads file (.error failure)

/-- How loading a flow should end: with a valid flow, or in a failure that is about a flow. -/
def Answers : Except Failure Flow → Prop
  | .ok flow => flow.defect? = none
  | .error failure => ∃ text step flaws, failure = .flow text step flaws

theorem builtin_whole : builtin.defect? = none := by
  decide +kernel

/-- Every loading of a flow ends in one of the ways. -/
theorem load_loads (file : FileSource) : Loads file (load file) := by
  have reads := file.document_reads unreadable
  unfold load
  generalize file.document unreadable = reading at reads
  cases reads with
  | nothing => exact .builtin
  | document holds =>
    rename_i path document
    change Loads file (build document)
    unfold build
    split
    · rename_i flaws read
      exact .flawed holds read
    · rename_i flow read
      split
      · rename_i defect found
        exact .defective holds read found
      · rename_i whole
        exact .built holds read whole
  | reported bad => exact .reported bad
  | escaped escapes => exact .escaped escapes

/-- A failure to read a file that escapes is the failure to load a flow. -/
theorem load_of_escapes {file : FileSource} {failure : Failure} (escapes : file.Escapes failure) :
    load file = .error failure := by
  unfold load
  rw [escapes.document_eq]
  rfl

/-- A flow loads as it should unless a failure to read the file escapes. -/
theorem answers_iff (file : FileSource) : Answers (load file) ↔ ∀ failure, ¬file.Escapes failure := by
  constructor
  · intro answers failure escapes
    rw [load_of_escapes escapes] at answers
    obtain ⟨text, step, flaws, own⟩ := answers
    exact escapes.isForeign.1 text step flaws own
  · intro contained
    have loads := load_loads file
    generalize load file = loaded at loads
    cases loads with
    | builtin => exact builtin_whole
    | built _ _ whole => exact whole
    | flawed => exact ⟨_, _, _, rfl⟩
    | defective => exact ⟨_, _, _, rfl⟩
    | reported => exact ⟨_, _, _, rfl⟩
    | escaped escapes => exact absurd escapes (contained _)

end Flow

/-! ## Messages -/

namespace Messages

/-- Messages as a document. -/
def toJson (entries : Table String) : Json :=
  .obj (entries.map fun (key, text) => (key, .str text))

/-- How loading messages ends: with those in use afterwards and the failure, if there is one. -/
inductive Loads (messages : Messages) : FileSource → Messages × Option Failure → Prop
  | builtin : Loads messages .notGiven (messages.overlay defaultMessages, none)
  | overlaid {file : FileSource} {path : String} {entries : Table String} (holds : file.Holds path (toJson entries)) :
    Loads messages file ((messages.overlay defaultMessages).overlay entries, none)
  | unusable {file : FileSource} {path : String} {document : Json} (holds : file.Holds path document)
    (other : ∀ entries, document ≠ toJson entries) :
    Loads messages file (messages.overlay defaultMessages, some (unusable path))
  | reported {file : FileSource} {path : String} (bad : file.Unreadable path) :
    Loads messages file (messages.overlay defaultMessages, some (unreadable path))
  | escaped {file : FileSource} {failure : Failure} (escapes : file.Escapes failure) :
    Loads messages file (messages.overlay defaultMessages, some failure)

/-- How loading messages should end: with those of a file over the built-in ones, or in a failure that is about
messages. -/
def Answers (messages : Messages) (file : FileSource) : Messages × Option Failure → Prop
  | (kept, none) =>
    (file = .notGiven ∧ kept = messages.overlay defaultMessages) ∨
      ∃ path entries, file.Holds path (toJson entries) ∧ kept = (messages.overlay defaultMessages).overlay entries
  | (_, some failure) => ∃ text, failure = .messages text

/-- A list is read item by item if it was written item by item. -/
theorem mapM_eq_some_iff {α β : Type} {read : α → Option β} {write : β → α}
    (inverse : ∀ a b, read a = some b ↔ a = write b) (written : List α) (items : List β) :
    written.mapM read = some items ↔ written = items.map write := by
  induction written generalizing items with
  | nil => cases items <;> simp
  | cons a written ih =>
    rw [List.mapM_cons]
    simp only [Option.bind_eq_bind, Option.bind_eq_some_iff, Option.pure_def, Option.some.injEq]
    constructor
    · rintro ⟨b, taken, rest, others, rfl⟩
      rw [List.map_cons, ← (inverse a b).mp taken, ← (ih rest).mp others]
    · intro same
      cases items with
      | nil => cases same
      | cons b rest =>
        obtain ⟨rfl, rfl⟩ := List.cons.inj same
        exact ⟨b, (inverse _ b).mpr rfl, rest, (ih rest).mpr rfl, rfl⟩

/-- The messages that a document consists of are those that it writes. -/
theorem ofJson?_eq_some_iff {document : Json} {entries : Table String} :
    ofJson? document = some entries ↔ document = toJson entries := by
  unfold ofJson? toJson
  split
  case h_2 other => exact ⟨nofun, fun same => absurd same (other _)⟩
  case h_1 members =>
    rw [Json.obj.injEq]
    refine mapM_eq_some_iff (fun (key, value) (name, text) => ?_) members entries
    cases value <;> simp [Json.str?]

/-- Every loading of messages ends in one of the ways. -/
theorem load_loads (messages : Messages) (file : FileSource) : Loads messages file (messages.load file) := by
  have reads := file.document_reads unreadable
  unfold load
  generalize file.document unreadable = reading at reads
  cases reads with
  | nothing => exact .builtin
  | document holds =>
    dsimp only
    split
    case h_1 entries taken =>
      cases ofJson?_eq_some_iff.mp taken
      exact .overlaid holds
    case h_2 untaken =>
      refine .unusable holds fun entries same => ?_
      rw [ofJson?_eq_some_iff.mpr same] at untaken
      cases untaken
  | reported bad => exact .reported bad
  | escaped escapes => exact .escaped escapes

/-- A failure to read a file that escapes is the failure to load messages. -/
theorem load_of_escapes (messages : Messages) {file : FileSource} {failure : Failure}
    (escapes : file.Escapes failure) : messages.load file = (messages.overlay defaultMessages, some failure) := by
  unfold load
  rw [escapes.document_eq]

/-- Messages load as they should unless a failure to read the file escapes. -/
theorem answers_iff (messages : Messages) (file : FileSource) :
    Answers messages file (messages.load file) ↔ ∀ failure, ¬file.Escapes failure := by
  constructor
  · intro answers failure escapes
    rw [load_of_escapes messages escapes] at answers
    obtain ⟨text, own⟩ := answers
    exact escapes.isForeign.2 text own
  · intro contained
    have loads := load_loads messages file
    generalize messages.load file = loaded at loads
    cases loads with
    | builtin => exact .inl ⟨rfl, rfl⟩
    | overlaid holds => exact .inr ⟨_, _, holds, rfl⟩
    | unusable => exact ⟨_, rfl⟩
    | reported => exact ⟨_, rfl⟩
    | escaped escapes => exact absurd escapes (contained _)

end Messages

/-! ## Both -/

/-- **Loading fails in a way of its own, unless the failure to read a file escapes.**  This is said of every path, given
or not, and of whatever is stored at it, if anything is, for flows and for messages.  Both end in one of the ways that
are listed, and both end as they should exactly if no failure escapes.  A failure that escapes is the failure of both,
and then there is a null character in the path, or the bytes are no text, or more digits than an integer may have stand
in a row in the text. -/
theorem loadings_end (messages : Messages) (path : Option String) (stored : Option Bytes) :
    let file := FileSource.ofPath path stored
    (Flow.Loads file (Flow.load file) ∧ (Flow.Answers (Flow.load file) ↔ ∀ failure, ¬file.Escapes failure)) ∧
      (messages.Loads file (messages.load file) ∧
        (messages.Answers file (messages.load file) ↔ ∀ failure, ¬file.Escapes failure)) ∧
      ∀ failure, file.Escapes failure →
        Flow.load file = .error failure ∧ (messages.load file).2 = some failure ∧ FileSource.Breaks path stored := by
  intro file
  refine ⟨⟨Flow.load_loads file, Flow.answers_iff file⟩,
    ⟨messages.load_loads file, messages.answers_iff file⟩, fun failure escapes => ⟨?flow, ?messages, ?breaks⟩⟩
  case flow => exact Flow.load_of_escapes escapes
  case messages => rw [messages.load_of_escapes escapes]
  case breaks => exact escapes.breaks

/-- A byte that begins no character keeps both from loading, and neither says so in a failure of its own. -/
theorem undecodable_escapes :
    let file := FileSource.ofPath (some "settings.json") (some [0xFF])
    Flow.load file = .error .undecodable ∧ ¬Flow.Answers (Flow.load file) ∧
      (Messages.load [] file).2 = some .undecodable ∧ ¬Messages.Answers [] file (Messages.load [] file) := by
  intro file
  have given : file = .content "settings.json" [0xFF] := rfl
  have noText : utf8? [0xFF] = none := by decide +kernel
  have escapes : file.Escapes .undecodable := given ▸ .undecodable noText
  refine ⟨Flow.load_of_escapes escapes, fun answers => ?flow, ?_, fun answers => ?messages⟩
  case flow => exact (Flow.answers_iff file).mp answers _ escapes
  case messages => exact (Messages.answers_iff [] file).mp answers _ escapes
  rw [Messages.load_of_escapes [] escapes]

end Storekeeper
