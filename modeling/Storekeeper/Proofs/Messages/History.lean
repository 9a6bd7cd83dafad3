import Mathlib.Data.List.Induction
import Storekeeper.Proofs.Loading

/-!
# Messages after any loadings

Each loading puts the built-in messages over those in use and then the file's over these, or nothing if it fails.  So a
text of an earlier file lasts if its key has no built-in message, and is gone with the next loading if it has one.

* `FileSource.text?` is the text that a file has for a key; `FileSource.text?_eq_some_iff` says which text that is.
* `Messages.get?_load` is what one loading does to what is found for a key.
* `Messages.lookup_after_loads` is what is found after any number of loadings, those that fail among them.
-/

namespace Storekeeper

namespace FileSource

/-- There are messages in the file, and this is the one of a key. -/
def Says (file : FileSource) (key text : String) : Prop :=
  ∃ path entries, file.Holds path (Messages.toJson entries) ∧ (key, text) ∈ entries

/-- The messages in a file, if nothing keeps them from being loaded. -/
def messages? (file : FileSource) : Option (Table String) :=
  match file.document Messages.unreadable with
  | .ok (some (_, document)) => Messages.ofJson? document
  | _ => none

/-- The text that a file has for a key. -/
def text? (file : FileSource) (key : String) : Option String :=
  file.messages?.bind fun entries => Table.get? entries key

variable {file : FileSource} {path : String} {entries : Table String}

theorem Holds.document_eq {document : Json} (holds : file.Holds path document) (unreadable : String → Failure) :
    file.document unreadable = .ok (some (path, document)) := by
  cases holds with
  | written text read =>
    simp only [FileSource.document, documentOf, text, read]
    rfl

theorem messages?_eq_some_iff :
    file.messages? = some entries ↔ ∃ path, file.Holds path (Messages.toJson entries) := by
  constructor
  · intro found
    have reads := file.document_reads Messages.unreadable
    unfold messages? at found
    generalize file.document Messages.unreadable = reading at reads found
    cases reads with
    | nothing => cases found
    | @document _ path document holds =>
      rw [Messages.ofJson?_eq_some_iff.mp found] at holds
      exact ⟨path, holds⟩
    | reported => cases found
    | escaped => cases found
  · rintro ⟨path, holds⟩
    unfold messages?
    rw [holds.document_eq]
    exact Messages.ofJson?_eq_some_iff.mpr rfl

/-- Messages that a file holds have different keys. -/
theorem Holds.nodup (holds : file.Holds path (Messages.toJson entries)) : entries.names.Nodup := by
  cases holds with
  | written text read =>
    have distinct := Json.nodup_of_read read
    unfold Table.names at distinct ⊢
    rwa [List.map_map] at distinct

theorem text?_eq_some_iff {key text : String} : file.text? key = some text ↔ file.Says key text := by
  unfold text? Says
  simp only [Option.bind_eq_some_iff, messages?_eq_some_iff]
  constructor
  · rintro ⟨entries, ⟨path, holds⟩, found⟩
    exact ⟨path, entries, holds, Table.mem_of_get? found⟩
  · rintro ⟨path, entries, holds, member⟩
    exact ⟨entries, ⟨path, holds⟩, Table.get?_of_mem holds.nodup member⟩

/-- No message of a file is over another of the same key. -/
theorem get?_messages? (file : FileSource) (key : String) :
    Table.get? (file.messages?.getD []).reverse key = file.text? key := by
  unfold text?
  cases held : file.messages? with
  | none => rfl
  | some entries =>
    obtain ⟨path, holds⟩ := messages?_eq_some_iff.mp held
    exact Table.get?_perm holds.nodup (List.reverse_perm entries) key

end FileSource

namespace Messages

/-- The messages in use after some loadings, one after the other. -/
def loadAll (messages : Messages) (files : List FileSource) : Messages :=
  files.foldl (fun messages file => (messages.load file).1) messages

/-- The built-in messages have different keys. -/
theorem defaultMessages_nodup : defaultMessages.names.Nodup := by
  decide +kernel

variable {file : FileSource}

/-- Loading puts the messages of a file, if there are any, over the built-in ones. -/
theorem load_eq (messages : Messages) (file : FileSource) :
    (messages.load file).1 = (messages.overlay defaultMessages).overlay (file.messages?.getD []) := by
  unfold load FileSource.messages?
  -- The built-in messages are nothing to compute with.
  generalize messages.overlay defaultMessages = builtin
  cases file.document unreadable with
  | error failure => rfl
  | ok reading =>
    cases reading with
    | none => rfl
    | some reading =>
      dsimp only
      cases ofJson? reading.2 <;> rfl

/-- Loading fails only with a file in which there are no messages. -/
theorem messages?_of_failed {messages : Messages} (failed : (messages.load file).2 ≠ none) :
    file.messages? = none := by
  unfold load at failed
  unfold FileSource.messages?
  generalize messages.overlay defaultMessages = builtin at failed
  cases reading : file.document unreadable with
  | error failure => rfl
  | ok found =>
    rw [reading] at failed
    cases found with
    | none => exact absurd rfl failed
    | some found =>
      dsimp only at failed ⊢
      cases entries : ofJson? found.2 with
      | none => rfl
      | some entries =>
        rw [entries] at failed
        exact absurd rfl failed

/-- What a loading does to what is found for a key. -/
theorem get?_load (messages : Messages) (file : FileSource) (key : String) :
    Table.get? (messages.load file).1 key =
      (file.text? key <|> Table.get? defaultMessages key <|> Table.get? messages key) := by
  rw [load_eq, Table.get?_overlay, file.get?_messages?, Table.get?_overlay,
    Table.get?_perm defaultMessages_nodup (List.reverse_perm defaultMessages)]

/-- What the last file has is what the last file that has something has. -/
theorem findSome?_last (files : List FileSource) (key : String) :
    (files.getLast?.bind (·.text? key) <|> files.reverse.findSome? (·.text? key)) =
      files.reverse.findSome? (·.text? key) := by
  rw [List.getLast?_eq_head?_reverse]
  cases files.reverse with
  | nil => rfl
  | cons last earlier =>
    rw [List.head?_cons, Option.bind_some, List.findSome?_cons]
    cases last.text? key <;> rfl

/-- What is found for a key after some loadings: what the last file has, then the built-in message if there has been a
loading, and then what the last of the files has that has something. -/
theorem get?_loadAll (messages : Messages) (files : List FileSource) (key : String) :
    Table.get? (messages.loadAll files) key =
      (files.getLast?.bind (·.text? key) <|> (if files.isEmpty then none else Table.get? defaultMessages key) <|>
        files.reverse.findSome? (·.text? key) <|> Table.get? messages key) := by
  induction files using List.reverseRecOn with
  | nil => rfl
  | append_singleton files last ih =>
    have step : messages.loadAll (files ++ [last]) = ((messages.loadAll files).load last).1 := List.foldl_append ..
    have attempted : (files ++ [last]).isEmpty = false := by simp
    rw [step, get?_load, ih, List.getLast?_concat, List.reverse_concat, List.findSome?_cons, attempted]
    -- A text of an earlier file counts only where the last file and the built-in messages have none.
    cases said : last.text? key with
    | some text => simp [said]
    | none =>
      cases builtin : Table.get? defaultMessages key with
      | some text => simp [said]
      | none =>
        have earlier := findSome?_last files key
        simpa [said, Option.or_assoc] using congrArg (·.or (Table.get? messages key)) earlier

/-- What is said for a key without a message. -/
theorem getOr_eq (messages : Messages) (key : String) (default : Option String) :
    messages.getOr key default = (Table.get? messages key).getD (default.getD (missing key)) := by
  cases default <;> rfl

/-- **What the messages are after any loadings.**  Whatever messages there were at first, and whichever files are loaded
in a row, the message of a key is that of the last file.  If this has none, or could not be loaded, it is the built-in
message, and for a key without one it is that of the last file that has one; then what there was at first, the text of
the caller and the visible placeholder follow.  A file has the messages that are written in it if nothing else is; one
with which loading fails has none, and leaves the same behind as a loading without a file. -/
theorem lookup_after_loads (messages : Messages) (files : List FileSource) (key : String) (default : Option String) :
    (messages.loadAll files).getOr key default =
        (files.getLast?.bind (·.text? key) <|> (if files.isEmpty then none else Table.get? defaultMessages key) <|>
          files.reverse.findSome? (·.text? key) <|> Table.get? messages key).getD (default.getD (missing key)) ∧
      ∀ file : FileSource,
        (∀ text, file.text? key = some text ↔ file.Says key text) ∧
        ∀ failure, (messages.load file).2 = some failure →
          file.text? key = none ∧ (messages.load file).1 = (messages.load .notGiven).1 := by
  refine ⟨?lookup, fun file => ⟨fun text => FileSource.text?_eq_some_iff, fun failure failed => ?fails⟩⟩
  case lookup => rw [getOr_eq, get?_loadAll]
  case fails =>
    have nothing : file.messages? = none := messages?_of_failed (by rw [failed]; exact nofun)
    refine ⟨?_, ?_⟩
    · unfold FileSource.text?
      rw [nothing]
      rfl
    · rw [load_eq, load_eq, nothing]
      rfl

end Messages

end Storekeeper
