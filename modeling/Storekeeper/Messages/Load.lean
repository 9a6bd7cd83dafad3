import Storekeeper.Messages.Basic
import Storekeeper.File

/-!
# Loading messages

Loading puts the built-in messages over those in use and then, if a file is given, the file's
messages over these.  A file that cannot be used leaves the built-in messages in place.
-/

namespace Storekeeper.Messages

/-- The messages that a document consists of: an object of texts. -/
def ofJson? : Json → Option (Table String)
  | .obj members => members.mapM fun (key, value) => value.str?.map (key, ·)
  | _ => none

/-- The failure to read a messages file as JSON. -/
def unreadable (path : String) : Failure :=
  .messages ("Failed to load messages from " ++ path)

/-- The failure to take a document at a path for messages. -/
def unusable (path : String) : Failure :=
  .messages ("Messages file " ++ path ++ " must be a JSON object of strings")

/-- The messages in use after loading, and the failure if there was one. -/
def load (messages : Messages) (file : FileSource) : Messages × Option Failure :=
  let messages := messages.overlay defaultMessages
  match file.document unreadable with
  | .error failure => (messages, some failure)
  | .ok none => (messages, none)
  | .ok (some (path, document)) =>
    match ofJson? document with
    | some entries => (messages.overlay entries, none)
    | none => (messages, some (unusable path))

end Storekeeper.Messages
