import Storekeeper.Failure
import Storekeeper.Json.Reader
import Storekeeper.Text.Encoding

/-!
# Configuration files

A configuration file is given by a path or not at all; an empty path counts as none.  Behind a path there is a file
with some bytes or no file, and a path with a null character is not even looked up.  The file is a document in JSON.
-/

namespace Storekeeper

/-- What a path argument leads to. -/
inductive FileSource where
  | notGiven
  | impossible (path : String)
  | absent (path : String)
  | content (path : String) (bytes : Text.Bytes)

namespace FileSource

/-- What a path argument leads to, given the bytes that are stored at the path, if there are any. -/
def ofPath : Option String → Option Text.Bytes → FileSource
  | none, _ => .notGiven
  | some path, stored =>
    if path.isEmpty then .notGiven
    else if path.toList.contains '\x00' then .impossible path
    else
      match stored with
      | none => .absent path
      | some bytes => .content path bytes

/-- The document that bytes write; `unreadable` is the failure if they write a text that is no JSON. -/
def documentOf (unreadable : Failure) (bytes : Text.Bytes) : Except Failure Json :=
  match Text.utf8? bytes with
  | none => .error .undecodable
  | some cs =>
    match Json.read cs with
    | .error .malformed => .error unreadable
    | .error .integerTooLong => .error .integerTooLong
    | .ok document => .ok document

/-- The path and the document at it, if a path is given; `unreadable` is the failure if there is no file at a path or
no JSON in it. -/
def document (unreadable : String → Failure) : FileSource → Except Failure (Option (String × Json))
  | notGiven => .ok none
  | impossible _ => .error (.raised .valueError)
  | absent path => .error (unreadable path)
  | content path bytes => (documentOf (unreadable path) bytes).map fun document => some (path, document)

end FileSource

end Storekeeper
