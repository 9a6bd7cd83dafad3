import Storekeeper.Messages.Defaults
import Storekeeper.Text.Replace

/-!
# Messages by key

Looking messages up and filling their placeholders.  A key without a message is answered with a
visible placeholder that names it.
-/

namespace Storekeeper

/-- The messages in use, by key. -/
abbrev Messages : Type :=
  Table String

namespace Messages

/-- What is said when a key has no message. -/
def missing (key : String) : String :=
  "[Missing message: " ++ key ++ "]"

/-- The message of a key. -/
def get (messages : Messages) (key : String) : String :=
  (Table.get? messages key).getD (missing key)

/-- The message of a key, or a text that the caller has for the case that there is none. -/
def getOr (messages : Messages) (key : String) : Option String → String
  | some default => (Table.get? messages key).getD default
  | none => messages.get key

/-- The way a placeholder of a name is written. -/
def placeholder (name : String) : String :=
  "\x7b" ++ name ++ "\x7d"

/-- A text with placeholders filled in, one name after the other. -/
def fill (text : String) (values : List (String × String)) : String :=
  values.foldl (fun text (name, value) => Text.replace (placeholder name) value text) text

/-- The message of a key with its placeholders filled in. -/
def render (messages : Messages) (key : String) (values : List (String × String)) : String :=
  fill (messages.get key) values

end Messages

end Storekeeper
