import Storekeeper.Table
import Storekeeper.Text.Blank
import Storekeeper.Text.Case
import Storekeeper.Text.Line

/-!
# Fields of a message

A message gives fields as lines `key: value`.  A line is cut at its first colon; blanks around key
and value are dropped and the key is lowered.  A line without a colon, without a key or without a
value gives nothing, and of two lines with one key the later counts.
-/

namespace Storekeeper

/-- The key and the value of a line, if it gives a field. -/
def fieldOfLine? (line : List Char) : Option (String × String) :=
  match line.dropWhile (· != ':') with
  | [] => none
  | _ :: rest =>
    let key := Text.lowerChars (Text.trim (line.takeWhile (· != ':')))
    let value := Text.trim rest
    if key.isEmpty || value.isEmpty then none
    else some (String.ofList key, String.ofList value)

/-- The fields that a message gives. -/
def parseFields (message : String) : Table String :=
  ((Text.lines message.toList).filterMap fieldOfLine?).foldl
    (fun fields field => fields.put field.1 field.2) []

end Storekeeper
