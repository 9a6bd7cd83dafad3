import Storekeeper.Message.Basic
import Storekeeper.Checked.Scalar
import Storekeeper.Checked.Record

/-!
# Reading messages

A message of a user and a button of a menu, read from documents that give their members by name.
-/

namespace Storekeeper

open Checked

/-- Whether a message is an image; it is a text if nothing is said. -/
def Inbound.readIsImage : Json → Checked Bool
  | .str "text" => ok false
  | .str "image" => ok true
  | _ => fail .notLiteral

/-- The message with a content: an address if it is an image. -/
def Inbound.of (isImage : Bool) (content : String) (mimeType : Option String) : Inbound :=
  if isImage then .image content mimeType else .text content

/-- A message of a user. -/
def Inbound.read : Json → Checked Inbound :=
  record "InboundMessage" fun members =>
    Inbound.of
      <$> optionalMember members ["type"] false Inbound.readIsImage
      <*> required members ["content"] Checked.text
      <*> optionalMember members ["mime_type"] none (nullable Checked.text)

/-- A button of a menu. -/
def Button.read : Json → Checked Button :=
  record "ButtonOption" fun members =>
    Button.mk <$> required members ["id"] text <*> required members ["label"] text

end Storekeeper
