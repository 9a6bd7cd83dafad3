import Storekeeper.Message.Basic
import Storekeeper.Failure
import Storekeeper.Checked.Scalar
import Storekeeper.Checked.Record

/-!
# Notifications

The provider notifies the assistant of what happened in a chat.  `Notification.read` reads the
members that matter and ignores all others; `Notification.message?` is the text or image that a
notification carries, `none` for kinds of messages that are not handled and for empty ones.
-/

namespace Storekeeper

open Checked

/-- The account that was notified. -/
structure Account where
  id : Int
  wid : String

/-- Who wrote, and in which chat. -/
structure Author where
  chatId : String
  sender : String

/-- The press of a button of a menu. -/
structure ButtonPress where
  selectedId : Option String
  selectedText : Option String
  stanzaId : Option String

/-- The press of a button of a template. -/
structure TemplatePress where
  selectedId : Option String
  selectedText : Option String
  selectedIndex : Option Int
  stanzaId : Option String

/-- A file. -/
structure FileMessage where
  downloadUrl : String
  caption : Option String
  mimeType : Option String
  jpegThumbnail : Option String
  isForwarded : Option Bool
  forwardingScore : Option Int

/-- The message that a notification is about: its kind, and the parts that kinds have. -/
structure MessageData where
  kind : String
  text : Option String
  buttons : Option ButtonPress
  interactiveButtons : Option ButtonPress
  template : Option TemplatePress
  file : Option FileMessage

/-- A notification. -/
structure Notification where
  kind : String
  account : Account
  author : Author
  data : MessageData
  id : String

/-- The kind of notification that carries a message. -/
def Notification.incoming : String :=
  "incomingMessageReceived"

/-- A member that may be missing or null. -/
def maybe {α : Type} (members : Table Json) (name : String) (reading : Json → Checked α) :
    Checked (Option α) :=
  optionalMember members [name] none (nullable reading)

/-- The account that a document describes. -/
def Account.read : Json → Checked Account :=
  record "InstanceData" fun members =>
    Account.mk <$> required members ["idInstance"] integer <*> required members ["wid"] text

/-- The author that a document describes. -/
def Author.read : Json → Checked Author :=
  record "SenderData" fun members =>
    Author.mk <$> required members ["chatId"] text <*> required members ["sender"] text

/-- The press of a button of a menu that a document describes. -/
def ButtonPress.read : Json → Checked ButtonPress :=
  record "ButtonsResponse" fun members =>
    ButtonPress.mk
      <$> maybe members "selectedButtonId" text
      <*> maybe members "selectedButtonText" text
      <*> maybe members "stanzaId" text

/-- The press of a button of a template that a document describes. -/
def TemplatePress.read : Json → Checked TemplatePress :=
  record "TemplateButtonReply" fun members =>
    TemplatePress.mk
      <$> maybe members "selectedId" text
      <*> maybe members "selectedDisplayText" text
      <*> maybe members "selectedIndex" integer
      <*> maybe members "stanzaId" text

/-- The file that a document describes. -/
def FileMessage.read : Json → Checked FileMessage :=
  record "FileMessageData" fun members =>
    FileMessage.mk
      <$> required members ["downloadUrl"] text
      <*> maybe members "caption" text
      <*> maybe members "mimeType" text
      <*> maybe members "jpegThumbnail" text
      <*> maybe members "isForwarded" truth
      <*> maybe members "forwardingScore" integer

/-- The text of a text message. -/
def readTextMessage : Json → Checked String :=
  record "TextMessageData" fun members => required members ["textMessage"] text

/-- The message that a document describes. -/
def MessageData.read : Json → Checked MessageData :=
  record "MessageData" fun members =>
    MessageData.mk
      <$> required members ["typeMessage"] Checked.text
      <*> maybe members "textMessageData" readTextMessage
      <*> maybe members "buttonsResponseMessage" ButtonPress.read
      <*> maybe members "interactiveButtonsResponse" ButtonPress.read
      <*> maybe members "templateButtonReplyMessage" TemplatePress.read
      <*> maybe members "fileMessageData" FileMessage.read

/-- The notification that a document describes. -/
def Notification.read : Json → Checked Notification :=
  record "IncomingWebhook" fun members =>
    Notification.mk
      <$> required members ["typeWebhook"] text
      <*> required members ["instanceData"] Account.read
      <*> required members ["senderData"] Author.read
      <*> required members ["messageData"] MessageData.read
      <*> required members ["idMessage"] text

/-- The failure that a document is no notification; it names the first flaw. -/
def notNotification (flaws : List Flaw) : Failure :=
  match flaws with
  | [] => .webhook "Invalid webhook payload: validation failed" "unknown"
  | flaw :: _ =>
    let field := flaw.pathText
    .webhook ("Invalid webhook payload: " ++ flaw.cause.text)
      (if field.isEmpty then "unknown" else field)

/-- The notification that a body is, or the failure that says what is wrong with it. -/
def Notification.parse (body : Json) : Except Failure Notification :=
  match Notification.read body with
  | .ok notification => .ok notification
  | .flawed flaws => .error (notNotification flaws)

/-- The first of two texts that is there and not empty, the second as it is otherwise. -/
def firstGiven (first second : Option String) : Option String :=
  match first with
  | some s => if s.isEmpty then second else some s
  | none => second

/-- A text message, unless the text is missing or empty. -/
def Inbound.ofText? : Option String → Option Inbound
  | some content => if content.isEmpty then none else some (.text content)
  | none => none

/-- The text or image that a message carries. -/
def MessageData.message? (data : MessageData) : Option Inbound :=
  match data.kind with
  | "textMessage" => Inbound.ofText? data.text
  | "buttonsResponseMessage" =>
    data.buttons.bind fun press => Inbound.ofText? (firstGiven press.selectedId press.selectedText)
  | "interactiveButtonsResponse" =>
    data.interactiveButtons.bind fun press =>
      Inbound.ofText? (firstGiven press.selectedId press.selectedText)
  | "templateButtonsReplyMessage" =>
    data.template.bind fun press => Inbound.ofText? (firstGiven press.selectedId press.selectedText)
  | "imageMessage" =>
    data.file.bind fun file =>
      if file.downloadUrl.isEmpty then none else some (.image file.downloadUrl file.mimeType)
  | _ => none

/-- The text or image that a notification carries. -/
def Notification.message? (n : Notification) : Option Inbound :=
  n.data.message?

/-- A member with a value, or none. -/
def given {α : Type} (name : String) (encode : α → Json) : Option α → List (String × Json)
  | some value => [(name, encode value)]
  | none => []

/-- The press of a button of a menu as a document. -/
def ButtonPress.toJson (p : ButtonPress) : Json :=
  .obj (given "selectedButtonId" .str p.selectedId ++
    given "selectedButtonText" .str p.selectedText ++ given "stanzaId" .str p.stanzaId)

/-- The press of a button of a template as a document. -/
def TemplatePress.toJson (p : TemplatePress) : Json :=
  .obj (given "selectedId" .str p.selectedId ++ given "selectedDisplayText" .str p.selectedText ++
    given "selectedIndex" .int p.selectedIndex ++ given "stanzaId" .str p.stanzaId)

/-- A file as a document. -/
def FileMessage.toJson (f : FileMessage) : Json :=
  .obj (("downloadUrl", .str f.downloadUrl) ::
    (given "caption" .str f.caption ++ given "mimeType" .str f.mimeType ++
      given "jpegThumbnail" .str f.jpegThumbnail ++ given "isForwarded" .bool f.isForwarded ++
      given "forwardingScore" .int f.forwardingScore))

/-- A message as a document. -/
def MessageData.toJson (d : MessageData) : Json :=
  .obj (("typeMessage", .str d.kind) ::
    (given "textMessageData" (fun s => .obj [("textMessage", .str s)]) d.text ++
      given "buttonsResponseMessage" ButtonPress.toJson d.buttons ++
      given "interactiveButtonsResponse" ButtonPress.toJson d.interactiveButtons ++
      given "templateButtonReplyMessage" TemplatePress.toJson d.template ++
      given "fileMessageData" FileMessage.toJson d.file))

/-- A notification as a document: the members that were read and are not null. -/
def Notification.toJson (n : Notification) : Json :=
  .obj
    [("typeWebhook", .str n.kind),
     ("instanceData", .obj [("idInstance", .int n.account.id), ("wid", .str n.account.wid)]),
     ("senderData", .obj [("chatId", .str n.author.chatId), ("sender", .str n.author.sender)]),
     ("messageData", n.data.toJson), ("idMessage", .str n.id)]

end Storekeeper
