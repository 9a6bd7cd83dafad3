import Storekeeper.Notification.Basic
import Storekeeper.Dialogue.Desk
import Storekeeper.Json.Reader

/-!
# Handling notifications

A notification that carries a message is answered by one turn, and what the turn says is sent to
the chat.  The provider is always answered with success, so that it does not deliver a notification
again which could not be handled; what became of the notification stands in the body.
-/

namespace Storekeeper

/-- What became of a notification. -/
inductive Handling where
  | ignoredKind
  | ignoredContent
  | processed (handled : Bool)
  deriving DecidableEq, Repr

namespace Handling

/-- Whether the notification was handled. -/
def isHandled : Handling → Bool
  | processed handled => handled
  | _ => false

/-- The name of what was done. -/
def action : Handling → String
  | ignoredKind => "ignored_webhook_type"
  | ignoredContent => "ignored_unsupported"
  | processed _ => "flow_processed"

end Handling

/-- How messages are sent to a chat. -/
structure Outlet (σ : Type) where
  sendText : String → String → σ → Except Failure Unit × σ
  sendMenu : String → Menu → σ → Except Failure Unit × σ

namespace Outlet

variable {σ : Type}

/-- Sends a text unless it is missing or empty. -/
def sendGiven (outlet : Outlet σ) (chat : String) (text : Option String) (s : σ) :
    Except Failure Unit × σ :=
  match text.filter (!·.isEmpty) with
  | some text => outlet.sendText chat text s
  | none => (.ok (), s)

/-- Sends a reply: what stands before first, then the menu if there is one and else the response.
Nothing more is sent after a failure. -/
def deliver (outlet : Outlet σ) (chat : String) (reply : Reply) (s : σ) :
    Except Failure Unit × σ :=
  match outlet.sendGiven chat reply.preMessage s with
  | (.error failure, s) => (.error failure, s)
  | (.ok (), s) =>
    match reply.buttons with
    | some menu => outlet.sendMenu chat menu s
    | none => outlet.sendGiven chat reply.response s

end Outlet

/-- How the provider is answered. -/
inductive Acknowledgement where
  /-- The body is no JSON value. -/
  | unreadable
  /-- The value is no notification; `field` is the place of the first flaw. -/
  | invalid (field : String)
  /-- The notification could not be processed. -/
  | failed
  /-- The notification has been dealt with. -/
  | accepted (handling : Handling)
  deriving DecidableEq, Repr

/-- The body of an answer to the provider. -/
def Acknowledgement.toJson : Acknowledgement → Json
  | unreadable => .obj [("ok", .bool false), ("error", .str "Invalid JSON")]
  | invalid field =>
    .obj [("ok", .bool false), ("error", .str "Invalid payload"), ("field", .str field)]
  | failed => .obj [("ok", .bool false), ("error", .str "Processing failed")]
  | accepted handling =>
    .obj [("ok", .bool true), ("handled", .bool handling.isHandled),
      ("action", .str handling.action)]

/-- The answer for what a handling came to. -/
def Acknowledgement.ofOutcome : Except Failure Handling → Acknowledgement
  | .ok handling => accepted handling
  | .error (.webhook _ field) => invalid field
  | .error _ => failed

namespace Desk

variable {σ : Type}

/-- Answers a message of a chat and sends the answer. -/
def converse (world : World σ) (outlet : Outlet σ) (a : Assistant) (chat : String)
    (message : Inbound) (desk : Desk) (s : σ) : Except Failure Handling × Desk × σ :=
  match desk.process world a chat message s with
  | (.error failure, desk, s) => (.error failure, desk, s)
  | (.ok reply, desk, s) =>
    if reply.handled then
      match outlet.deliver chat reply s with
      | (.error failure, s) => (.error failure, desk, s)
      | (.ok (), s) => (.ok (.processed true), desk, s)
    else (.ok (.processed false), desk, s)

/-- Handles the value that is to be a notification. -/
def handle (world : World σ) (outlet : Outlet σ) (a : Assistant) (body : Json) (desk : Desk)
    (s : σ) : Except Failure Handling × Desk × σ :=
  match Notification.parse body with
  | .error failure => (.error failure, desk, s)
  | .ok notification =>
    if notification.kind = Notification.incoming then
      match notification.message? with
      | none => (.ok .ignoredContent, desk, s)
      | some message => desk.converse world outlet a notification.author.chatId message s
    else (.ok .ignoredKind, desk, s)

/-- Handles the body of a request in which a notification is delivered. -/
def receive (world : World σ) (outlet : Outlet σ) (a : Assistant) (body : Text.Bytes) (desk : Desk)
    (s : σ) : Acknowledgement × Desk × σ :=
  match Json.readBody body with
  | .error _ => (.unreadable, desk, s)
  | .ok value =>
    let (outcome, desk, s) := desk.handle world outlet a value s
    (.ofOutcome outcome, desk, s)

end Desk

end Storekeeper
