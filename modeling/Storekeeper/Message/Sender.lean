import Storekeeper.Http.Guarded
import Storekeeper.Json.Reader
import Storekeeper.Message.Basic
import Storekeeper.Tally
import Storekeeper.Text.Blank

/-!
# Sending messages

Messages go out through the provider's gateway, behind a circuit breaker and each of them tried
once, or they are only written down.
-/

namespace Storekeeper

/-- What kinds of message are sent. -/
inductive MessageKind where
  | text
  | buttons
  deriving DecidableEq, Repr

/-- The name of a kind. -/
def MessageKind.name : MessageKind → String
  | text => "text"
  | buttons => "buttons"

/-- How sending a message ended. -/
inductive SendStatus where
  | sent
  | networkError
  | apiError
  deriving DecidableEq, Repr

/-- The name of a status. -/
def SendStatus.name : SendStatus → String
  | sent => "sent"
  | networkError => "network_error"
  | apiError => "api_error"

/-- A message that was to be sent, as it is counted. -/
structure Sending where
  kind : MessageKind
  status : SendStatus
  deriving DecidableEq, Repr

/-- The provider's gateway for one account. -/
structure Gateway where
  accountUrl : String
  token : String
  breaker : Breaker
  sendings : Tally Sending

namespace Gateway

variable {σ : Type}

/-- A member of an address; one that has not been set is written as a word. -/
def urlPart (part : Option String) : String :=
  part.getD "None"

/-- The gateway for an account with a token. -/
def new (account token : Option String) (baseUrl : String) : Gateway :=
  { accountUrl := Text.stripEnd '/' baseUrl ++ "/waInstance" ++ urlPart account
    token := urlPart token
    breaker := .standard "greenapi"
    sendings := [] }

/-- A message counts as sent or as not sent. -/
def counted (gateway : Gateway) (kind : MessageKind) (status : SendStatus) : Gateway :=
  { gateway with sendings := gateway.sendings.count ⟨kind, status⟩ }

/-- The identifier of the message that a response to a sending names. -/
def understand (gateway : Gateway) (kind : MessageKind) (status : Int) (body : Text.Bytes) :
    Except Failure Json × Gateway :=
  if refusedStatus ≤ status then
    (.error (.sender ("Green API error: " ++ toString status) (some status)),
      gateway.counted kind .apiError)
  else
    match Json.readBody body with
    | .error _ => (.error (.sender "Green API returned an invalid response" none), gateway)
    | .ok (.obj members) => (.ok (Json.getD members "idMessage"), gateway.counted kind .sent)
    | .ok _ => (.error .noSuchMember, gateway)

/-- What comes of a sending. -/
def conclude (gateway : Gateway) (kind : MessageKind) : Guarded → Except Failure Json × Gateway
  | .refused => unreachable
  | .sent (.fault cause) =>
    if cause.isTransport then unreachable else (.error (.raised cause), gateway)
  | .sent (.response status body) => gateway.understand kind status body
where
  /-- The provider was not reached. -/
  unreachable : Except Failure Json × Gateway :=
    (.error (.sender "Network error sending message" none), gateway.counted kind .networkError)

/-- Sends a message by one of the gateway's methods: its identifier. -/
def post (network : Network σ) (gateway : Gateway) (method : String) (kind : MessageKind)
    (body : Json) (s : σ) : Except Failure Json × Gateway × σ :=
  let url := gateway.accountUrl ++ "/" ++ method ++ "/" ++ gateway.token
  let (result, breaker, s) := gateway.breaker.send network { method := .post, url, body } s
  let (answer, gateway) := { gateway with breaker }.conclude kind result
  (answer, gateway, s)

/-- The body of a text message. -/
def textBody (chat message : String) : Json :=
  .obj [("chatId", .str chat), ("message", .str message)]

/-- A line of a menu, unless it is missing or empty. -/
def lineOf (name : String) (line : Option String) : List (String × Json) :=
  ((line.filter (!·.isEmpty)).map fun line => (name, Json.str line)).toList

/-- The body of a menu. -/
def menuBody (chat : String) (menu : Menu) : Json :=
  .obj
    ([("chatId", .str chat), ("body", .str menu.body),
      ("buttons", .arr (menu.options.map fun button =>
        .obj [("buttonId", .str button.id), ("buttonText", .str button.label)]))] ++
      lineOf "header" menu.header ++ lineOf "footer" menu.footer)

/-- Sends a text. -/
def sendText (network : Network σ) (gateway : Gateway) (chat message : String) (s : σ) :
    Except Failure Json × Gateway × σ :=
  gateway.post network "sendMessage" .text (textBody chat message) s

/-- Sends a menu. -/
def sendMenu (network : Network σ) (gateway : Gateway) (chat : String) (menu : Menu) (s : σ) :
    Except Failure Json × Gateway × σ :=
  gateway.post network "sendInteractiveButtonsReply" .buttons (menuBody chat menu) s

end Gateway

/-- A message that was only written down, with its identifier. -/
inductive Written where
  | text (chat message id : String)
  | menu (chat : String) (menu : Menu) (id : String)
  deriving DecidableEq, Repr

/-- A message as it is written down. -/
def Written.toJson : Written → Json
  | text chat message id =>
    .obj [("kind", .str "text"), ("chat_id", .str chat), ("message", .str message), ("id", .str id)]
  | menu chat content id =>
    .obj
      [("kind", .str "buttons"), ("chat_id", .str chat), ("body", .str content.body),
       ("header", .ofOption content.header), ("footer", .ofOption content.footer),
       ("buttons", .arr (content.options.map fun button => .str button.id)), ("id", .str id)]

/-- The messages that were written down. -/
abbrev Notebook : Type :=
  List Written

namespace Notebook

/-- The identifier of the next message. -/
def nextId (notebook : Notebook) : String :=
  "mock-msg-" ++ toString (notebook.length + 1)

/-- Writes a text down. -/
def addText (notebook : Notebook) (chat message : String) : String × Notebook :=
  (notebook.nextId, notebook ++ [.text chat message notebook.nextId])

/-- Writes a menu down. -/
def addMenu (notebook : Notebook) (chat : String) (menu : Menu) : String × Notebook :=
  (notebook.nextId, notebook ++ [.menu chat menu notebook.nextId])

end Notebook

/-- How messages go out. -/
inductive Sender where
  | gateway (gateway : Gateway)
  | notebook (notebook : Notebook)

namespace Sender

variable {σ : Type}

/-- Sends a text: its identifier. -/
def sendText (network : Network σ) (sender : Sender) (chat message : String) (s : σ) :
    Except Failure Json × Sender × σ :=
  match sender with
  | gateway g =>
    let (answer, g, s) := g.sendText network chat message s
    (answer, .gateway g, s)
  | notebook n =>
    let (id, n) := Notebook.addText n chat message
    (.ok (.str id), .notebook n, s)

/-- Sends a menu: its identifier. -/
def sendMenu (network : Network σ) (sender : Sender) (chat : String) (menu : Menu) (s : σ) :
    Except Failure Json × Sender × σ :=
  match sender with
  | gateway g =>
    let (answer, g, s) := g.sendMenu network chat menu s
    (answer, .gateway g, s)
  | notebook n =>
    let (id, n) := Notebook.addMenu n chat menu
    (.ok (.str id), .notebook n, s)

/-- Closes what the sender keeps open. -/
def close (network : Network σ) (sender : Sender) (s : σ) : σ :=
  match sender with
  | gateway _ => network.close s
  | notebook _ => s

/-- What has been counted of the messages that went to the provider. -/
def sendings : Sender → Tally Sending
  | gateway g => g.sendings
  | notebook _ => []

/-- The messages that were written down. -/
def written : Sender → List Written
  | gateway _ => []
  | notebook n => n

end Sender

end Storekeeper
