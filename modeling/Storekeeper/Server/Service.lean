import Storekeeper.Dialogue.Desk
import Storekeeper.Catalog.Client
import Storekeeper.Message.Sender
import Storekeeper.Notification.Handle
import Storekeeper.Messages.Load
import Storekeeper.Flow.Load
import Storekeeper.Settings.Basic

/-!
# The service

A service is an assistant at its desk, wired to a catalog and to a sender.  It runs on a host, which
has a network to the catalog and one to the provider, a clock and a source of identifiers.
-/

namespace Storekeeper

/-- What a service runs on. -/
structure Host (σ : Type) where
  catalogNetwork : Network σ
  senderNetwork : Network σ
  now : σ → Time
  identifier : σ → String × σ

/-- What an assistant is wired to: the catalog's client if there is one, and a sender. -/
structure Links where
  catalog : Option Catalog.Client
  sender : Sender

namespace Host

variable {σ : Type}

/-- Asks the catalog's client; one that is not there has no such operation. -/
def askCatalog {α : Type}
    (ask : Catalog.Client → σ → Except Failure α × Catalog.Client × σ) :
    Links × σ → Except Failure α × Links × σ
  | (links, s) =>
    match links.catalog with
    | none => (.error .noSuchMember, links, s)
    | some client =>
      let (answer, client, s) := ask client s
      (answer, { links with catalog := some client }, s)

/-- The world in which turns happen on a host. -/
def world (host : Host σ) : World (Links × σ) where
  listProducts limit :=
    askCatalog fun client s => client.listProducts host.catalogNetwork limit s
  createProduct product :=
    askCatalog fun client s => client.createProduct host.catalogNetwork product s
  identifier := fun (links, s) =>
    let (id, s) := host.identifier s
    (id, links, s)
  now := fun (_, s) => host.now s

/-- Sends by the sender, whatever identifier the message gets. -/
def sendBy (send : Sender → σ → Except Failure Json × Sender × σ) :
    Links × σ → Except Failure Unit × Links × σ
  | (links, s) =>
    let (answer, sender, s) := send links.sender s
    (answer.map fun _ => (), { links with sender }, s)

/-- How messages leave a host. -/
def outlet (host : Host σ) : Outlet (Links × σ) where
  sendText chat text := sendBy fun sender s => sender.sendText host.senderNetwork chat text s
  sendMenu chat menu := sendBy fun sender s => sender.sendMenu host.senderNetwork chat menu s

end Host

/-- An assistant at its desk, and what it is wired to. -/
structure Service where
  assistant : Assistant
  desk : Desk
  links : Links

/-- The sender that settings ask for. -/
def Settings.sender (s : Settings) : Sender :=
  if s.mockMode then .notebook []
  else .gateway (.new s.gatewayAccount s.gatewayToken s.gatewayUrl)

/-- The client of the catalog that settings name. -/
def Settings.catalog (s : Settings) : Option Catalog.Client :=
  if s.catalogConfigured then
    some (.new (s.storeUrl.getD "") (s.consumerKey.getD "") (s.consumerSecret.getD ""))
  else none

namespace Service

/-- How many actions are run in a row in one turn. -/
def maxHops : Int :=
  3

/-- The service that settings, a messages file and a flow file ask for. -/
def start (settings : Settings) (messagesFile flowFile : FileSource) : Except Failure Service := do
  let messages ←
    match Messages.load [] messagesFile with
    | (messages, none) => .ok messages
    | (_, some failure) => .error failure
  let flow ← Flow.load flowFile
  let store ← Store.ofTimeout flow.timeoutSeconds
  let links : Links := { catalog := settings.catalog, sender := settings.sender }
  let assistant : Assistant :=
    { flow, messages, trigger := settings.triggerCode, hasCatalog := links.catalog.isSome
      maxHops, listLimit := settings.catalogListLimit }
  return { assistant, desk := .new store, links }

variable {σ : Type}

/-- Answers the provider, and the service afterwards. -/
def receive (host : Host σ) (service : Service) (body : Text.Bytes) (s : σ) :
    Acknowledgement × Service × σ :=
  let (answer, desk, links, s) :=
    service.desk.receive host.world host.outlet service.assistant body (service.links, s)
  (answer, { service with desk, links }, s)

/-- Shuts the service down: the connections that are open are closed, the sender's first. -/
def close (host : Host σ) (service : Service) (s : σ) : σ :=
  let s := service.links.sender.close host.senderNetwork s
  match service.links.catalog with
  | some _ => host.catalogNetwork.close s
  | none => s

end Service

end Storekeeper
