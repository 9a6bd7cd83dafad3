import Storekeeper.Server.Answer

/-!
# The console

At a console the server is spoken to by hand: a line is the body of a notification, and what is
shown are the acknowledgement and the messages that the assistant would have sent.  No other server
is reached from a console.
-/

namespace Storekeeper

/-- What surrounds a console: the microseconds since its start, and how many identifiers have been
handed out. -/
structure Console where
  elapsed : Time
  issued : Nat

namespace Console

/-- The network of a console, in which every call fails. -/
def offline : Network Console where
  send _ console := (.fault .connectError, console)
  pause milliseconds console := { console with elapsed := console.elapsed + milliseconds * 1000 }
  close console := console
  seconds console := .ofRatio false console.elapsed Store.second

/-- The next identifier. -/
def identifier (console : Console) : String × Console :=
  ("item-" ++ toString (console.issued + 1), { console with issued := console.issued + 1 })

/-- A console as a host. -/
def host : Host Console where
  catalogNetwork := offline
  senderNetwork := offline
  now := Console.elapsed
  identifier := identifier

/-- The settings at a console: messages are only written down, and there is no catalog. -/
def settings (given : Settings) : Settings :=
  { given with mockMode := true, storeUrl := none }

/-- The messages that a server has written down. -/
def writtenBy (server : Server) : List Written :=
  (server.service.map fun service => service.links.sender.written).getD []

/-- What is shown for an answer. -/
def shown (answer : Answer) : List Json :=
  match answer.content with
  | .empty => []
  | .json value => [value]
  | .lines lines => lines.map .str

/-- Takes a line as the body of a notification: what is shown, and the server afterwards. -/
def takeLine (server : Server) (line : String) (console : Console) :
    List Json × Server × Console :=
  let before := (writtenBy server).length
  let endpoint := Endpoint.webhook
  let request : Request :=
    { method := endpoint.method, path := endpoint.path, body := Text.utf8Bytes line }
  let (answer, server, console) := server.answer host request console
  (shown answer ++ ((writtenBy server).drop before).map Written.toJson, server, console)

end Console

end Storekeeper
