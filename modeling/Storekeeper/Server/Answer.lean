import Storekeeper.Server.Service
import Storekeeper.Server.Sample

/-!
# The server

The server tells who it is, whether it is well and what it has counted, and takes notifications.
Until its service has been started it can only refuse them.
-/

namespace Storekeeper

/-- A request to the server. -/
structure Request where
  method : String
  path : String
  body : Text.Bytes

/-- What an answer of the server consists of. -/
inductive Content where
  | empty
  | json (value : Json)
  | lines (lines : List String)

/-- An answer of the server. -/
structure Answer where
  status : Nat
  content : Content

/-- What can be asked of the server. -/
inductive Endpoint where
  | about
  | health
  | metrics
  | webhook
  deriving DecidableEq, Repr

namespace Endpoint

/-- All endpoints. -/
def all : List Endpoint :=
  [about, health, metrics, webhook]

/-- The path of an endpoint. -/
def path : Endpoint → String
  | about => "/"
  | health => "/health"
  | metrics => "/metrics"
  | webhook => "/webhook"

/-- The method of an endpoint. -/
def method : Endpoint → String
  | webhook => "POST"
  | _ => "GET"

/-- The endpoint at a path. -/
def at? (path : String) : Option Endpoint :=
  all.find? fun endpoint => endpoint.path == path

end Endpoint

/-- The path with a slash at its end, or without its slashes if it has some. -/
def otherPath (path : String) : String :=
  if path.toList.getLast? = some '/' then Text.stripEnd '/' path else path ++ "/"

/-- The answer that only says something. -/
def Answer.detail (status : Nat) (text : String) : Answer :=
  { status, content := .json (.obj [("detail", .str text)]) }

/-- The server: its settings, its service once it has been started, and the requests it has
finished. -/
structure Server where
  settings : Settings
  service : Option Service
  finished : Tally String

namespace Server

/-- A server whose service has not been started. -/
def idle (settings : Settings) : Server :=
  { settings, service := none, finished := [] }

/-- Who the server is. -/
def aboutAnswer (server : Server) : Json :=
  .obj [("service", .str "Shop Update Chatbot"), ("version", .str "1.0.0"),
    ("status", .str "operational"), ("environment", .str server.settings.environment)]

/-- Whether something that can be set up has been. -/
def readiness (configured : Bool) : String :=
  if configured then "configured" else "not_configured"

/-- How the server is. -/
def healthAnswer (server : Server) : Json :=
  let settings := server.settings
  let sender := if settings.mockMode then "mock" else readiness settings.senderConfigured
  let sessions := (server.service.map fun service => service.desk.store.size).getD 0
  .obj [("status", .str "healthy"),
    ("services", .obj [("sender", .str sender),
      ("catalog", .str (readiness settings.catalogConfigured))]),
    ("active_sessions", .int sessions)]

/-- What the server has counted. -/
def samples (server : Server) : List Sample :=
  let service :=
    match server.service with
    | none => [Desk.gaugeSample 0]
    | some service =>
      Desk.gaugeSample service.desk.gauge :: service.desk.samples ++
        Catalog.samples ((service.links.catalog.map Catalog.Client.requests).getD []) ++
        Sending.samples service.links.sender.sendings
  service ++ endpointSamples server.finished

/-- What the server has counted, in lines in the order of their text. -/
def metricLines (server : Server) : List String :=
  (server.samples.map Sample.line).mergeSort fun left right => left ≤ right

/-- A request that has been finished is counted. -/
def finish (server : Server) (endpoint : String) : Server :=
  { server with finished := server.finished.count endpoint }

variable {σ : Type}

/-- The answer to a notification. -/
def answerWebhook (host : Host σ) (server : Server) (body : Text.Bytes) (s : σ) :
    Answer × Server × σ :=
  match server.service with
  | none => (.detail 503 "Service is starting up", server, s)
  | some service =>
    let (acknowledgement, service, s) := service.receive host body s
    ({ status := 200, content := .json acknowledgement.toJson },
      { server with service := some service }.finish "webhook", s)

/-- The answer of an endpoint. -/
def answerAt (host : Host σ) (server : Server) (endpoint : Endpoint) (body : Text.Bytes) (s : σ) :
    Answer × Server × σ :=
  match endpoint with
  | .about => ({ status := 200, content := .json server.aboutAnswer }, server, s)
  | .health => ({ status := 200, content := .json server.healthAnswer }, server, s)
  | .metrics => ({ status := 200, content := .lines server.metricLines }, server, s)
  | .webhook => server.answerWebhook host body s

/-- The answer to a request for a path that has no endpoint; one that only differs in the slash at
its end from a path that has one is redirected there. -/
def answerElsewhere (path : String) : Answer :=
  if path ≠ "/" ∧ (Endpoint.at? (otherPath path)).isSome then { status := 307, content := .empty }
  else .detail 404 "Not Found"

/-- The answer to a request, which is then counted under its path. -/
def answer (host : Host σ) (server : Server) (request : Request) (s : σ) : Answer × Server × σ :=
  let (answer, server, s) :=
    match Endpoint.at? request.path with
    | none => (answerElsewhere request.path, server, s)
    | some endpoint =>
      if request.method = endpoint.method then server.answerAt host endpoint request.body s
      else (.detail 405 "Method Not Allowed", server, s)
  (answer, server.finish request.path, s)

end Server

end Storekeeper
