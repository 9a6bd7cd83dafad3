import Storekeeper.Settings.Basic
import Storekeeper.Table
import Storekeeper.Text.Case

/-!
# How the server is run

Conversations live in the memory of one process, so however the server is started it is one
worker: either directly with the settings, or under a process manager that takes its port and log
level from the environment.
-/

namespace Storekeeper

/-- How the server is started directly. -/
structure Launch where
  host : String
  port : Int
  reload : Bool
  workers : Nat
  deriving DecidableEq, Repr

/-- The start with given settings: while developing, the server reloads changed code. -/
def Launch.ofSettings (s : Settings) : Launch :=
  { host := s.host, port := s.port, reload := s.environment = "development", workers := 1 }

/-- How the server is started by a process manager. -/
structure ManagedLaunch where
  bind : String
  workers : Nat
  workerClass : String
  forwardedAllowIps : String
  accessLog : String
  errorLog : String
  logLevel : String
  deriving DecidableEq, Repr

/-- The start in an environment, whose names are taken as they are. -/
def ManagedLaunch.ofEnvironment (environment : Table String) : ManagedLaunch :=
  { bind := "0.0.0.0:" ++ (environment.get? "PORT").getD "8000"
    workers := 1
    workerClass := "uvicorn.workers.UvicornWorker"
    forwardedAllowIps := "*"
    accessLog := "-"
    errorLog := "-"
    logLevel := Text.lower ((environment.get? "LOG_LEVEL").getD "info") }

end Storekeeper
