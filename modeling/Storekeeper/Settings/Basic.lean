/-!
# Settings

What an operator can set.  `Settings.fatal?` is the reason for which the assistant refuses to start
with them, `Settings.warning?` what the operator is told although it starts.
-/

namespace Storekeeper

/-- What an operator can set. -/
structure Settings where
  environment : String := "production"
  logLevel : String := "INFO"
  apiVersion : String := "v1"
  host : String := "0.0.0.0"
  port : Int := 8000
  mockMode : Bool := false
  triggerCode : Option String := none
  flowDefinitionPath : Option String := none
  messagesPath : Option String := none
  sessionSweepIntervalSeconds : Int := 60
  catalogListLimit : Int := 20
  gatewayAccount : Option String := none
  gatewayToken : Option String := none
  gatewayUrl : String := "https://api.green-api.com"
  storeUrl : Option String := none
  consumerKey : Option String := none
  consumerSecret : Option String := none
  deriving DecidableEq, Repr

namespace Settings

/-- Whether a text is given and not empty. -/
def given (value : Option String) : Bool :=
  value.any (!·.isEmpty)

/-- Whether the catalog can be reached with these settings. -/
def catalogConfigured (s : Settings) : Bool :=
  given s.storeUrl && given s.consumerKey && given s.consumerSecret

/-- Whether messages can be sent with these settings. -/
def senderConfigured (s : Settings) : Bool :=
  given s.gatewayAccount && given s.gatewayToken

/-- Why the assistant does not start. -/
def fatal? (s : Settings) : Option String :=
  if !s.mockMode && s.environment != "test" && !s.senderConfigured then
    some "GREEN_API_INSTANCE_ID and GREEN_API_TOKEN are required unless MOCK_MODE is enabled"
  else none

/-- What the operator is told although the assistant starts. -/
def warning? (s : Settings) : Option String :=
  if s.environment = "production" && s.mockMode then
    some "MOCK_MODE is enabled in production; no messages will be delivered."
  else none

/-- What is printed about the settings at the start. -/
def report (s : Settings) : String :=
  match s.fatal?, s.warning? with
  | some reason, _ => "--- [ERROR] Environment validation failed: " ++ reason ++ "\n"
  | none, some warning => "--- [WARNING] " ++ warning ++ "\n"
  | none, none => ""

/-- How log lines are written: for a person while developing or without a real sender, as JSON
otherwise. -/
inductive LogFormat where
  | console
  | json
  deriving DecidableEq, Repr

/-- How log lines are written with these settings. -/
def logFormat (s : Settings) : LogFormat :=
  if s.environment = "development" || s.mockMode then .console else .json

end Settings

end Storekeeper
