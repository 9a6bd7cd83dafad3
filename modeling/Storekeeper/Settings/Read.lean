import Storekeeper.Settings.Basic
import Storekeeper.Checked.Scalar
import Storekeeper.Checked.Record
import Storekeeper.Text.Case
import Storekeeper.Text.Quoted

/-!
# Reading settings

Settings come from given values and from the environment, whose names are compared without regard
to case; a given value wins.  Names that are no setting are ignored.
-/

namespace Storekeeper.Settings

open Checked

/-- The levels of the log. -/
def logLevels : List String :=
  ["CRITICAL", "ERROR", "WARNING", "INFO", "DEBUG"]

/-- A level of the log, in upper case. -/
def readLogLevel (value : Json) : Checked String :=
  (text value).andThen fun given =>
    let level := Text.upper given
    if logLevels.contains level then ok level
    else fail (.rejected ("LOG_LEVEL must be one of " ++ ", ".intercalate logLevels ++ " (got " ++
      Text.quoted given ++ ")"))

/-- A trigger code without the blanks around it; one of blanks alone is none. -/
def readTriggerCode (value : Json) : Checked (Option String) :=
  (nullable text value).map fun code =>
    (code.map Text.strip).filter (!·.isEmpty)

/-- An address without the slashes at its end. -/
def readAddress (value : Json) : Checked String :=
  (text value).map (Text.stripEnd '/')

/-- An integer greater than zero. -/
def readPositive (value : Json) : Checked Int :=
  (integer value).andThen fun n =>
    if 0 < n then ok n else fail (.rejected "must be a positive integer")

/-- The names under which settings are given. -/
def names : List String :=
  ["environment", "log_level", "api_version", "host", "port", "mock_mode", "trigger_code",
   "flow_definition_path", "messages_path", "session_sweep_interval_seconds", "catalog_list_limit",
   "green_api_instance_id", "green_api_token", "green_api_base_url", "woocommerce_store_url",
   "woocommerce_consumer_key", "woocommerce_consumer_secret"]

/-- The values in an environment, under the names in lower case. -/
def ofEnvironment (environment : Table String) : Table Json :=
  environment.foldl (fun values (name, value) => Table.put values (Text.lower name) (.str value)) []

/-- The settings that values describe. -/
def ofValues (values : Table Json) : Checked Settings :=
  let member {α : Type} (name : String) (default : α) (reading : Json → Checked α) : Checked α :=
    optionalMember values [name] default reading
  Settings.mk
    <$> member "environment" "production" text
    <*> member "log_level" "INFO" readLogLevel
    <*> member "api_version" "v1" text
    <*> member "host" "0.0.0.0" text
    <*> member "port" 8000 integer
    <*> member "mock_mode" false truth
    <*> member "trigger_code" none readTriggerCode
    <*> member "flow_definition_path" none (nullable text)
    <*> member "messages_path" none (nullable text)
    <*> member "session_sweep_interval_seconds" 60 readPositive
    <*> member "catalog_list_limit" 20 readPositive
    <*> member "green_api_instance_id" none (nullable text)
    <*> member "green_api_token" none (nullable text)
    <*> member "green_api_base_url" "https://api.green-api.com" readAddress
    <*> member "woocommerce_store_url" none (nullable readAddress)
    <*> member "woocommerce_consumer_key" none (nullable text)
    <*> member "woocommerce_consumer_secret" none (nullable text)

/-- The settings from given values and an environment. -/
def read (given : Table Json) (environment : Table String) : Checked Settings :=
  ofValues (Table.overlay (ofEnvironment environment) given)

/-- The settings by name. -/
def toJson (s : Settings) : Json :=
  .obj (names.zip
    [.str s.environment, .str s.logLevel, .str s.apiVersion, .str s.host, .int s.port,
     .bool s.mockMode, .ofOption s.triggerCode, .ofOption s.flowDefinitionPath,
     .ofOption s.messagesPath, .int s.sessionSweepIntervalSeconds, .int s.catalogListLimit,
     .ofOption s.gatewayAccount, .ofOption s.gatewayToken, .str s.gatewayUrl,
     .ofOption s.storeUrl, .ofOption s.consumerKey, .ofOption s.consumerSecret])

end Storekeeper.Settings
