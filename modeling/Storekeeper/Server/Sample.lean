import Storekeeper.Dialogue.Desk
import Storekeeper.Catalog.Client
import Storekeeper.Message.Sender
import Storekeeper.Text.Replace

/-!
# Samples

What has been counted, as samples: the name of a metric, labels, and a number.  A sample is written
on a line, the labels in the order of their names and the number with one place.
-/

namespace Storekeeper

/-- A number that has been measured or counted. -/
structure Sample where
  metric : String
  labels : Table String
  value : Nat
  deriving DecidableEq, Repr

namespace Sample

/-- The value of a label between its quotes. -/
def escapeLabel (value : String) : String :=
  Text.replace "\"" "\\\"" (Text.replace "\n" "\\n" (Text.replace "\\" "\\\\" value))

/-- A label and its value. -/
def labelText (name value : String) : String :=
  name ++ "=\"" ++ escapeLabel value ++ "\""

/-- The line of a sample. -/
def line (sample : Sample) : String :=
  let labels := sample.labels.mergeSort fun left right => left.1 ≤ right.1
  let written := labels.map fun (name, value) => labelText name value
  let set := if written.isEmpty then "" else "\x7b" ++ ",".intercalate written ++ "\x7d"
  sample.metric ++ set ++ " " ++ toString sample.value ++ ".0"

/-- The samples of a tally. -/
def ofTally {α : Type} (metric : String) (labels : α → Table String) (tally : Tally α) :
    List Sample :=
  tally.map fun (thing, value) => { metric, labels := labels thing, value }

end Sample

/-- A truth value as a label shows it. -/
def truthLabel (value : Bool) : String :=
  if value then "true" else "false"

/-- The turns and actions of a desk. -/
def Desk.samples (desk : Desk) : List Sample :=
  Sample.ofTally "flow_turns_total"
      (fun turn => [("step_type", turn.step), ("handled", truthLabel turn.handled)]) desk.turns ++
    Sample.ofTally "flow_actions_total"
      (fun run => [("action", run.action.name), ("status", run.status.name)]) desk.actions

/-- The number of sessions that a desk has reported last. -/
def Desk.gaugeSample (gauge : Nat) : Sample :=
  { metric := "active_sessions", labels := [], value := gauge }

/-- The requests of a catalog's client. -/
def Catalog.samples (requests : Tally Catalog.Request) : List Sample :=
  Sample.ofTally "catalog_requests_total"
    (fun request => [("operation", request.operation.phrase), ("status", request.status)]) requests

/-- The messages that went to the provider. -/
def Sending.samples (sendings : Tally Sending) : List Sample :=
  Sample.ofTally "outbound_messages_total"
    (fun sending => [("kind", sending.kind.name), ("status", sending.status.name)]) sendings

/-- The requests that the server has finished, by endpoint. -/
def endpointSamples (finished : Tally String) : List Sample :=
  Sample.ofTally "response_time_seconds_count" (fun endpoint => [("endpoint", endpoint)]) finished

end Storekeeper
