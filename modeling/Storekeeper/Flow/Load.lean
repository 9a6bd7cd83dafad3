import Storekeeper.Flow.Schema
import Storekeeper.Flow.Validity
import Storekeeper.Flow.Builtin
import Storekeeper.File

/-!
# Loading a flow

A flow is used only if its document fits the schema and the flow is valid; without a file the
built-in flow is used.
-/

namespace Storekeeper.Flow

/-- The valid flow that a document describes. -/
def build (document : Json) : Except Failure Flow :=
  match Flow.read document with
  | .flawed flaws => .error (.flow "Invalid flow definition" none flaws)
  | .ok flow =>
    match flow.defect? with
    | some defect => .error (.flow defect.message defect.step? [])
    | none => .ok flow

/-- The failure to read a flow's file as JSON. -/
def unreadable (path : String) : Failure :=
  .flow ("Failed to read flow definition from " ++ path) none []

/-- The valid flow in a file, or the built-in one. -/
def load (file : FileSource) : Except Failure Flow := do
  match ← file.document unreadable with
  | none => return builtin
  | some (_, document) => build document

end Storekeeper.Flow
