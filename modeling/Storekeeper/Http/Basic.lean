import Storekeeper.Json.Basic
import Storekeeper.Text.Encoding
import Storekeeper.Failure
import Storekeeper.Decimal.Binary64

/-!
# HTTP calls

What is sent to a server and what comes of it: a response with a status and a body, or a fault.
A network says how this changes the state of the world, how one waits in it, and what the time is.
-/

namespace Storekeeper

open Storekeeper.Decimal

/-- The methods that are used. -/
inductive Method where
  | get
  | post
  deriving DecidableEq, Repr

/-- The name of a method. -/
def Method.name : Method → String
  | get => "GET"
  | post => "POST"

/-- A call to a server. -/
structure Call where
  method : Method
  url : String
  authorization : Option String := none
  params : Option (Table Json) := none
  body : Option Json := none

/-- What comes of a call. -/
inductive Outcome where
  | response (status : Int) (body : Text.Bytes)
  | fault (cause : NetworkFault)

/-- The least status of a refused call. -/
def refusedStatus : Int :=
  400

/-- A network: sending a call, waiting some milliseconds, closing the connection, and the seconds on
the wall clock. -/
structure Network (σ : Type) where
  send : Call → σ → Outcome × σ
  pause : Nat → σ → σ
  close : σ → σ
  seconds : σ → Binary64

end Storekeeper
