import Storekeeper.Json.Basic

/-!
# Sessions

What is kept of a conversation between two messages: the step it is at, and a context of staged
records and transient values.  Times are microseconds since the assistant was started.
-/

namespace Storekeeper

/-- Microseconds since the start. -/
abbrev Time : Type :=
  Nat

/-- A conversation between two messages. -/
structure Session where
  chat : String
  step : String
  context : Table Json
  created : Time
  updated : Time
  expires : Time
  deriving Inhabited

/-- Whether a session is over at a time; at the very instant of its expiry it is not. -/
def Session.isExpired (session : Session) (now : Time) : Bool :=
  session.expires < now

end Storekeeper
