import Storekeeper.Session.Basic
import Storekeeper.Failure

/-!
# The session store

Sessions by chat, in memory, each with a fixed time to live that starts anew whenever the session
is written.  An expired session is never handed out: `get` removes it, and `sweep` removes all that
have expired.
-/

namespace Storekeeper

/-- Sessions by chat; `timeout` is how long a session lives and `horizon` the last instant that a
time can name. -/
structure Store where
  timeout : Time
  horizon : Time
  sessions : Table Session
  deriving Inhabited

namespace Store

/-- How many microseconds a second has. -/
def second : Time :=
  1000000

/-- The least number of seconds that is too long for a duration: a thousand million days. -/
def durationBound : Int :=
  1000000000 * 86400

/-- How far away the end of the year 9999 is from the first noon of 2024. -/
def calendarEnd : Time :=
  251698190399999999

/-- The empty store for sessions that live so many seconds. -/
def ofTimeout (seconds : Int) : Except Failure Store :=
  if seconds ≤ 0 then .error .timeoutNotPositive
  else if durationBound ≤ seconds then .error .outOfRange
  else .ok { timeout := seconds.toNat * second, horizon := calendarEnd, sessions := [] }

/-- How many sessions are stored, expired ones included. -/
def size (store : Store) : Nat :=
  store.sessions.length

/-- When a session written now expires. -/
def expiry (store : Store) (now : Time) : Except Failure Time :=
  if now + store.timeout ≤ store.horizon then .ok (now + store.timeout) else .error .outOfRange

/-- The session of a chat, and the store without it if it has expired. -/
def get (store : Store) (now : Time) (chat : String) : Option Session × Store :=
  match store.sessions.get? chat with
  | none => (none, store)
  | some session =>
    if session.isExpired now then (none, { store with sessions := store.sessions.erase chat })
    else (some session, store)

/-- The store with a session under a chat, and the session as it is stored: written now. -/
def set (store : Store) (now : Time) (chat : String) (session : Session) :
    Except Failure (Session × Store) := do
  let expires ← store.expiry now
  let stored := { session with updated := now, expires }
  return (stored, { store with sessions := store.sessions.put chat stored })

/-- The store without a chat's session. -/
def delete (store : Store) (chat : String) : Store :=
  { store with sessions := store.sessions.erase chat }

/-- A new session with an empty context; it is not stored. -/
def create (store : Store) (now : Time) (chat step : String) : Except Failure Session := do
  let expires ← store.expiry now
  return { chat, step, context := [], created := now, updated := now, expires }

/-- How many sessions have expired, and the store without them. -/
def sweep (store : Store) (now : Time) : Nat × Store :=
  let alive := store.sessions.filter fun entry => !entry.2.isExpired now
  (store.sessions.length - alive.length, { store with sessions := alive })

end Store

end Storekeeper
