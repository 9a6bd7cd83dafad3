import Storekeeper.Dialogue.Respond
import Storekeeper.Session.Store
import Storekeeper.Session.Lock

/-!
# The desk

The desk is where turns happen: it holds the sessions, the locks and what has been written down.  A turn
begins inside the lock of its chat by taking the chat's session, and ends with one write to the
store; until then nothing that the turn has decided can be seen.  A turn that fails writes nothing
and is not counted.
-/

namespace Storekeeper

/-- A turn that has been finished, as it is counted. -/
structure TurnKind where
  step : String
  handled : Bool
  deriving DecidableEq, Repr

/-- What is kept between turns; `gauge` is the number of stored sessions as last reported. -/
structure Desk extends Ledger where
  store : Store
  locks : LockTable
  turns : Tally TurnKind
  gauge : Nat

/-- The world in which turns happen. -/
structure World (σ : Type) extends Surroundings σ where
  now : σ → Time

/-- The store after a decision has been carried out. -/
def Store.commit (store : Store) (now : Time) : Write → Except Failure Store
  | .keep session => (store.set now session.chat session).map Prod.snd
  | .drop chat => .ok (store.delete chat)
  | .leave => .ok store

namespace Desk

/-- The desk over a store, before the first turn. -/
def new (store : Store) : Desk :=
  { toLedger := .empty, store, locks := .empty, turns := [], gauge := 0 }

/-- The number of stored sessions is reported. -/
def report (desk : Desk) : Desk :=
  { desk with gauge := desk.store.size }

/-- Removes the sessions that have expired and reports how many are left. -/
def sweep (desk : Desk) (now : Time) : Nat × Desk :=
  let (removed, store) := desk.store.sweep now
  (removed, { desk with store }.report)

/-- A turn that has begun: the kind of step that answers, and the turn itself. -/
structure Begun where
  kind : String
  turn : Turn Decision

/-- Begins a turn: the chat's session is taken, and removed if it has expired. -/
def begin (a : Assistant) (desk : Desk) (now : Time) (chat : String) (message : Inbound) :
    Begun × Desk :=
  let (session?, store) := desk.store.get now chat
  let opened := store.create now chat a.flow.initialStep
  (⟨a.answeringKind session?, a.respond opened session? chat message⟩, { desk with store })

/-- Ends a turn: its decision is carried out, and the turn is counted. -/
def finish (desk : Desk) (now : Time) (kind : String) (decision : Decision) :
    Except Failure (Reply × Desk) := do
  let store ← desk.store.commit now decision.write
  let turns := desk.turns.count ⟨kind, decision.reply.handled⟩
  return (decision.reply, { desk with store, turns }.report)

/-- A turn inside the lock of its chat. -/
def turn {σ : Type} (world : World σ) (a : Assistant) (chat : String) (message : Inbound)
    (desk : Desk) (s : σ) : Except Failure Reply × Desk × σ :=
  let (begun, desk) := desk.begin a (world.now s) chat message
  let (ended, ledger, s) := begun.turn.run world.toSurroundings (desk.toLedger, s)
  let desk := { desk with toLedger := ledger }
  match ended.bind (desk.finish (world.now s) begun.kind) with
  | .ok (reply, desk) => (.ok reply, desk, s)
  | .error failure => (.error failure, desk, s)

/-- One message is answered, inside the lock of its chat. -/
def process {σ : Type} (world : World σ) (a : Assistant) (chat : String) (message : Inbound)
    (desk : Desk) (s : σ) : Except Failure Reply × Desk × σ :=
  let visitor := desk.locks.newcomer
  let desk := { desk with locks := desk.locks.visit visitor chat }
  let (reply, desk, s) := desk.turn world a chat message s
  (reply, { desk with locks := desk.locks.depart visitor }, s)

end Desk

end Storekeeper
