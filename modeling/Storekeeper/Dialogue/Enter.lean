import Storekeeper.Dialogue.Run

/-!
# Entering a step

Entering a step moves the conversation there and says what the step says: a choice shows its menu,
a question asks, a terminal step says goodbye and ends the conversation.  An action is run at once
and the step after it is entered; after a number of actions in a row the conversation waits at the
next one.  Nothing that has been said on the way is lost: it stands before what the last step says.

Entering calls itself once for every action of a chain, and only the number of hops bounds a chain
here.  A stack that is full before the hops are used up, as a very large number of hops allows, is
left out: no turn fails for that reason.
-/

namespace Storekeeper

/-- What becomes of a conversation's session at the end of a turn. -/
inductive Write where
  /-- The session is stored. -/
  | keep (session : Session)
  /-- The session of a chat is removed. -/
  | drop (chat : String)
  /-- The store stays as it is. -/
  | leave

/-- The end of a turn: the answer, and what becomes of the session. -/
structure Decision where
  reply : Reply
  write : Write

/-- A conversation that is to enter a step: its session, what stands above the step's message, and
what has been said before. -/
structure Arrival where
  session : Session
  header : Option String
  before : Option String

namespace Assistant

/-- Enters a step, at most `hops` further actions being run. -/
def enterWithin (a : Assistant) (hops : Nat) (name : String) (arrival : Arrival) :
    Turn Decision :=
  let said : List (Option String) := [arrival.before, arrival.header]
  let moved := { arrival.session with step := name }
  match a.flow.step? name with
  | none => do
    Turn.raise (.noTarget arrival.session.chat name)
    return ⟨{ handled := true, response := paragraphs said }, .leave⟩
  | some (.terminal step) =>
    let response := paragraphs (said ++ [a.said step.message])
    return ⟨{ handled := true, response, sessionEnded := true }, .drop arrival.session.chat⟩
  | some (.choice step) =>
    let buttons := some (a.menu step arrival.header)
    return ⟨{ handled := true, preMessage := arrival.before, buttons }, .keep moved⟩
  | some (.action step) =>
    match hops with
    | 0 => do
      Turn.raise (.hopLimit arrival.session.chat name)
      return ⟨{ handled := true, response := paragraphs said }, .keep moved⟩
    | hops + 1 => do
      let (context, text) ← a.runAction step.action moved.context
      a.enterWithin hops step.next
        { session := { moved with context }
          header := none
          before := paragraphs (said ++ [some text]) }
  | some step =>
    let response := paragraphs (said ++ [a.said step.prompt])
    return ⟨{ handled := true, response }, .keep moved⟩

/-- Enters a step under a line and after a line. -/
def enter (a : Assistant) (session : Session) (name : String) (header before : Option String) :
    Turn Decision :=
  a.enterWithin a.maxHops.toNat name { session, header, before }

end Assistant

end Storekeeper
