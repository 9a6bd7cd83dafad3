import Storekeeper.Http.Basic
import Storekeeper.Breaker

/-!
# Calls through a circuit breaker

A call is only sent if its breaker lets it through.  Faults in sending count against the service;
whatever a server answers is a success as far as the breaker goes, and any other fault is neither.
-/

namespace Storekeeper

/-- What comes of a call through a breaker. -/
inductive Guarded where
  | refused
  | sent (outcome : Outcome)

/-- How a call that was sent ends for the breaker. -/
def Outcome.completion : Outcome → Completion
  | response _ _ => .success
  | fault cause => if cause.isTransport then .trackedFailure else .untrackedFailure

/-- Whether a call may be sent once more. -/
def Guarded.isRetried : Guarded → Bool
  | sent (.fault cause) => cause.isTransport
  | _ => false

namespace Breaker

variable {σ : Type}

/-- Sends a call if the breaker lets it through. -/
def send (network : Network σ) (breaker : Breaker) (call : Call) (s : σ) : Guarded × Breaker × σ :=
  match breaker.begin (network.seconds s) with
  | none => (.refused, breaker, s)
  | some breaker =>
    let (outcome, s) := network.send call s
    (.sent outcome, breaker.complete (network.seconds s) outcome.completion, s)

/-- Sends a call, and sends it again after each of the waits as long as sending fails. -/
def sendPatiently (network : Network σ) (call : Call) :
    List Nat → Breaker → σ → Guarded × Breaker × σ
  | [], breaker, s => breaker.send network call s
  | wait :: waits, breaker, s =>
    match breaker.send network call s with
    | (result, breaker, s) =>
      if result.isRetried then sendPatiently network call waits breaker (network.pause wait s)
      else (result, breaker, s)

end Breaker

end Storekeeper
