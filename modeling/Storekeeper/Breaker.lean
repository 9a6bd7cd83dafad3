import Storekeeper.Decimal.Binary64

/-!
# Circuit breakers

A breaker stands before a service.  Closed, it lets calls through until a number of failures in a
row has been counted; open, it refuses them until more than the timeout has passed since the last
failure; half open, it lets them through again and closes after a number of successes, or opens at
the first failure.  A call passes in two steps, `begin` when it begins and `complete` when it ends,
so that calls may overlap.  Times are seconds on a wall clock; a failure at time zero counts as no
known failure.
-/

namespace Storekeeper

open Storekeeper.Decimal

/-- What a breaker does with calls. -/
inductive BreakerState where
  | closed
  | opened
  | halfOpen
  deriving DecidableEq, Repr

/-- The name of a state. -/
def BreakerState.name : BreakerState → String
  | closed => "closed"
  | opened => "open"
  | halfOpen => "half_open"

/-- How a call that was let through ended; only tracked failures count. -/
inductive Completion where
  | success
  | trackedFailure
  | untrackedFailure
  deriving DecidableEq, Repr

/-- A breaker: its limits, what it has counted, and when it last saw a failure. -/
structure Breaker where
  service : String
  failureThreshold : Int
  timeout : Binary64
  successThreshold : Int
  state : BreakerState
  failures : Nat
  successes : Nat
  lastFailure : Option Binary64
  deriving DecidableEq, Repr

namespace Breaker

/-- A closed breaker that has counted nothing. -/
def new (service : String) (failureThreshold : Int) (timeout : Binary64)
    (successThreshold : Int) : Breaker :=
  { service, failureThreshold, timeout, successThreshold,
    state := .closed, failures := 0, successes := 0, lastFailure := none }

/-- The breaker before a service: five failures, a minute, three successes. -/
def standard (service : String) : Breaker :=
  new service 5 (.ofInt 60) 3

/-- Whether more than the timeout has passed since the last failure. -/
def hasWaited (b : Breaker) (now : Binary64) : Bool :=
  match b.lastFailure with
  | none => false
  | some last => !last.isZero && b.timeout.less (now.sub last)

/-- A call begins: the breaker afterwards, `none` if the call is refused. -/
def begin (b : Breaker) (now : Binary64) : Option Breaker :=
  match b.state with
  | .opened => if b.hasWaited now then some { b with state := .halfOpen, successes := 0 } else none
  | _ => some b

/-- The breaker after a success. -/
def succeed (b : Breaker) : Breaker :=
  match b.state with
  | .halfOpen =>
    let b := { b with successes := b.successes + 1 }
    if b.successThreshold ≤ b.successes then { b with state := .closed, failures := 0 } else b
  | _ => { b with failures := 0 }

/-- The breaker after a tracked failure. -/
def fail (b : Breaker) (now : Binary64) : Breaker :=
  let failures := b.failures + 1
  { b with
    failures
    lastFailure := some now
    state := if b.state = .halfOpen ∨ b.failureThreshold ≤ failures then .opened else b.state }

/-- A call that was let through ends. -/
def complete (b : Breaker) (now : Binary64) : Completion → Breaker
  | .success => b.succeed
  | .trackedFailure => b.fail now
  | .untrackedFailure => b

end Breaker

end Storekeeper
