import Storekeeper.Table

/-!
# One visitor at a time

Units of work for one chat follow each other; those for different chats do not wait.  The table
has an entry for a chat as long as somebody is at its lock: the entry names the lock and counts
those who hold it or wait for it, and it is dropped with the last of them.  A visit is one unit of
work at a lock; visits of a lock are let in in the order of their arrival.
-/

namespace Storekeeper

/-- The lock of a chat and how many hold it or wait for it. -/
structure LockEntry where
  lock : Nat
  holders : Nat
  deriving DecidableEq, Repr

/-- A unit of work at a lock: waiting for it, or inside. -/
structure Visit where
  visitor : Nat
  chat : String
  lock : Nat
  inside : Bool
  deriving DecidableEq, Repr

/-- The locks in use and the visits to them, in the order of arrival; `fresh` is the next lock. -/
structure LockTable where
  entries : Table LockEntry
  visits : List Visit
  fresh : Nat
  deriving DecidableEq, Repr

namespace LockTable

/-- The table when nobody is there. -/
def empty : LockTable :=
  ⟨[], [], 0⟩

/-- How many chats have a lock. -/
def size (table : LockTable) : Nat :=
  table.entries.length

/-- A visitor comes to a chat's lock and waits. -/
def arrive (table : LockTable) (visitor : Nat) (chat : String) : LockTable :=
  match table.entries.get? chat with
  | some entry =>
    { table with
      entries := table.entries.put chat { entry with holders := entry.holders + 1 }
      visits := table.visits ++ [⟨visitor, chat, entry.lock, false⟩] }
  | none =>
    { entries := table.entries.put chat ⟨table.fresh, 1⟩
      visits := table.visits ++ [⟨visitor, chat, table.fresh, false⟩]
      fresh := table.fresh + 1 }

/-- Whether somebody is inside a lock. -/
def isTaken (table : LockTable) (lock : Nat) : Bool :=
  table.visits.any fun visit => visit.lock == lock && visit.inside

/-- The first visit that waits for a lock. -/
def firstWaiting? (table : LockTable) (lock : Nat) : Option Visit :=
  table.visits.find? fun visit => visit.lock == lock && !visit.inside

/-- The first visitor who waits for a free lock enters it. -/
def enter (table : LockTable) (lock : Nat) : LockTable :=
  match table.isTaken lock, table.firstWaiting? lock with
  | false, some first =>
    { table with
      visits := table.visits.map fun visit =>
        if visit == first then { visit with inside := true } else visit }
  | _, _ => table

/-- A visitor who is not yet there. -/
def newcomer (table : LockTable) : Nat :=
  table.visits.foldl (fun n visit => max n (visit.visitor + 1)) 0

/-- A visitor comes to a chat's lock; if the lock is free, the first of those who wait enters. -/
def visit (table : LockTable) (visitor : Nat) (chat : String) : LockTable :=
  let table := table.arrive visitor chat
  match table.entries.get? chat with
  | some entry => table.enter entry.lock
  | none => table

/-- A visitor goes away, from inside or without having entered. -/
def depart (table : LockTable) (visitor : Nat) : LockTable :=
  match table.visits.find? (·.visitor == visitor) with
  | none => table
  | some visit =>
    let visits := table.visits.filter (·.visitor != visitor)
    match table.entries.get? visit.chat with
    | none => { table with visits }
    | some entry =>
      if entry.lock ≠ visit.lock then { table with visits }
      else if entry.holders ≤ 1 then
        { table with entries := table.entries.erase visit.chat, visits }
      else
        { table with
          entries := table.entries.put visit.chat { entry with holders := entry.holders - 1 }
          visits }

/-- The visitor who is inside a chat's lock. -/
def insider? (table : LockTable) (chat : String) : Option Nat :=
  (table.visits.find? fun visit => visit.chat == chat && visit.inside).map Visit.visitor

end LockTable

/-- A unit of work that notes its start, and its end unless it fails. -/
structure WorkUnit where
  name : String
  fails : Bool

/-- What a unit of work notes while it is inside. -/
def WorkUnit.notes (unit : WorkUnit) : List String :=
  (unit.name ++ "-start") :: (if unit.fails then [] else [unit.name ++ "-end"])

namespace LockTable

/-- Lets those who wait at a chat's lock in, one after the other, at most `rounds` of them, and
collects what their units note. -/
def serve (units : List WorkUnit) (chat : String) : Nat → LockTable → List String × LockTable
  | 0, table => ([], table)
  | rounds + 1, table =>
    match table.entries.get? chat with
    | none => ([], table)
    | some entry =>
      let table := table.enter entry.lock
      match table.insider? chat with
      | none => ([], table)
      | some visitor =>
        let notes := (units[visitor]?.map WorkUnit.notes).getD []
        let (later, table) := serve units chat rounds (table.depart visitor)
        (notes ++ later, table)

/-- Units of work come together to a chat's lock: what they note, and the table afterwards. -/
def runTogether (table : LockTable) (chat : String) (units : List WorkUnit) :
    List String × LockTable :=
  let arrived := (List.range units.length).foldl (fun table n => table.arrive n chat) table
  serve units chat units.length arrived

end LockTable

end Storekeeper
