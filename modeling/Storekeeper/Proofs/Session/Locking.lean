import Mathlib.Logic.Relation
import Storekeeper.Proofs.Session.Visits

/-!
# The lock table in every run

Any number of visitors come to the locks of any chats, enter them, and go away again: their work done or
failed, or cancelled while they still wait.  `Moves` is one such step and `Reachable` any number of them,
in any order, from the table at which nobody is.

* `Reachable.exact`: every reachable table is exact, since each step keeps it so.
* `entries_track_visits`: what this says of the entries and of the visitors.
* `Exact.mayEnter_iff_chat`: a visitor waits for visitors of its own chat only.
* `Reachable.visit`, `Reachable.depart`, `Reachable.runTogether`: what is made of the table elsewhere is
  such a run.
-/

namespace Storekeeper.LockTable

/-- One step at the locks.  A visitor is one use of a lock.  A lock is exclusive: whoever enters finds
nobody inside.  Which of those who wait is let in is left open. -/
inductive Moves (table : LockTable) : LockTable → Prop
  /-- A newcomer asks for the lock of a chat. -/
  | arrive {visitor : Nat} (chat : String) :
    (∀ visit ∈ table.visits, visit.visitor ≠ visitor) → Moves table (table.arrive visitor chat)
  /-- A visitor who waits for a free lock enters it. -/
  | enter {visitor : Nat} : table.mayEnter visitor = true → Moves table (table.letIn visitor)
  /-- A visitor leaves the inside of a lock, its work done or failed. -/
  | leave {visit : Visit} : visit ∈ table.visits → visit.inside = true →
    Moves table (table.depart visit.visitor)
  /-- A visitor is cancelled while it waits. -/
  | giveUp {visit : Visit} : visit ∈ table.visits → visit.inside = false →
    Moves table (table.depart visit.visitor)

/-- The tables that come about by steps in any order. -/
abbrev Reachable (table : LockTable) : Prop :=
  Relation.ReflTransGen Moves empty table

variable {table later : LockTable} {visitor : Nat} {chat : String}

theorem Moves.exact (moves : table.Moves later) (exact : table.Exact) : later.Exact := by
  cases moves with
  | arrive chat newcomer => exact exact.arrive newcomer chat
  | enter free => exact exact.letIn free
  | leave _ _ => exact exact.depart _
  | giveUp _ _ => exact exact.depart _

theorem Reachable.exact (reachable : table.Reachable) : table.Exact := by
  induction reachable with
  | refl => exact .empty
  | tail _ moves exact => exact moves.exact exact

/-! ## What an exact table says -/

namespace Exact

theorem has_iff_visit (exact : table.Exact) (chat : String) :
    table.entries.has chat = true ↔ ∃ visit ∈ table.visits, visit.chat = chat := by
  rw [Table.has_iff]
  constructor
  · rintro ⟨entry, found⟩
    obtain ⟨positive, count⟩ := exact.counted found
    obtain ⟨visit, member, own⟩ := List.countP_pos_iff.mp (count ▸ positive)
    exact ⟨visit, member, by simpa using own⟩
  · rintro ⟨visit, member, rfl⟩
    obtain ⟨entry, found, -⟩ := exact.shared visit member
    exact ⟨entry, found⟩

/-- No entry outlives the visits. -/
theorem entries_eq_nil (exact : table.Exact) (nobody : table.visits = []) : table.entries = [] := by
  cases there : table.entries with
  | nil => rfl
  | cons first rest =>
    obtain ⟨chat, entry⟩ := first
    have present : table.entries.has chat = true := by simp [there, Table.has]
    obtain ⟨visit, member, -⟩ := (exact.has_iff_visit chat).mp present
    rw [nobody] at member
    cases member

/-- A visitor who waits may enter as soon as nobody of its own chat is inside. -/
theorem mayEnter_iff_chat (exact : table.Exact) {visit : Visit} (member : visit ∈ table.visits)
    (waits : visit.inside = false) : table.mayEnter visit.visitor = true ↔
      ∀ other ∈ table.visits, other.chat = visit.chat → other.inside = false := by
  have free_iff : table.isTaken visit.lock = false ↔
      ∀ other ∈ table.visits, other.chat = visit.chat → other.inside = false := by
    rw [isTaken_eq_false]
    refine forall₂_congr fun other member' => ?_
    rw [exact.lock_eq_iff member' member]
  rw [mayEnter_iff, ← free_iff]
  constructor
  · rintro ⟨other, member', same, -, free⟩
    rwa [exact.eq_of_visitor member' member same] at free
  · exact fun free => ⟨visit, member, rfl, waits, free⟩

end Exact

/-- In every reachable table a chat has an entry as long as somebody is at its lock, inside or waiting,
and no longer; the entry counts them, and all of them are at the lock that it names.  So one visitor of
a chat at most is inside, visitors of different chats have nothing in common, and nothing is left when
everybody has gone. -/
theorem entries_track_visits (reachable : table.Reachable) :
    (∀ chat, table.entries.has chat = true ↔ ∃ visit ∈ table.visits, visit.chat = chat) ∧
    (∀ chat entry, table.entries.get? chat = some entry →
      entry.holders = table.visits.countP (·.chat == chat) ∧
        ∀ visit ∈ table.visits, visit.chat = chat → visit.lock = entry.lock) ∧
    (table.visits.map Visit.visitor).Nodup ∧
    (∀ visit ∈ table.visits, ∀ other ∈ table.visits, visit.chat = other.chat →
      visit.inside = true → other.inside = true → visit = other) ∧
    (∀ visit ∈ table.visits, ∀ other ∈ table.visits, visit.chat ≠ other.chat →
      visit.lock ≠ other.lock) ∧
    (table.visits = [] → table.entries = []) := by
  have exact := reachable.exact
  refine ⟨exact.has_iff_visit, fun chat entry found => ⟨(exact.counted found).2, fun visit member own => ?_⟩,
    exact.distinct, fun visit member other member' chats inside inside' => ?_,
    fun visit member other member' apart locks => ?_, exact.entries_eq_nil⟩
  · exact exact.lock_eq_entry found member own
  · exact exact.exclusive visit member other member' inside inside'
      ((exact.lock_eq_iff member member').mpr chats)
  · exact apart ((exact.lock_eq_iff member member').mp locks)

/-- Two come to a lock and one to another; the first enters, and the second is cancelled while it
waits. -/
theorem entries_track_visits_cancelled :
    let table : LockTable :=
      ⟨[("c", ⟨0, 1⟩), ("d", ⟨1, 1⟩)], [⟨0, "c", 0, true⟩, ⟨2, "d", 1, false⟩], 2⟩
    table.Reachable ∧
      1 = table.visits.countP (·.chat == "c") ∧
      (table.entries.has "e" = true ↔ ∃ visit ∈ table.visits, visit.chat = "e") ∧
      (table.visits.map Visit.visitor).Nodup ∧
      (table.visits = [] → table.entries = []) := by
  intro table
  have first : (empty.arrive 0 "c").Reachable := .single (.arrive "c" (by decide))
  have second : ((empty.arrive 0 "c").arrive 1 "c").Reachable := first.tail (.arrive "c" (by decide))
  have third : (((empty.arrive 0 "c").arrive 1 "c").arrive 2 "d").Reachable :=
    second.tail (.arrive "d" (by decide))
  have entered : ((((empty.arrive 0 "c").arrive 1 "c").arrive 2 "d").letIn 0).Reachable :=
    third.tail (.enter (by decide))
  have waits : ⟨1, "c", 0, false⟩ ∈
      ((((empty.arrive 0 "c").arrive 1 "c").arrive 2 "d").letIn 0).visits := by decide
  have cancelled : table.Reachable := entered.tail (.giveUp waits rfl)
  obtain ⟨present, counted, distinct, -, -, left⟩ := entries_track_visits cancelled
  exact ⟨cancelled, (counted "c" ⟨0, 1⟩ rfl).1, present "e", distinct, left⟩

/-! ## Runs that are made elsewhere -/

namespace Reachable

/-- Nothing happens when somebody departs who is not there. -/
theorem depart (reachable : table.Reachable) (visitor : Nat) : (table.depart visitor).Reachable := by
  cases found : table.visits.find? (·.visitor == visitor) with
  | none =>
    have same : table.depart visitor = table := by simp only [LockTable.depart, found]
    rwa [same]
  | some gone =>
    have here : gone ∈ table.visits := List.mem_of_find?_eq_some found
    have who : gone.visitor = visitor := by simpa using List.find?_some found
    subst who
    cases inside : gone.inside with
    | false => exact reachable.tail (.giveUp here inside)
    | true => exact reachable.tail (.leave here inside)

theorem enter (reachable : table.Reachable) (lock : Nat) : (table.enter lock).Reachable := by
  cases taken : table.isTaken lock with
  | true =>
    have same : table.enter lock = table := by simp only [LockTable.enter, taken]
    rwa [same]
  | false =>
    cases found : table.firstWaiting? lock with
    | none =>
      have same : table.enter lock = table := by simp only [LockTable.enter, taken, found]
      rwa [same]
    | some first =>
      obtain ⟨may, enters⟩ := reachable.exact.enter_eq taken found
      rw [enters]
      exact reachable.tail (.enter may)

theorem visit (reachable : table.Reachable) (newcomer : ∀ visit ∈ table.visits, visit.visitor ≠ visitor)
    (chat : String) : (table.visit visitor chat).Reachable := by
  have arrived := reachable.tail (.arrive chat newcomer)
  cases found : (table.arrive visitor chat).entries.get? chat with
  | none =>
    have same : table.visit visitor chat = table.arrive visitor chat := by
      simp only [LockTable.visit, found]
    rwa [same]
  | some entry =>
    have enters : table.visit visitor chat = (table.arrive visitor chat).enter entry.lock := by
      simp only [LockTable.visit, found]
    rw [enters]
    exact enter arrived entry.lock

theorem serve (units : List WorkUnit) (chat : String) (rounds : Nat) (reachable : table.Reachable) :
    (serve units chat rounds table).2.Reachable := by
  induction rounds generalizing table with
  | zero => exact reachable
  | succ rounds ih =>
    cases found : table.entries.get? chat with
    | none => simpa only [LockTable.serve, found] using reachable
    | some entry =>
      have entered := reachable.enter entry.lock
      cases inside : (table.enter entry.lock).insider? chat with
      | none => simpa only [LockTable.serve, found, inside] using entered
      | some visitor => simpa only [LockTable.serve, found, inside] using ih (entered.depart visitor)

/-- Units of work that come together are newcomers by their places in the list. -/
theorem runTogether (reachable : table.Reachable) (chat : String) (units : List WorkUnit)
    (newcomers : ∀ visit ∈ table.visits, units.length ≤ visit.visitor) :
    (table.runTogether chat units).2.Reachable := by
  -- After `n` arrivals, the places below `n` are taken.
  have arrivals : ∀ n ≤ units.length,
      let arrived := (List.range n).foldl (fun table n => table.arrive n chat) table
      arrived.Reachable ∧
        ∀ visit ∈ arrived.visits, visit.visitor < n ∨ units.length ≤ visit.visitor := by
    intro n
    induction n with
    | zero => exact fun _ => ⟨reachable, fun visit member => .inr (newcomers visit member)⟩
    | succ n ih =>
      intro within
      obtain ⟨arrived, places⟩ := ih (Nat.le_of_succ_le within)
      rw [List.range_succ, List.foldl_append, List.foldl_cons, List.foldl_nil]
      refine ⟨arrived.tail (.arrive chat fun visit member same => ?new), fun visit member => ?place⟩
      case new =>
        rcases places visit member with earlier | outside <;> omega
      case place =>
        obtain ⟨lock, visits⟩ := visits_arrive
          ((List.range n).foldl (fun table n => table.arrive n chat) table) n chat
        rw [visits] at member
        rcases List.mem_append.mp member with before | last
        · rcases places visit before with earlier | outside
          · exact .inl (Nat.lt_succ_of_lt earlier)
          · exact .inr outside
        · rw [List.mem_singleton.mp last]
          exact .inl (Nat.lt_succ_self n)
  exact serve units chat units.length (arrivals units.length (Nat.le_refl _)).1

end Reachable

end Storekeeper.LockTable
