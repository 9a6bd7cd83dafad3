import Storekeeper.Proofs.Dialogue.Replay
import Storekeeper.Proofs.Session.Visits

/-!
# Turns that overlap

At a desk many messages are answered at once.  A `Shift` holds the callers that wait for the lock of their
chat and the hearings of those that have been let in, in the order in which they were; each is moved on
by itself, one deed at a time.  Between any two moves another message may come, time may pass, or a
sweep, which asks for no lock, may be made.

* `Shift.step` is one move and `Shift.run` any number of them; a move that is not possible does nothing.
  `Shift.step_cases` says once what a move can do.
* `Shift.Orderly`: only one caller of a chat is let in at a time, and after it no other has been.
* `Shift.Follows`: a chat has been answered, and its live session is, as if the turns of the chat that
  are over had been served one after the other; a turn that is still going ends as it would there.
* `Shift.process_eq_run`: without anything in between, the moves of one caller make up `Desk.process`.
-/

namespace Storekeeper

/-- A message that is to be answered, and as which visitor the locks know it. -/
structure Caller where
  visitor : Nat
  chat : String
  content : Inbound

/-- How far a turn has come: this is left of it, or it is over. -/
inductive Stage where
  | going (rest : Turn Decision)
  | concluded (ended : Time) (reply : Except Failure Reply)

/-- A caller that has been let in: the kind of step that answers, when the session was taken, what the
world has answered since, and how far the turn has come. -/
structure Hearing where
  caller : Caller
  kind : String
  began : Time
  answers : List Returned
  stage : Stage

namespace Hearing

/-- What is left of a turn that is not over. -/
def turn? (hearing : Hearing) : Option (Turn Decision) :=
  match hearing.stage with
  | .going rest => some rest
  | .concluded _ _ => none

def isGoing (hearing : Hearing) : Bool :=
  hearing.turn?.isSome

/-- The record of a chat's turn that is over, and what was replied. -/
def record? (chat : String) (hearing : Hearing) : Option (Served × Except Failure Reply) :=
  match hearing.stage with
  | .going _ => none
  | .concluded ended reply =>
    if hearing.caller.chat = chat then
      some (⟨chat, hearing.caller.content, hearing.began, hearing.answers, ended⟩, reply)
    else none

/-- The hearing after a deed of its turn. -/
def went (hearing : Hearing) (answer : Option Returned) (rest : Turn Decision) : Hearing :=
  { hearing with answers := hearing.answers ++ answer.toList, stage := .going rest }

/-- The hearing when its turn is over. -/
def closed (hearing : Hearing) (now : Time) (reply : Except Failure Reply) : Hearing :=
  { hearing with stage := .concluded now reply }

end Hearing

/-- A desk at which turns overlap: the callers that wait, in any order, and those that have been let in,
in this order. -/
structure Shift where
  desk : Desk
  now : Time
  waiting : List Caller
  hearings : List Hearing

/-- What may happen next. -/
inductive Move where
  /-- A message comes and waits for the lock of its chat. -/
  | come (chat : String) (content : Inbound)
  /-- The waiting caller at a place is let in and takes the session, if the lock is free. -/
  | enter (place : Nat)
  /-- The turn at a place goes on by one deed, with the answer to its request. -/
  | proceed (place : Nat) (answer : Option Returned)
  /-- The turn at a place has nothing left to do: it is carried out, and its caller departs. -/
  | conclude (place : Nat)
  | sweep
  | pass (span : Time)

/-- The message that comes with a move. -/
def Move.message? : Move → Option (String × Inbound)
  | .come chat content => some (chat, content)
  | _ => none

namespace Shift

/-- A desk before the first message comes. -/
def opening (desk : Desk) (now : Time) : Shift :=
  ⟨desk, now, [], []⟩

/-- A message comes. -/
def come (shift : Shift) (chat : String) (content : Inbound) : Shift :=
  let visitor := shift.desk.locks.newcomer
  { shift with
    desk := { shift.desk with locks := shift.desk.locks.arrive visitor chat }
    waiting := shift.waiting ++ [⟨visitor, chat, content⟩] }

/-- A caller is let in and takes its session; these still wait. -/
def enter (a : Assistant) (shift : Shift) (caller : Caller) (waiting : List Caller) : Shift :=
  let (begun, desk) := shift.desk.begin a shift.now caller.chat caller.content
  { shift with
    desk := { desk with locks := desk.locks.letIn caller.visitor }
    waiting
    hearings := shift.hearings ++ [⟨caller, begun.kind, shift.now, [], .going begun.turn⟩] }

/-- A deed is written down, with which these hearings have come about. -/
def proceed (shift : Shift) (deed : Deed) (hearings : List Hearing) : Shift :=
  { shift with
    desk := { shift.desk with toLedger := deed.enter shift.desk.toLedger }
    hearings }

/-- A turn is carried out, with what it has come to, and its caller departs; `hearings` is what becomes of
them when the turn is over. -/
def conclude (shift : Shift) (hearing : Hearing) (out : Except Failure Decision)
    (hearings : Hearing → List Hearing) : Shift :=
  let (reply, desk) := shift.desk.conclude shift.now hearing.kind out
  { shift with
    desk := { desk with locks := desk.locks.depart hearing.caller.visitor }
    hearings := hearings (hearing.closed shift.now reply) }

/-- A move, if it is possible. -/
def step? (a : Assistant) (shift : Shift) : Move → Option Shift
  | .come chat content => some (shift.come chat content)
  | .enter place => do
    let caller ← shift.waiting[place]?
    if shift.desk.locks.mayEnter caller.visitor then
      some (shift.enter a caller (shift.waiting.eraseIdx place))
    else none
  | .proceed place answer => do
    let hearing ← shift.hearings[place]?
    let turn ← hearing.turn?
    let (deed, rest) ← turn.advance? answer
    some (shift.proceed deed (shift.hearings.set place (hearing.went answer rest)))
  | .conclude place => do
    let hearing ← shift.hearings[place]?
    let turn ← hearing.turn?
    let out ← turn.ended?
    some (shift.conclude hearing out (shift.hearings.set place))
  | .sweep => some { shift with desk := (shift.desk.sweep shift.now).2 }
  | .pass span => some { shift with now := shift.now + span }

/-- A move; nothing happens if it is not possible. -/
def step (a : Assistant) (shift : Shift) (move : Move) : Shift :=
  (shift.step? a move).getD shift

/-- Moves one after the other. -/
def run (a : Assistant) (shift : Shift) (moves : List Move) : Shift :=
  moves.foldl (step a) shift

/-- The records of a chat's turns that are over, in the order in which the callers were let in, and what
was replied. -/
def records (shift : Shift) (chat : String) : List (Served × Except Failure Reply) :=
  shift.hearings.filterMap (Hearing.record? chat)

/-- The messages that are being answered, or are to be. -/
def messages (shift : Shift) : List (String × Inbound) :=
  shift.hearings.map (fun hearing => (hearing.caller.chat, hearing.caller.content)) ++
    shift.waiting.map fun caller => (caller.chat, caller.content)

/-! ## What a move can do -/

/-- The ways in which one move changes a shift. -/
inductive Moves (a : Assistant) (shift : Shift) : Move → Shift → Prop
  | idle {move : Move} : move.message? = none → Moves a shift move shift
  | come (chat : String) (content : Inbound) :
    Moves a shift (.come chat content) (shift.come chat content)
  | enter {place : Nat} {before after : List Caller} {caller : Caller} :
    shift.waiting = before ++ caller :: after →
    shift.desk.locks.mayEnter caller.visitor = true →
    Moves a shift (.enter place) (shift.enter a caller (before ++ after))
  | proceed {place : Nat} {answer : Option Returned} {before after : List Hearing}
    {hearing : Hearing} {turn rest : Turn Decision} {deed : Deed} :
    shift.hearings = before ++ hearing :: after →
    hearing.turn? = some turn → turn.advance? answer = some (deed, rest) →
    Moves a shift (.proceed place answer)
      (shift.proceed deed (before ++ hearing.went answer rest :: after))
  | conclude {place : Nat} {before after : List Hearing} {hearing : Hearing}
    {turn : Turn Decision} {out : Except Failure Decision} :
    shift.hearings = before ++ hearing :: after →
    hearing.turn? = some turn → turn.ended? = some out →
    Moves a shift (.conclude place)
      (shift.conclude hearing out fun closed => before ++ closed :: after)
  | sweep : Moves a shift .sweep { shift with desk := (shift.desk.sweep shift.now).2 }
  | pass (span : Time) : Moves a shift (.pass span) { shift with now := shift.now + span }

theorem split_at {α : Type} {list : List α} {place : Nat} {value : α}
    (found : list[place]? = some value) :
    ∃ before after, list = before ++ value :: after ∧
      list.eraseIdx place = before ++ after ∧
      ∀ other, list.set place other = before ++ other :: after := by
  obtain ⟨below, rfl⟩ := List.getElem?_eq_some_iff.mp found
  refine ⟨list.take place, list.drop (place + 1), ?_, List.eraseIdx_eq_take_drop_succ .., ?_⟩
  · rw [← List.drop_eq_getElem_cons below, List.take_append_drop]
  · intro other
    rw [List.set_eq_take_append_cons_drop, if_pos below]

theorem step_cases (a : Assistant) (shift : Shift) (move : Move) :
    shift.Moves a move (shift.step a move) := by
  unfold step
  cases move with
  | come chat content => exact .come chat content
  | enter place =>
    simp only [step?]
    cases found : shift.waiting[place]? with
    | none => exact .idle rfl
    | some caller =>
      obtain ⟨before, after, split, rest, -⟩ := split_at found
      cases free : shift.desk.locks.mayEnter caller.visitor with
      | false =>
        simp only [Option.bind_eq_bind, Option.bind_some, free]
        exact .idle rfl
      | true =>
        simp only [Option.bind_eq_bind, Option.bind_some, free, rest]
        exact .enter split free
  | proceed place answer =>
    simp only [step?]
    cases found : shift.hearings[place]? with
    | none => exact .idle rfl
    | some hearing =>
      obtain ⟨before, after, split, -, replaced⟩ := split_at found
      cases going : hearing.turn? with
      | none =>
        simp only [Option.bind_eq_bind, Option.bind_some, going, Option.bind_none]
        exact .idle rfl
      | some turn =>
        cases advance : turn.advance? answer with
        | none =>
          simp only [Option.bind_eq_bind, Option.bind_some, going, advance, Option.bind_none]
          exact .idle rfl
        | some gone =>
          obtain ⟨deed, rest⟩ := gone
          simp only [Option.bind_eq_bind, Option.bind_some, going, advance, replaced]
          exact .proceed split going advance
  | conclude place =>
    simp only [step?]
    cases found : shift.hearings[place]? with
    | none => exact .idle rfl
    | some hearing =>
      obtain ⟨before, after, split, -, replaced⟩ := split_at found
      cases going : hearing.turn? with
      | none =>
        simp only [Option.bind_eq_bind, Option.bind_some, going, Option.bind_none]
        exact .idle rfl
      | some turn =>
        cases ended : turn.ended? with
        | none =>
          simp only [Option.bind_eq_bind, Option.bind_some, going, ended, Option.bind_none]
          exact .idle rfl
        | some out =>
          have same : shift.hearings.set place = fun closed => before ++ closed :: after :=
            funext replaced
          simp only [Option.bind_eq_bind, Option.bind_some, going, ended, same]
          exact .conclude split going ended
  | sweep => exact .sweep
  | pass span => exact .pass span

end Shift

/-! ## One at a time -/

/-- A caller is at the lock of its chat, inside or not. -/
def Caller.IsAt (caller : Caller) (table : LockTable) (inside : Bool) : Prop :=
  ∃ visit ∈ table.visits,
    visit.visitor = caller.visitor ∧ visit.chat = caller.chat ∧ visit.inside = inside

namespace Caller.IsAt

variable {caller other : Caller} {table : LockTable} {inside : Bool}

theorem arrive (there : caller.IsAt table inside) (visitor : Nat) (chat : String) :
    caller.IsAt (table.arrive visitor chat) inside := by
  obtain ⟨visit, member, facts⟩ := there
  obtain ⟨lock, visits⟩ := table.visits_arrive visitor chat
  rw [IsAt, visits]
  exact ⟨visit, List.mem_append_left _ member, facts⟩

theorem letIn_ne (there : caller.IsAt table inside) {visitor : Nat}
    (different : caller.visitor ≠ visitor) : caller.IsAt (table.letIn visitor) inside := by
  obtain ⟨visit, member, who, facts⟩ := there
  have stays := LockTable.mem_visits_letIn.mpr (.inl ⟨member, who.symm ▸ different⟩)
  exact ⟨visit, stays, who, facts⟩

theorem letIn_self (there : caller.IsAt table inside) :
    caller.IsAt (table.letIn caller.visitor) true := by
  obtain ⟨visit, member, who, chat, -⟩ := there
  have entered := LockTable.mem_visits_letIn.mpr (.inr ⟨visit, member, who, rfl⟩)
  exact ⟨_, entered, who, chat, rfl⟩

theorem depart (there : caller.IsAt table inside) {visitor : Nat}
    (different : caller.visitor ≠ visitor) : caller.IsAt (table.depart visitor) inside := by
  obtain ⟨visit, member, who, facts⟩ := there
  have stays : visit ∈ (table.depart visitor).visits := by
    rw [LockTable.visits_depart]
    exact List.mem_filter.mpr ⟨member, by simpa [who] using different⟩
  exact ⟨visit, stays, who, facts⟩

/-- Two callers are different visitors if one of them is inside and the other is not, or if they are of
different chats. -/
theorem apart (there : caller.IsAt table inside) {inside' : Bool} (there' : other.IsAt table inside')
    (exact : table.Exact) (different : inside ≠ inside' ∨ caller.chat ≠ other.chat) :
    caller.visitor ≠ other.visitor := by
  obtain ⟨visit, member, who, chat, place⟩ := there
  obtain ⟨visit', member', who', chat', place'⟩ := there'
  intro same
  have equal : visit = visit' :=
    exact.eq_of_visitor member member' (who.trans (same.trans who'.symm))
  subst equal
  rcases different with places | chats
  · exact places (place.symm.trans place')
  · exact chats (chat.symm.trans chat')

/-- Who may enter is of another chat than all those inside. -/
theorem free (there : caller.IsAt table false) (there' : other.IsAt table true)
    (exact : table.Exact) (may : table.mayEnter caller.visitor = true) :
    other.chat ≠ caller.chat := by
  obtain ⟨visit, member, who, chat, -⟩ := there
  obtain ⟨visit', member', -, chat', inside⟩ := there'
  obtain ⟨entering, member'', who'', -, untaken⟩ := LockTable.mayEnter_iff.mp may
  have equal : entering = visit := exact.eq_of_visitor member'' member (who''.trans who.symm)
  subst equal
  intro same
  have shared : visit'.lock = entering.lock :=
    (exact.lock_eq_iff member' member).mpr (chat'.trans (same.trans chat.symm))
  have outside := LockTable.isTaken_eq_false.mp untaken visit' member' shared
  rw [inside] at outside
  cases outside

end Caller.IsAt

namespace Shift

variable {a : Assistant} {shift later : Shift} {move : Move}

/-- When a turn is over, all that happens at the locks is that its caller departs. -/
theorem locks_conclude (shift : Shift) (hearing : Hearing) (out : Except Failure Decision)
    (hearings : Hearing → List Hearing) : (shift.conclude hearing out hearings).desk.locks =
      shift.desk.locks.depart hearing.caller.visitor :=
  congrArg (·.depart hearing.caller.visitor) (shift.desk.conclude_locks ..)

/-- Every caller is at the lock of its chat, those that wait outside and those that are heard inside, and
nobody of a chat has been let in after one who is still heard. -/
structure Orderly (shift : Shift) : Prop where
  locks : shift.desk.locks.Exact
  waits : ∀ caller ∈ shift.waiting, caller.IsAt shift.desk.locks false
  distinct : (shift.waiting.map Caller.visitor).Nodup
  heard : ∀ hearing ∈ shift.hearings, hearing.isGoing = true →
    hearing.caller.IsAt shift.desk.locks true
  last : shift.hearings.Pairwise fun earlier later =>
    earlier.isGoing = true → earlier.caller.chat ≠ later.caller.chat

/-- A hearing may be replaced by one of the same caller that is not going if the old one was not. -/
theorem pairwise_replace {before after : List Hearing} {hearing other : Hearing}
    (last : (before ++ hearing :: after).Pairwise fun earlier later =>
      earlier.isGoing = true → earlier.caller.chat ≠ later.caller.chat)
    (same : other.caller = hearing.caller) (going : other.isGoing = true → hearing.isGoing = true) :
    (before ++ other :: after).Pairwise fun earlier later =>
      earlier.isGoing = true → earlier.caller.chat ≠ later.caller.chat := by
  rw [List.pairwise_append, List.pairwise_cons] at last ⊢
  obtain ⟨left, ⟨head, right⟩, across⟩ := last
  refine ⟨left, ⟨fun later member is => ?_, right⟩, fun earlier member later member' is => ?_⟩
  · rw [same]
    exact head later member (going is)
  · rcases List.mem_cons.mp member' with rfl | there
    · rw [same]
      exact across earlier member hearing (List.mem_cons_self ..) is
    · exact across earlier member later (List.mem_cons_of_mem _ there) is

/-- Who is still going when a turn is over stands beside it. -/
theorem mem_beside {before after : List Hearing} {hearing other : Hearing} {now : Time}
    {reply : Except Failure Reply} (there : other ∈ before ++ hearing.closed now reply :: after)
    (going : other.isGoing = true) : other ∈ before ∨ other ∈ after := by
  rcases List.mem_append.mp there with left | right
  · exact .inl left
  · rcases List.mem_cons.mp right with rfl | right
    · cases going
    · exact .inr right

namespace Orderly

theorem opening {desk : Desk} (locks : desk.locks.Exact) (now : Time) :
    (Shift.opening desk now).Orderly where
  locks := locks
  waits := by
    intro caller member
    cases member
  distinct := List.nodup_nil
  heard := by
    intro hearing member
    cases member
  last := List.Pairwise.nil

theorem come (orderly : shift.Orderly) (chat : String) (content : Inbound) :
    (shift.come chat content).Orderly := by
  obtain ⟨locks, waits, distinct, heard, last⟩ := orderly
  have fresh : ∀ visit ∈ shift.desk.locks.visits, visit.visitor ≠ shift.desk.locks.newcomer :=
    fun visit member => Nat.ne_of_lt (shift.desk.locks.newcomer_fresh visit member)
  refine ⟨locks.arrive fresh chat, fun caller member => ?_, ?_,
    fun hearing member is => (heard hearing member is).arrive _ chat, last⟩
  · rcases List.mem_append.mp member with before | new
    · exact (waits caller before).arrive _ chat
    · rw [List.mem_singleton.mp new]
      obtain ⟨lock, visits⟩ := shift.desk.locks.visits_arrive shift.desk.locks.newcomer chat
      refine ⟨⟨_, chat, lock, false⟩, ?_, rfl, rfl, rfl⟩
      change _ ∈ (shift.desk.locks.arrive _ chat).visits
      rw [visits]
      exact List.mem_append_right _ (List.mem_singleton_self _)
  · change ((shift.waiting ++ [_]).map Caller.visitor).Nodup
    rw [List.map_append, List.map_singleton]
    refine distinct.append (List.nodup_singleton _) ?_
    rintro _ member again
    obtain ⟨caller, there, rfl⟩ := List.mem_map.mp member
    obtain ⟨visit, here, who, -⟩ := waits caller there
    exact fresh visit here (who.trans (List.mem_singleton.mp again))

theorem enter (orderly : shift.Orderly) {before after : List Caller} {caller : Caller}
    (split : shift.waiting = before ++ caller :: after)
    (may : shift.desk.locks.mayEnter caller.visitor = true) :
    (shift.enter a caller (before ++ after)).Orderly := by
  obtain ⟨locks, waits, distinct, heard, last⟩ := orderly
  rw [split] at waits distinct
  have outside : caller.IsAt shift.desk.locks false := waits caller (by simp)
  have fewer : (before ++ after).Sublist (before ++ caller :: after) :=
    (List.sublist_cons_self ..).append_left before
  have others : ∀ other ∈ before ++ after, other.visitor ≠ caller.visitor := by
    rw [List.map_append, List.map_cons] at distinct
    have apart := (List.nodup_cons.mp (List.nodup_middle.mp distinct)).1
    intro other member same
    rw [← List.map_append] at apart
    exact apart (List.mem_map.mpr ⟨other, member, same⟩)
  refine ⟨locks.letIn may, fun other member => ?_, distinct.sublist (fewer.map _),
    fun hearing member is => ?_, ?_⟩
  · exact (waits other (fewer.subset member)).letIn_ne (others other member)
  · rcases List.mem_append.mp member with earlier | new
    · have inside := heard hearing earlier is
      exact inside.letIn_ne (inside.apart outside locks (.inl Bool.false_ne_true.symm))
    · rw [List.mem_singleton.mp new]
      exact outside.letIn_self
  · change (shift.hearings ++ [_]).Pairwise _
    rw [List.pairwise_append]
    refine ⟨last, List.pairwise_singleton .., fun earlier member new there is => ?_⟩
    rw [List.mem_singleton.mp there]
    exact outside.free (heard earlier member is) locks may

theorem proceed (orderly : shift.Orderly) {before after : List Hearing} {hearing : Hearing}
    (split : shift.hearings = before ++ hearing :: after) (going : hearing.isGoing = true)
    (deed : Deed) (answer : Option Returned) (rest : Turn Decision) :
    (shift.proceed deed (before ++ hearing.went answer rest :: after)).Orderly := by
  obtain ⟨locks, waits, distinct, heard, last⟩ := orderly
  rw [split] at heard last
  refine ⟨locks, waits, distinct, fun other member is => ?_,
    pairwise_replace last rfl fun _ => going⟩
  rcases List.mem_append.mp member with left | right
  · exact heard other (by simp [left]) is
  · rcases List.mem_cons.mp right with rfl | right
    · exact heard hearing (by simp) going
    · exact heard other (by simp [right]) is

theorem conclude (orderly : shift.Orderly) {before after : List Hearing} {hearing : Hearing}
    (split : shift.hearings = before ++ hearing :: after) (going : hearing.isGoing = true)
    (out : Except Failure Decision) :
    (shift.conclude hearing out fun closed => before ++ closed :: after).Orderly := by
  obtain ⟨locks, waits, distinct, heard, last⟩ := orderly
  rw [split] at heard last
  have inside := heard hearing (by simp) going
  have same := shift.locks_conclude hearing out fun closed => before ++ closed :: after
  -- Of the others that are going none is of the same chat.
  have others : ∀ other, other ∈ before ∨ other ∈ after → other.isGoing = true →
      other.caller.chat ≠ hearing.caller.chat := by
    rw [List.pairwise_append, List.pairwise_cons] at last
    rintro other (left | right) is
    · exact last.2.2 other left hearing (List.mem_cons_self ..) is
    · exact (last.2.1.1 other right going).symm
  refine ⟨?_, fun caller member => ?_, distinct, fun other member is => ?_,
    pairwise_replace last rfl fun is => by cases is⟩
  · rw [same]
    exact locks.depart _
  · rw [same]
    have outside := waits caller member
    exact outside.depart (outside.apart inside locks (.inl Bool.false_ne_true))
  · rw [same]
    have beside := mem_beside member is
    have there : other.caller.IsAt shift.desk.locks true := by
      apply heard other _ is
      rcases beside with left | right
      · simp [left]
      · simp [right]
    exact there.depart (there.apart inside locks (.inr (others other beside is)))

theorem moves (orderly : shift.Orderly) (moves : shift.Moves a move later) : later.Orderly := by
  cases moves with
  | idle _ => exact orderly
  | come chat content => exact orderly.come chat content
  | enter split may => exact orderly.enter split may
  | proceed split going advance =>
    exact orderly.proceed split (by simp [Hearing.isGoing, going]) _ _ _
  | conclude split going ended =>
    exact orderly.conclude split (by simp [Hearing.isGoing, going]) _
  | sweep => exact ⟨orderly.locks, orderly.waits, orderly.distinct, orderly.heard, orderly.last⟩
  | pass span => exact ⟨orderly.locks, orderly.waits, orderly.distinct, orderly.heard, orderly.last⟩

end Orderly

/-! ## As if one after the other -/

/-- The replies to a chat's turns that are over, and the desk at which they were given, if the same turns
are served one after the other. -/
def serial (a : Assistant) (start : Desk) (shift : Shift) (chat : String) :
    List (Except Failure Reply) × Desk :=
  start.serveAll a ((shift.records chat).map Prod.fst)

/-- A chat has been answered as it is when its turns are served one after the other, has the same live
session as there, and a turn that is going ends as it would there. -/
structure Follows (a : Assistant) (start : Desk) (chat : String) (shift : Shift) : Prop where
  agree : Desk.Agree chat shift.now shift.desk (shift.serial a start chat).2
  replies : (shift.serial a start chat).1 = (shift.records chat).map Prod.snd
  going : ∀ hearing ∈ shift.hearings, hearing.caller.chat = chat → ∀ rest,
    hearing.turn? = some rest → hearing.began ≤ shift.now ∧ ∀ more,
      rest.outcome .replay more =
        ((shift.serial a start chat).2.response a hearing.began chat hearing.caller.content).outcome
          .replay (hearing.answers ++ more)

theorem record?_of_going {hearing : Hearing} {rest : Turn Decision} (chat : String)
    (going : hearing.turn? = some rest) : hearing.record? chat = none := by
  unfold Hearing.turn? at going
  unfold Hearing.record?
  cases stage : hearing.stage with
  | going turn => rfl
  | concluded ended reply =>
    rw [stage] at going
    cases going

theorem record?_of_ne {hearing : Hearing} {chat : String} (different : hearing.caller.chat ≠ chat) :
    hearing.record? chat = none := by
  unfold Hearing.record?
  cases hearing.stage with
  | going rest => rfl
  | concluded ended reply => exact if_neg different

theorem record?_closed (hearing : Hearing) (now : Time) (reply : Except Failure Reply) :
    (hearing.closed now reply).record? hearing.caller.chat =
      some (⟨hearing.caller.chat, hearing.caller.content, hearing.began, hearing.answers, now⟩,
        reply) :=
  if_pos rfl

/-- Only a hearing of the chat that is over makes a difference to the chat's records. -/
theorem records_replace {before after : List Hearing} {hearing other : Hearing} {chat : String}
    (split : shift.hearings = before ++ hearing :: after)
    (split' : later.hearings = before ++ other :: after)
    (same : other.record? chat = hearing.record? chat) : later.records chat = shift.records chat := by
  unfold records
  rw [split, split', List.filterMap_append, List.filterMap_append, List.filterMap_cons,
    List.filterMap_cons, same]

namespace Follows

variable {start : Desk} {chat : String}

theorem opening (filed : start.store.Filed) (now : Time) (chat : String) :
    (Shift.opening start now).Follows a start chat where
  agree := ⟨filed, filed, rfl, rfl, rfl⟩
  replies := rfl
  going := by
    intro hearing member
    cases member

/-- What is said of a chat stays true when the records of the chat stay, its live session does, and no
turn of it has been let in or gone on. -/
theorem keeps (follows : shift.Follows a start chat)
    (records : later.records chat = shift.records chat) (time : shift.now ≤ later.now)
    (agree : Desk.Agree chat later.now later.desk (shift.serial a start chat).2)
    (hearings : ∀ hearing ∈ later.hearings, hearing.caller.chat = chat → hearing.isGoing = true →
      hearing ∈ shift.hearings) :
    later.Follows a start chat := by
  have serial : later.serial a start chat = shift.serial a start chat := by
    unfold Shift.serial
    rw [records]
  refine ⟨serial ▸ agree, ?_, fun hearing member own rest going => ?_⟩
  · rw [serial, records]
    exact follows.replies
  · rw [serial]
    have there := hearings hearing member own (by simp [Hearing.isGoing, going])
    obtain ⟨began, ends⟩ := follows.going hearing there own rest going
    exact ⟨Nat.le_trans began time, ends⟩

theorem enter (follows : shift.Follows a start chat) (orderly : shift.Orderly)
    {before after : List Caller} {caller : Caller}
    (split : shift.waiting = before ++ caller :: after)
    (may : shift.desk.locks.mayEnter caller.visitor = true) :
    (shift.enter a caller (before ++ after)).Follows a start chat := by
  have records : (shift.enter a caller (before ++ after)).records chat = shift.records chat := by
    change (shift.hearings ++ [_]).filterMap _ = _
    rw [List.filterMap_append]
    exact List.append_nil _
  have agree : Desk.Agree chat shift.now (shift.enter a caller (before ++ after)).desk
      (shift.serial a start chat).2 :=
    (follows.agree.taken (Nat.le_refl shift.now) caller.chat).of_store rfl
  by_cases own : caller.chat = chat
  · subst own
    have outside : caller.IsAt shift.desk.locks false := orderly.waits caller (by simp [split])
    have serial : (shift.enter a caller (before ++ after)).serial a start caller.chat =
        shift.serial a start caller.chat := by
      unfold Shift.serial
      rw [records]
    refine ⟨serial ▸ agree, by rw [serial, records]; exact follows.replies,
      fun hearing member same rest going => ?_⟩
    rw [serial]
    rcases List.mem_append.mp member with earlier | new
    · -- Nobody of the chat is inside while the lock is free.
      have inside := orderly.heard hearing earlier (by simp [Hearing.isGoing, going])
      exact absurd same (outside.free inside orderly.locks may)
    · rw [List.mem_singleton.mp new] at going ⊢
      cases going
      refine ⟨Nat.le_refl _, fun more => ?_⟩
      rw [List.nil_append, ← follows.agree.asks caller.content]
      rfl
  · refine follows.keeps records (Nat.le_refl _) agree fun hearing member same _ => ?_
    rcases List.mem_append.mp member with earlier | new
    · exact earlier
    · rw [List.mem_singleton.mp new] at same
      exact absurd same own

theorem proceed (follows : shift.Follows a start chat) {before after : List Hearing}
    {hearing : Hearing} {turn rest : Turn Decision} {answer : Option Returned} {deed : Deed}
    (split : shift.hearings = before ++ hearing :: after) (going : hearing.turn? = some turn)
    (advance : turn.advance? answer = some (deed, rest)) :
    (shift.proceed deed (before ++ hearing.went answer rest :: after)).Follows a start chat := by
  have records : (shift.proceed deed (before ++ hearing.went answer rest :: after)).records chat =
      shift.records chat := by
    refine records_replace split rfl ?_
    rw [record?_of_going chat going]
    rfl
  have serial : (shift.proceed deed (before ++ hearing.went answer rest :: after)).serial a start chat =
      shift.serial a start chat := by
    unfold Shift.serial
    rw [records]
  have agree : Desk.Agree chat shift.now
      (shift.proceed deed (before ++ hearing.went answer rest :: after)).desk
      (shift.serial a start chat).2 := follows.agree.of_store rfl
  refine ⟨serial ▸ agree, by rw [serial, records]; exact follows.replies,
    fun other member own left is => ?_⟩
  rw [serial]
  have known := follows.going
  rw [split] at known
  rcases List.mem_append.mp member with earlier | right
  · exact known other (by simp [earlier]) own left is
  · rcases List.mem_cons.mp right with rfl | later
    · cases is
      obtain ⟨began, ends⟩ := known hearing (by simp) own turn going
      refine ⟨began, fun more => ?_⟩
      calc rest.outcome .replay more
          = turn.outcome .replay (answer.toList ++ more) := (Turn.outcome_advance advance more).symm
        _ = _ := ends (answer.toList ++ more)
        _ = _ := by
          rw [← List.append_assoc]
          rfl
    · exact known other (by simp [later]) own left is

/-- What a turn of a chat comes to is about the chat. -/
theorem concerns (follows : shift.Follows a start chat) {hearing : Hearing}
    (member : hearing ∈ shift.hearings) (own : hearing.caller.chat = chat) {turn : Turn Decision}
    (going : hearing.turn? = some turn) {out : Except Failure Decision}
    (ended : turn.ended? = some out) :
    ((shift.serial a start chat).2.response a hearing.began chat hearing.caller.content).outcome
        .replay hearing.answers = out ∧
      ∀ decision, out = .ok decision → decision.write.Concerns chat := by
  obtain ⟨-, ends⟩ := follows.going hearing member own turn going
  have same := (ends []).symm.trans (Turn.outcome_of_ended ended)
  rw [List.append_nil] at same
  refine ⟨same, fun decision decided => ?_⟩
  have course := Turn.goes_deeds .replay
    ((shift.serial a start chat).2.response a hearing.began chat hearing.caller.content)
    hearing.answers
  rw [same, decided] at course
  exact Desk.response_concerns follows.agree.filed' course

/-- The record of a turn that is carried out is the last of its chat, of which nobody was let in after
its caller. -/
theorem records_conclude {before after : List Hearing} {hearing : Hearing} {turn : Turn Decision}
    (split : shift.hearings = before ++ hearing :: after) (going : hearing.turn? = some turn)
    (nobody : ∀ other ∈ after, other.caller.chat ≠ hearing.caller.chat)
    (out : Except Failure Decision) :
    (shift.conclude hearing out fun closed => before ++ closed :: after).records hearing.caller.chat =
      shift.records hearing.caller.chat ++
        [(⟨hearing.caller.chat, hearing.caller.content, hearing.began, hearing.answers, shift.now⟩,
          (shift.desk.conclude shift.now hearing.kind out).1)] := by
  have none : after.filterMap (Hearing.record? hearing.caller.chat) = [] :=
    List.filterMap_eq_nil_iff.mpr fun other there => record?_of_ne (nobody other there)
  have closed := record?_closed hearing shift.now
    (shift.desk.conclude shift.now hearing.kind out).1
  unfold Shift.records
  rw [split]
  change (before ++ hearing.closed shift.now
    (shift.desk.conclude shift.now hearing.kind out).1 :: after).filterMap _ = _
  rw [List.filterMap_append, List.filterMap_append, List.filterMap_cons,
    List.filterMap_cons, closed, record?_of_going _ going, none, List.append_nil]

section Conclusion

variable {before after : List Hearing} {hearing : Hearing} {turn : Turn Decision}
  {out : Except Failure Decision}

/-- A turn that is carried out ends as it does when it is served after those before it. -/
theorem conclude_own (known : shift.Follows a start hearing.caller.chat) (orderly : shift.Orderly)
    (split : shift.hearings = before ++ hearing :: after) (going : hearing.turn? = some turn)
    (ended : turn.ended? = some out) :
    (shift.conclude hearing out fun closed => before ++ closed :: after).Follows a start
      hearing.caller.chat := by
  have member : hearing ∈ shift.hearings := by simp [split]
  have isGoing : hearing.isGoing = true := by simp [Hearing.isGoing, going]
  have last := orderly.last
  rw [split, List.pairwise_append, List.pairwise_cons] at last
  obtain ⟨-, ⟨head, -⟩, across⟩ := last
  let served : Served :=
    ⟨hearing.caller.chat, hearing.caller.content, hearing.began, hearing.answers, shift.now⟩
  let past := shift.serial a start hearing.caller.chat
  have records := records_conclude split going (fun other there => (head other there isGoing).symm) out
  have serial : (shift.conclude hearing out fun closed => before ++ closed :: after).serial a start
      hearing.caller.chat = (past.1 ++ [(past.2.serve a served).1], (past.2.serve a served).2) := by
    unfold Shift.serial
    rw [records, List.map_append]
    exact Desk.serveAll_concat ..
  obtain ⟨same, concerns⟩ := known.concerns member rfl going ended
  obtain ⟨began, -⟩ := known.going hearing member rfl turn going
  have ends := shift.desk.conclude_ends shift.now hearing.kind out
  have ends' := past.2.serve_ends a served
  rw [show (past.2.response a served.began served.chat served.content).outcome .replay
    served.answers = out from same] at ends'
  have taken := (known.agree.symm.taken began hearing.caller.chat).symm
  obtain ⟨reply, agree⟩ := taken.ends concerns ends ends'
  refine ⟨?_, ?_, fun other there chat turn is => ?_⟩
  · rw [serial]
    exact agree.of_store rfl
  · rw [serial, records, List.map_append, ← reply, ← known.replies]
    rfl
  · have isGoing' : other.isGoing = true := by simp [Hearing.isGoing, is]
    rcases mem_beside there isGoing' with left | right
    · exact absurd chat (across other left hearing (List.mem_cons_self ..) isGoing')
    · exact absurd chat.symm (head other right isGoing)

/-- A turn that is carried out makes no difference to another chat. -/
theorem conclude_other (known : shift.Follows a start chat) (own : hearing.caller.chat ≠ chat)
    (concerns : ∀ decision, out = .ok decision → decision.write.Concerns hearing.caller.chat)
    (split : shift.hearings = before ++ hearing :: after) :
    (shift.conclude hearing out fun closed => before ++ closed :: after).Follows a start chat := by
  have ends := shift.desk.conclude_ends shift.now hearing.kind out
  refine known.keeps ?records (Nat.le_refl _) ?agree fun other there _ is => ?hearings
  case records =>
    have same : (hearing.closed shift.now (shift.desk.conclude shift.now hearing.kind out).1).record?
        chat = hearing.record? chat := by
      rw [record?_of_ne own]
      exact record?_of_ne own
    exact records_replace split rfl same
  case agree =>
    obtain ⟨filed, filed', timeout, horizon, live⟩ := known.agree
    have untouched : (shift.desk.conclude shift.now hearing.kind out).2.live shift.now chat =
        (shift.serial a start chat).2.live shift.now chat := by
      unfold Desk.live
      rw [Store.live_eq, ends.others concerns own, ← Store.live_eq]
      exact live
    have kept : Desk.Agree chat shift.now (shift.desk.conclude shift.now hearing.kind out).2
        (shift.serial a start chat).2 :=
      ⟨ends.filed filed, filed', ends.timeout.1.trans timeout, ends.timeout.2.trans horizon,
        untouched⟩
    exact kept.of_store rfl
  case hearings =>
    rw [split]
    rcases mem_beside there is with left | right
    · simp [left]
    · simp [right]

theorem conclude (follows : ∀ chat, shift.Follows a start chat) (orderly : shift.Orderly)
    (split : shift.hearings = before ++ hearing :: after) (going : hearing.turn? = some turn)
    (ended : turn.ended? = some out) (chat : String) :
    (shift.conclude hearing out fun closed => before ++ closed :: after).Follows a start chat := by
  by_cases own : hearing.caller.chat = chat
  · subst own
    exact (follows _).conclude_own orderly split going ended
  · have member : hearing ∈ shift.hearings := by simp [split]
    obtain ⟨-, concerns⟩ := (follows hearing.caller.chat).concerns member rfl going ended
    exact (follows chat).conclude_other own concerns split

end Conclusion

theorem moves (follows : ∀ chat, shift.Follows a start chat) (orderly : shift.Orderly)
    (moves : shift.Moves a move later) (chat : String) : later.Follows a start chat := by
  have known := follows chat
  cases moves with
  | idle _ => exact known
  | come other content =>
    exact known.keeps rfl (Nat.le_refl _) (known.agree.of_store rfl) fun _ member _ _ => member
  | enter split may => exact known.enter orderly split may
  | proceed split going advance => exact known.proceed split going advance
  | conclude split going ended => exact conclude follows orderly split going ended chat
  | sweep =>
    obtain ⟨filed, filed', timeout, horizon, live⟩ := known.agree
    have swept : (shift.desk.sweep shift.now).2.live shift.now chat =
        (shift.serial a start chat).2.live shift.now chat :=
      (Store.live_sweep filed.distinct (Nat.le_refl _)).trans live
    exact known.keeps rfl (Nat.le_refl _)
      ⟨filed.sweep shift.now, filed', timeout, horizon, swept⟩ fun _ member _ _ => member
  | pass span =>
    have after : shift.now ≤ shift.now + span := Nat.le_add_right ..
    exact known.keeps rfl after (known.agree.later after) fun _ member _ _ => member

end Follows

/-! ## Any number of moves -/

/-- A move loses no message and makes up none. -/
theorem messages_moves (moves : shift.Moves a move later) :
    later.messages.Perm (shift.messages ++ move.message?.toList) := by
  unfold messages
  cases moves with
  | idle silent =>
    rw [silent, Option.toList_none, List.append_nil]
  | come chat content => simp [Shift.come, Move.message?]
  | @enter place before after caller split may =>
    have moved : (shift.hearings.map (fun hearing => (hearing.caller.chat, hearing.caller.content)) ++
        (caller.chat, caller.content) ::
          (before ++ after).map fun caller => (caller.chat, caller.content)).Perm
        (shift.hearings.map (fun hearing => (hearing.caller.chat, hearing.caller.content)) ++
          (before ++ caller :: after).map fun caller => (caller.chat, caller.content)) := by
      refine List.Perm.append_left _ ?_
      rw [List.map_append, List.map_append, List.map_cons]
      exact List.perm_middle.symm
    rw [split]
    simpa [Shift.enter, Move.message?] using moved
  | proceed split going advance => simp [Shift.proceed, Move.message?, split, Hearing.went]
  | conclude split going ended => simp [Shift.conclude, Move.message?, split, Hearing.closed]
  | sweep => simp [Move.message?]
  | pass span => simp [Move.message?]

theorem run_append (a : Assistant) (shift : Shift) (first second : List Move) :
    shift.run a (first ++ second) = (shift.run a first).run a second :=
  List.foldl_append

theorem run_orderly (orderly : shift.Orderly) (moves : List Move) : (shift.run a moves).Orderly := by
  induction moves generalizing shift with
  | nil => exact orderly
  | cons move moves ih => exact ih (orderly.moves (step_cases a shift move))

theorem run_follows {start : Desk} (orderly : shift.Orderly)
    (follows : ∀ chat, shift.Follows a start chat) (moves : List Move) :
    ∀ chat, (shift.run a moves).Follows a start chat := by
  induction moves generalizing shift with
  | nil => exact follows
  | cons move moves ih =>
    have moved := step_cases a shift move
    exact ih (orderly.moves moved) fun chat => Follows.moves follows orderly moved chat

theorem run_messages (a : Assistant) (shift : Shift) (moves : List Move) :
    (shift.run a moves).messages.Perm (shift.messages ++ moves.filterMap Move.message?) := by
  induction moves generalizing shift with
  | nil =>
    rw [List.filterMap_nil, List.append_nil]
    exact List.Perm.refl _
  | cons move moves ih =>
    have first : (move :: moves).filterMap Move.message? =
        move.message?.toList ++ moves.filterMap Move.message? := by
      cases found : move.message? <;> simp [found]
    have moved := messages_moves (step_cases a shift move)
    rw [first, ← List.append_assoc]
    exact (ih (shift.step a move)).trans (moved.append_right _)

/-! ## A call by itself -/

/-- The moves of a turn with these deeds, if it is the only one. -/
def proceeds (deeds : List Deed) : List Move :=
  deeds.map fun deed => .proceed 0 deed.returned?

/-- A turn that is the only one goes through its course. -/
theorem run_proceeds (a : Assistant) {turn : Turn Decision} {deeds : List Deed}
    {out : Except Failure Decision} (course : turn.Goes deeds out) (desk : Desk) (now : Time)
    (hearing : Hearing) (going : hearing.turn? = some turn) :
    ∃ heard, heard.caller = hearing.caller ∧ heard.kind = hearing.kind ∧
      (∃ rest, heard.turn? = some rest ∧ rest.ended? = some out) ∧
      (⟨desk, now, [], [hearing]⟩ : Shift).run a (proceeds deeds) =
        ⟨{ desk with toLedger := desk.toLedger.enter deeds }, now, [], [heard]⟩ := by
  induction deeds generalizing turn desk hearing with
  | nil => exact ⟨hearing, rfl, rfl, ⟨turn, going, course.ended⟩, rfl⟩
  | cons deed deeds ih =>
    obtain ⟨rest, advance, later⟩ := course.advances
    let worked := { desk with toLedger := deed.enter desk.toLedger }
    have first : (⟨desk, now, [], [hearing]⟩ : Shift).step a (.proceed 0 deed.returned?) =
        ⟨worked, now, [], [hearing.went deed.returned? rest]⟩ := by
      unfold step step?
      simp only [List.getElem?_cons_zero, Option.bind_eq_bind, Option.bind_some, going, advance,
        List.set_cons_zero, Option.getD_some]
      rfl
    obtain ⟨heard, caller, kind, ended, run⟩ :=
      ih later worked (hearing.went deed.returned? rest) rfl
    refine ⟨heard, caller, kind, ended, ?_⟩
    change (step a _ (.proceed 0 deed.returned?)).run a (proceeds deeds) = _
    rw [first, run]
    rfl

/-- Where nobody of a chat is, the next of it to come can be let in at once. -/
theorem run_enter (a : Assistant) {desk : Desk} (locks : desk.locks.Exact) {chat : String}
    (nobody : ∀ visit ∈ desk.locks.visits, visit.chat ≠ chat) (content : Inbound) (now : Time) :
    (opening desk now).run a [.come chat content, .enter 0] =
      ⟨{ desk with
          locks := desk.locks.visit desk.locks.newcomer chat
          store := (desk.store.get now chat).2 }, now, [],
        [⟨⟨desk.locks.newcomer, chat, content⟩, a.answeringKind (desk.live now chat), now, [],
          .going (desk.response a now chat content)⟩]⟩ := by
  have fresh : ∀ visit ∈ desk.locks.visits, visit.visitor ≠ desk.locks.newcomer :=
    fun visit member => Nat.ne_of_lt (desk.locks.newcomer_fresh visit member)
  obtain ⟨may, visited⟩ := locks.visit_eq fresh nobody
  let came := (opening desk now).come chat content
  have first : came.waiting[0]? = some ⟨desk.locks.newcomer, chat, content⟩ := rfl
  have free : came.desk.locks.mayEnter desk.locks.newcomer = true := may
  change came.step a (.enter 0) = _
  unfold step step?
  simp only [first, Option.bind_eq_bind, Option.bind_some, free, if_true, Option.getD_some, visited]
  rfl

/-- Without anything in between, the moves of one caller make up a process of its message. -/
theorem process_eq_run {σ : Type} (world : World σ) (a : Assistant) {desk : Desk}
    (locks : desk.locks.Exact) {chat : String}
    (nobody : ∀ visit ∈ desk.locks.visits, visit.chat ≠ chat) (content : Inbound) (s : σ)
    (ends : world.now s ≤ desk.finished world a chat content s) :
    let shift := (opening desk (world.now s)).run a ([.come chat content, .enter 0] ++
      (proceeds (desk.deeds world a chat content s) ++
        [.pass (desk.finished world a chat content s - world.now s), .conclude 0]))
    shift.desk = (desk.process world a chat content s).2.1 ∧
      (shift.records chat).map Prod.snd = [(desk.process world a chat content s).1] := by
  let finished := desk.finished world a chat content s
  let hearing : Hearing := ⟨⟨desk.locks.newcomer, chat, content⟩,
    a.answeringKind (desk.live (world.now s) chat), world.now s, [],
    .going (desk.response a (world.now s) chat content)⟩
  -- The desk when the turn has done its deeds, as it is on the way through `Desk.process`.
  let entered := { desk with locks := desk.locks.visit desk.locks.newcomer chat }
  let atEnd := entered.atEnd (world.now s) chat (desk.deeds world a chat content s)
  have course : (desk.response a (world.now s) chat content).Goes
      (desk.deeds world a chat content s) (desk.decision world a chat content s) :=
    Turn.goes_deeds world.toSurroundings _ s
  have opened := run_enter a locks nobody content (world.now s)
  obtain ⟨heard, same, kind, ⟨rest, going, ended⟩, ran⟩ := run_proceeds a course
    { entered with store := (desk.store.get (world.now s) chat).2 } (world.now s) hearing rfl
  have passed : (⟨atEnd, world.now s, [], [heard]⟩ : Shift).step a (.pass (finished - world.now s)) =
      ⟨atEnd, finished, [], [heard]⟩ := by
    have sum : world.now s + (finished - world.now s) = finished := Nat.add_sub_cancel' ends
    unfold step step?
    simp only [Option.getD_some, sum]
  have concluded : (⟨atEnd, finished, [], [heard]⟩ : Shift).step a (.conclude 0) =
      (⟨atEnd, finished, [], [heard]⟩ : Shift).conclude heard (desk.decision world a chat content s)
        fun closed => [closed] := by
    unfold step step?
    simp only [List.getElem?_cons_zero, Option.bind_eq_bind, Option.bind_some, going, ended,
      Option.getD_some]
    rfl
  have whole : (opening desk (world.now s)).run a ([.come chat content, .enter 0] ++
      (proceeds (desk.deeds world a chat content s) ++ [.pass (finished - world.now s), .conclude 0])) =
      (⟨atEnd, finished, [], [heard]⟩ : Shift).conclude heard (desk.decision world a chat content s)
        fun closed => [closed] := by
    rw [run_append, run_append, opened, ran]
    change step a (step a ⟨atEnd, world.now s, [], [heard]⟩ _) (.conclude 0) = _
    rw [passed, concluded]
  have processed : _ = (desk.process world a chat content s) :=
    (congrArg (fun ended : Except Failure Reply × Desk × σ =>
      (ended.1, { ended.2.1 with locks := ended.2.1.locks.depart desk.locks.newcomer }, ended.2.2))
      (Desk.turn_eq a entered world chat content s)).symm
  have closed := record?_closed heard finished
    (atEnd.conclude finished heard.kind (desk.decision world a chat content s)).1
  rw [same] at closed
  intro shift
  rw [show shift = _ from whole, ← processed]
  constructor
  · simp only [conclude, same, kind]
    rfl
  · simp only [conclude, records, List.filterMap_cons, List.filterMap_nil]
    rw [closed, kind]
    rfl

/-! ## Serializability -/

/-- **Turns of a chat are serializable.**  However the callers of a desk overlap, and whenever sweeps are
made meanwhile, the turns of a chat that are over have got the replies, and left the live session, of
the same turns served one after the other in the order in which they were let in, with the same readings
of the clock and the same answers of the world and no sweep.  Nobody of a chat is let in while another
is heard, and every message that came is heard once or still waits. -/
theorem turns_serializable (a : Assistant) {desk : Desk} (filed : desk.store.Filed)
    (locks : desk.locks.Exact) (now : Time) (moves : List Move) (chat : String) :
    let shift := (opening desk now).run a moves
    let serial := desk.serveAll a ((shift.records chat).map Prod.fst)
    (shift.records chat).map Prod.snd = serial.1 ∧
      (∀ later, shift.now ≤ later → shift.desk.live later chat = serial.2.live later chat) ∧
      (shift.hearings.Pairwise fun earlier later =>
        earlier.isGoing = true → earlier.caller.chat ≠ later.caller.chat) ∧
      shift.messages.Perm (moves.filterMap Move.message?) := by
  have orderly := Orderly.opening locks now
  have known := run_follows (a := a) orderly (fun chat => Follows.opening filed now chat) moves chat
  refine ⟨known.replies.symm, fun later after => (known.agree.later after).live,
    (run_orderly orderly moves).last, ?_⟩
  exact run_messages a (opening desk now) moves

/-- Two messages of a chat and one of another overlap.  While the second asks for the products, its
chat's session expires and is swept away; the turn answers and leaves a session all the same. -/
theorem turns_serializable_swept :
    let a : Assistant := ⟨.builtin, defaultMessages, none, true, 3, 5⟩
    let moves : List Move :=
      [.come "alice" (.text "hi"), .come "alice" (.text "list"), .come "bob" (.text "hi"), .enter 0,
       .enter 1, .conclude 1, .enter 0, .conclude 0, .enter 0, .pass 11, .sweep,
       .proceed 2 (some (.products (.ok []))), .proceed 2 none, .conclude 2]
    let desk := Desk.new ⟨10, 1000, []⟩
    let shift := (opening desk 0).run a moves
    let serial := desk.serveAll a ((shift.records "alice").map Prod.fst)
    ((shift.records "alice").map fun record => (record.1.began, record.1.ended)) = [(0, 0), (0, 11)] ∧
      shift.desk.store.sessions.names = ["alice"] ∧
      (shift.records "alice").map Prod.snd = serial.1 ∧
      shift.desk.live 11 "alice" = serial.2.live 11 "alice" := by
  intro a moves desk shift serial
  have times : ((shift.records "alice").map fun record => (record.1.began, record.1.ended)) =
      [(0, 0), (0, 11)] := by decide +kernel
  have stored : shift.desk.store.sessions.names = ["alice"] := by decide +kernel
  have last : shift.now ≤ 11 := by decide +kernel
  have filed : desk.store.Filed := .empty 10 1000
  obtain ⟨replies, live, -, -⟩ := turns_serializable a filed LockTable.Exact.empty 0 moves "alice"
  exact ⟨times, stored, replies, live 11 last⟩

end Shift

end Storekeeper
