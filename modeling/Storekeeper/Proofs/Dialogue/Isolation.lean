import Mathlib.Data.List.Forall2
import Storekeeper.Proofs.Dialogue.Event

/-!
# Isolation of chats

What a chat gets to see depends on its own live session, on its own messages and on how the world
answers them, and on nothing else: turns of other chats, sweeps, and sessions that have expired but
are still stored make no difference.

* `Desk.Agree`: two desks have the same live session of a chat.
* `Desk.Agree.aside`: an event of another chat, or a sweep, keeps the agreement.
* `Desk.Agree.answer`: the same message is answered alike at both desks, and keeps it.
* `Desk.isolated` compares a run with one in which nothing but the chat's own messages happens, and
  `Desk.chats_isolated` compares any two runs.
-/

namespace Storekeeper

namespace Event

variable {σ τ : Type}

/-- The time at which an event begins. -/
def time (world : World σ) : Event σ → Time
  | message _ _ s => world.now s
  | sweep s => world.now s

/-- Whether an event is a message of a chat. -/
def isOf (chat : String) : Event σ → Bool
  | message other _ _ => other == chat
  | sweep _ => false

end Event

/-- Two worlds, each in a state of its own, answer alike: whatever a turn asks of them, it gets the same
answers and is over at the same time. -/
def World.Alike {σ τ : Type} (world : World σ) (s : σ) (other : World τ) (t : τ) : Prop :=
  ∀ turn : Turn Decision,
    turn.deeds world.toSurroundings s = turn.deeds other.toSurroundings t ∧
    turn.outcome world.toSurroundings s = turn.outcome other.toSurroundings t ∧
    world.now (turn.final world.toSurroundings s) = other.now (turn.final other.toSurroundings t)

/-- Two events are the same message, sent at the same time and to worlds that answer alike. -/
inductive Event.Alike {σ τ : Type} (world : World σ) (other : World τ) : Event σ → Event τ → Prop
  | message (chat : String) (content : Inbound) {s : σ} {t : τ} : world.Alike s other t →
    Alike world other (.message chat content s) (.message chat content t)

theorem World.Alike.refl {σ : Type} (world : World σ) (s : σ) : world.Alike s world s :=
  fun _ => ⟨rfl, rfl, rfl⟩

theorem World.Alike.now {σ τ : Type} {world : World σ} {other : World τ} {s : σ} {t : τ}
    (alike : world.Alike s other t) : world.now s = other.now t :=
  (alike (.fail .outOfRange)).2.2

/-- From stores with the same live session of a chat, the same decision about the chat ends alike and
leaves them so. -/
theorem Store.Ends.alike {store store' : Store} {now : Time} {chat : String}
    {out : Except Failure Decision} {reply reply' : Except Failure Reply} {after after' : Store}
    (timeout : store.timeout = store'.timeout) (horizon : store.horizon = store'.horizon)
    (live : store.live now chat = store'.live now chat)
    (concerns : ∀ decision, out = .ok decision → decision.write.Concerns chat)
    (ends : store.Ends now out reply after) (ends' : store'.Ends now out reply' after') :
    reply = reply' ∧ after.live now chat = after'.live now chat := by
  cases ends with
  | failed failure =>
    cases ends'
    exact ⟨rfl, live⟩
  | unstored failed =>
    cases ends' with
    | unstored failed' =>
      rw [(commit_error failed).1, (commit_error failed').1]
      exact ⟨rfl, live⟩
    | carriedOut done' =>
      obtain ⟨-, ⟨session, kept⟩, beyond⟩ := commit_error failed
      rw [kept] at done'
      obtain ⟨room, -⟩ := commit_keep done'
      rw [timeout, horizon] at beyond
      exact absurd room (Nat.not_le_of_lt beyond)
  | @carriedOut decision _ done =>
    cases ends' with
    | unstored failed' =>
      obtain ⟨-, ⟨session, kept⟩, beyond⟩ := commit_error failed'
      rw [kept] at done
      obtain ⟨room, -⟩ := commit_keep done
      rw [timeout, horizon] at room
      exact absurd room (Nat.not_le_of_lt beyond)
    | carriedOut done' =>
      refine ⟨rfl, ?_⟩
      obtain ⟨reply, write⟩ := decision
      cases write with
      | keep session =>
        obtain ⟨-, rfl⟩ := commit_keep done
        obtain ⟨-, rfl⟩ := commit_keep done'
        have own : session.chat = chat := concerns _ rfl
        rw [live_eq, live_eq, own, Table.get?_put_self, Table.get?_put_self, timeout]
      | drop dropped =>
        cases done
        cases done'
        have own : dropped = chat := concerns _ rfl
        rw [own, live_delete_self, live_delete_self]
      | leave =>
        cases done
        cases done'
        exact live

namespace Desk

variable {σ τ : Type} {world : World σ} {world' : World τ} {a : Assistant} {desk desk' : Desk}
  {chat : String} {now : Time}

/-- The time at which an event is over. -/
def doneAt (world : World σ) (a : Assistant) (desk : Desk) : Event σ → Time
  | .message chat content s => desk.finished world a chat content s
  | .sweep s => world.now s

/-- The time at which the last of some events is over. -/
def ending (world : World σ) (a : Assistant) : Desk → Time → List (Event σ) → Time
  | _, now, [] => now
  | desk, _, event :: events => ending world a (desk.after world a event) (desk.doneAt world a event) events

/-- The clock never goes back: each event begins when the one before is over, or later. -/
def Chronological (world : World σ) (a : Assistant) : Desk → Time → List (Event σ) → Prop
  | _, _, [] => True
  | desk, now, event :: events =>
    now ≤ event.time world ∧ event.time world ≤ desk.doneAt world a event ∧
      Chronological world a (desk.after world a event) (desk.doneAt world a event) events

/-- What a message of a chat is answered. -/
def answer? (world : World σ) (a : Assistant) (chat : String) (desk : Desk) :
    Event σ → Option (Except Failure Reply)
  | .message other content s =>
    if other = chat then some (desk.process world a other content s).1 else none
  | .sweep _ => none

/-- What the messages of a chat are answered, one after the other. -/
def answers (world : World σ) (a : Assistant) (chat : String) :
    Desk → List (Event σ) → List (Except Failure Reply)
  | _, [] => []
  | desk, event :: events =>
    (desk.answer? world a chat event).toList ++
      answers world a chat (desk.after world a event) events

/-- What is not a message of a chat stores nothing for it. -/
theorem stored_of_aside {event : Event σ} (filed : desk.store.Filed)
    (aside : event.isOf chat = false) {session : Session}
    (found : (desk.after world a event).store.sessions.get? chat = some session) :
    desk.store.sessions.get? chat = some session := by
  cases event with
  | message other content s =>
    have different : other ≠ chat := by simpa [Event.isOf] using aside
    change (desk.process world a other content s).2.1.store.sessions.get? chat = some session at found
    rwa [process_others filed different] at found
  | sweep s => exact Store.stored_of_sweep filed.distinct found

/-- The session that a turn opens depends on the timeout and the horizon alone. -/
theorem opening_congr (timeout : desk.store.timeout = desk'.store.timeout)
    (horizon : desk.store.horizon = desk'.store.horizon) :
    desk.opening a now chat = desk'.opening a now chat := by
  obtain ⟨taken, taken'⟩ := Store.get_timeout desk.store now chat
  obtain ⟨other, other'⟩ := Store.get_timeout desk'.store now chat
  exact Store.create_congr chat a.flow.initialStep (taken.trans (timeout.trans other.symm))
    (taken'.trans (horizon.trans other'.symm))

/-- Two desks, at each of which every chat has its own session, are set up alike and have the same live
session of a chat. -/
structure Agree (chat : String) (now : Time) (desk desk' : Desk) : Prop where
  filed : desk.store.Filed
  filed' : desk'.store.Filed
  timeout : desk.store.timeout = desk'.store.timeout
  horizon : desk.store.horizon = desk'.store.horizon
  live : desk.live now chat = desk'.live now chat

namespace Agree

theorem later (agree : Agree chat now desk desk') {later : Time} (after : now ≤ later) :
    Agree chat later desk desk' := by
  have live : desk.live later chat = desk'.live later chat := by
    unfold Desk.live
    rw [Store.live_later after, Store.live_later after]
    exact congrArg _ agree.live
  exact ⟨agree.filed, agree.filed', agree.timeout, agree.horizon, live⟩

/-- What is not a message of the chat does not touch its live session. -/
theorem live_after {event : Event σ} (filed : desk.store.Filed) (aside : event.isOf chat = false)
    {later : Time} (after : event.time world ≤ later) :
    (desk.after world a event).live later chat = desk.live later chat := by
  cases event with
  | message other content s =>
    have different : other ≠ chat := by simpa [Event.isOf] using aside
    change (desk.process world a other content s).2.1.store.live later chat = _
    rw [Store.live_eq, process_others filed different]
    exact (Store.live_eq ..).symm
  | sweep s => exact Store.live_sweep filed.distinct after

theorem aside (agree : Agree chat now desk desk') {event : Event σ}
    (aside : event.isOf chat = false) (begins : now ≤ event.time world)
    (ends : event.time world ≤ desk.doneAt world a event) :
    Agree chat (desk.doneAt world a event) (desk.after world a event) desk' := by
  obtain ⟨timeout, horizon⟩ := after_timeout world a desk event
  have then_ := agree.later (Nat.le_trans begins ends)
  refine ⟨after_filed agree.filed event, agree.filed', timeout.trans agree.timeout,
    horizon.trans agree.horizon, ?_⟩
  rw [live_after agree.filed aside ends]
  exact then_.live

theorem symm (agree : Agree chat now desk desk') : Agree chat now desk' desk :=
  ⟨agree.filed', agree.filed, agree.timeout.symm, agree.horizon.symm, agree.live.symm⟩

/-- Only what is stored matters. -/
theorem of_store {other : Desk} (agree : Agree chat now desk desk')
    (same : other.store = desk.store) : Agree chat now other desk' := by
  obtain ⟨filed, filed', timeout, horizon, live⟩ := agree
  unfold Desk.live at live
  rw [← same] at filed timeout horizon live
  exact ⟨filed, filed', timeout, horizon, live⟩

/-- Both desks answer a message by the same turn. -/
theorem asks (agree : Agree chat now desk desk') (content : Inbound) :
    desk.response a now chat content = desk'.response a now chat content := by
  unfold response
  rw [opening_congr agree.timeout agree.horizon, agree.live]

/-- Taking the session of any chat leaves what is live from then on. -/
theorem taken (agree : Agree chat now desk desk') {began : Time} (before : began ≤ now)
    (other : String) : Agree chat now { desk with store := (desk.store.get began other).2 } desk' := by
  obtain ⟨timeout, horizon⟩ := Store.get_timeout desk.store began other
  have live : (desk.store.get began other).2.live now chat = desk'.live now chat :=
    (Store.live_get before).trans agree.live
  exact ⟨agree.filed.get began other, agree.filed', timeout.trans agree.timeout,
    horizon.trans agree.horizon, live⟩

/-- The same decision about the chat ends alike at both desks, and keeps the agreement. -/
theorem ends {out : Except Failure Decision} {reply reply' : Except Failure Reply}
    {after after' : Desk} (agree : Agree chat now desk desk')
    (concerns : ∀ decision, out = .ok decision → decision.write.Concerns chat)
    (ends : desk.store.Ends now out reply after.store)
    (ends' : desk'.store.Ends now out reply' after'.store) :
    reply = reply' ∧ Agree chat now after after' := by
  obtain ⟨same, live⟩ :=
    Store.Ends.alike agree.timeout agree.horizon agree.live concerns ends ends'
  obtain ⟨timeout, horizon⟩ := ends.timeout
  obtain ⟨timeout', horizon'⟩ := ends'.timeout
  exact ⟨same, ends.filed agree.filed, ends'.filed agree.filed',
    timeout.trans (agree.timeout.trans timeout'.symm),
    horizon.trans (agree.horizon.trans horizon'.symm), live⟩

/-- The same message is answered alike at both desks, and keeps the agreement. -/
theorem answer {content : Inbound} {s : σ} {t : τ} (agree : Agree chat (world.now s) desk desk')
    (alike : world.Alike s world' t)
    (ends : world.now s ≤ desk.finished world a chat content s) :
    (desk.process world a chat content s).1 = (desk'.process world' a chat content t).1 ∧
      Agree chat (desk.finished world a chat content s) (desk.process world a chat content s).2.1
        (desk'.process world' a chat content t).2.1 := by
  have asked : desk.response a (world.now s) chat content =
      desk'.response a (world'.now t) chat content := by
    rw [← alike.now]
    exact agree.asks content
  obtain ⟨-, outcome, time⟩ := alike (desk.response a (world.now s) chat content)
  have decided : desk.decision world a chat content s = desk'.decision world' a chat content t := by
    unfold decision
    rw [outcome, asked]
  have finished : desk.finished world a chat content s =
      desk'.finished world' a chat content t := by
    unfold Desk.finished
    rw [time, asked]
  have taken := (((agree.later ends).taken ends chat).symm.taken ends chat).symm
  have ended := process_ends world a desk chat content s
  have ended' := process_ends world' a desk' chat content t
  rw [← finished, ← decided, ← alike.now] at ended'
  exact taken.ends (fun _ decided => decision_concerns agree.filed decided) ended ended'

end Agree

/-- **Nothing but a chat's own messages.**  A run in which the clock never goes back answers a chat, and
leaves its live session, as if nothing had happened but the chat's own messages. -/
theorem isolated (agree : Agree chat now desk desk') {events : List (Event σ)}
    {own : List (Event τ)}
    (alike : List.Forall₂ (Event.Alike world world') (events.filter (·.isOf chat)) own)
    (chronological : desk.Chronological world a now events) :
    desk.answers world a chat events = desk'.answers world' a chat own ∧
      Agree chat (desk.ending world a now events) (desk.afterAll world a events)
        (desk'.afterAll world' a own) := by
  induction events generalizing desk desk' now own with
  | nil =>
    cases alike
    exact ⟨rfl, agree⟩
  | cons event events ih =>
    obtain ⟨begins, ends, rest⟩ := chronological
    cases ofChat : event.isOf chat with
    | false =>
      rw [List.filter_cons_of_neg (by simp [ofChat])] at alike
      obtain ⟨answers, agrees⟩ := ih (agree.aside ofChat begins ends) alike rest
      refine ⟨?_, agrees⟩
      have silent : desk.answer? world a chat event = none := by
        cases event with
        | message other content s => simpa [answer?, Event.isOf] using ofChat
        | sweep s => rfl
      simpa [Desk.answers, silent] using answers
    | true =>
      rw [List.filter_cons_of_pos ofChat] at alike
      cases alike with
      | cons first later =>
        cases first with
        | @message other content s t first =>
          have same : other = chat := by simpa [Event.isOf] using ofChat
          subst same
          obtain ⟨reply, agrees⟩ := (agree.later begins).answer first ends
          obtain ⟨answers, agreed⟩ := ih agrees later rest
          refine ⟨?_, agreed⟩
          simp only [Desk.answers, answer?, if_true]
          rw [reply]
          exact congrArg _ answers

/-- **Isolation of chats.**  At two desks with the same live session of a chat, any two runs in which the
clock never goes back and the chat sends the same messages, at the same times and to worlds that answer
it alike, give it the same answers and leave it the same live session, whatever else happens in them. -/
theorem chats_isolated (agree : Agree chat now desk desk') {events : List (Event σ)}
    {events' : List (Event τ)}
    (alike : List.Forall₂ (Event.Alike world world') (events.filter (·.isOf chat))
      (events'.filter (·.isOf chat)))
    (chronological : desk.Chronological world a now events)
    (chronological' : desk'.Chronological world' a now events') :
    desk.answers world a chat events = desk'.answers world' a chat events' ∧
      ∀ later, desk.ending world a now events ≤ later →
        desk'.ending world' a now events' ≤ later →
        (desk.afterAll world a events).live later chat =
          (desk'.afterAll world' a events').live later chat := by
  have self : Agree chat now desk' desk' := ⟨agree.filed', agree.filed', rfl, rfl, rfl⟩
  have refl : List.Forall₂ (Event.Alike world' world') (events'.filter (·.isOf chat))
      (events'.filter (·.isOf chat)) := by
    refine List.forall₂_same.mpr fun event member => ?_
    cases event with
    | message other content s => exact .message other content (.refl world' s)
    | sweep s =>
      have ofChat : (Event.sweep s : Event τ).isOf chat = true := (List.mem_filter.mp member).2
      cases ofChat
  obtain ⟨answers, agrees⟩ := isolated agree alike chronological
  obtain ⟨answers', agrees'⟩ := isolated self refl chronological'
  refine ⟨answers.trans answers'.symm, fun later ends ends' => ?_⟩
  exact (agrees.later ends).live.trans (agrees'.later ends').live.symm

/-- A chat whose session has expired is answered like one that has never written, whatever another chat
does meanwhile. -/
theorem chats_isolated_expired :
    let a : Assistant := ⟨.builtin, defaultMessages, none, true, 3, 5⟩
    let past : List (Event Time) :=
      [.message "alice" (.text "hi") 0, .message "alice" (.text "add") 1,
       .message "bob" (.text "hi") 8]
    let desk := Desk.new ⟨10, 1000, []⟩
    let events : List (Event Time) :=
      [.message "bob" (.text "list") 12, .message "alice" (.text "hi") 13, .sweep 14,
       .message "alice" (.text "list") 15]
    let events' : List (Event Time) :=
      [.message "alice" (.text "hi") 13, .message "alice" (.text "list") 15]
    (desk.afterAll .bare a past).store.sessions.names = ["alice", "bob"] ∧
      (desk.afterAll .bare a past).answers .bare a "alice" events =
        desk.answers .bare a "alice" events' := by
  intro a past desk events events'
  have stored : (desk.afterAll .bare a past).store.sessions.names = ["alice", "bob"] := by
    decide +kernel
  have gone : ((desk.afterAll .bare a past).live 12 "alice").isNone = true := by decide +kernel
  have filed : desk.store.Filed := .empty 10 1000
  obtain ⟨timeout, horizon⟩ := afterAll_timeout .bare a desk past
  have agree : Agree "alice" 12 (desk.afterAll .bare a past) desk :=
    ⟨afterAll_filed filed past, filed, timeout, horizon, Option.isNone_iff_eq_none.mp gone⟩
  have alike : List.Forall₂ (Event.Alike World.bare World.bare)
      (events.filter (·.isOf "alice")) (events'.filter (·.isOf "alice")) :=
    .cons (.message "alice" (.text "hi") (.refl .bare 13))
      (.cons (.message "alice" (.text "list") (.refl .bare 15)) .nil)
  have chronological : (desk.afterAll .bare a past).Chronological .bare a 12 events := by
    simp only [events, Chronological, and_true]
    decide +kernel
  have chronological' : desk.Chronological .bare a 12 events' := by
    simp only [events', Chronological, and_true]
    decide +kernel
  exact ⟨stored, (chats_isolated agree alike chronological chronological').1⟩

end Desk

end Storekeeper
