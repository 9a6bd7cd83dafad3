import Mathlib.Data.List.Induction
import Storekeeper.Proofs.Dialogue.Event
import Storekeeper.Proofs.Flow.Soundness

/-!
# Where a conversation can stand

A flow that has been built has no dead end: whatever is written to the assistant, and whatever the
catalog answers, each stored session stands at a step of the flow.

* `Assistant.Enters.stands` and `Assistant.Answers.stands`: a course of a turn over a sound flow
  meets no dead end, and it keeps a session only at a step at which a conversation can stand.
* `Desk.LastStoring` says which of the events was the last to store a session of a chat.
* `Desk.no_dead_ends` is the result for every list of events at a new desk.  A session stands at a
  terminal step only as a refuge from a menu, and at an action only so or because the turn that
  stored it had run as many actions as it may.
-/

namespace Storekeeper

/-- Whether an alarm tells that the flow does not say how to go on: there is no such step, or the
flow does not start at a trigger. -/
def Alarm.isDeadEnd : Alarm → Bool
  | unknownStep _ _ => true
  | noTrigger _ _ => true
  | noTarget _ _ => true
  | _ => false

/-- The step to which some menu sends those whose answer means none of its choices. -/
def Flow.IsRefuge (flow : Flow) (name : String) : Prop :=
  ∃ menu step, flow.step? menu = some (.choice step) ∧ step.invalidNext = name

namespace Assistant

/-- A conversation can stand at a step, if it stops there for want of further actions only when
`stopped` says so. -/
structure Stands (a : Assistant) (name : String) (stopped : Prop) : Prop where
  known : ∃ step, a.flow.step? name = some step
  terminal : ∀ step, a.flow.step? name = some (.terminal step) → a.flow.IsRefuge name
  action : ∀ step, a.flow.step? name = some (.action step) → a.flow.IsRefuge name ∨ stopped

/-- The deeds end at the hop limit before a step, after so many actions. -/
structure StopsAt (deeds : List Deed) (chat name : String) (hops : Nat) : Prop where
  alarms : deeds.filterMap Deed.alarm? = [.hopLimit chat name]
  actions : (deeds.filterMap Deed.run?).length = hops

/-- No alarm of the deeds is a dead end, and if the decision keeps a session, the conversation can
stand where it is. -/
structure Parks (a : Assistant) (hops : Nat) (deeds : List Deed) (out : Except Failure Decision) :
    Prop where
  noDeadEnd : ∀ alarm ∈ deeds.filterMap Deed.alarm?, alarm.isDeadEnd = false
  stands : ∀ session, keptBy out = some session →
    a.Stands session.step (StopsAt deeds session.chat session.step hops)

section Courses

variable {a : Assistant} {opened : Except Failure Session} {chat name : String} {hops : Nat}
  {session? : Option Session} {content : Inbound} {arrival : Arrival} {deeds : List Deed}
  {out : Except Failure Decision} {stopped : Prop}

theorem Stands.of_refuge (refuge : a.flow.IsRefuge name)
    (known : ∃ step, a.flow.step? name = some step) : a.Stands name stopped :=
  ⟨known, fun _ _ => refuge, fun _ _ => .inl refuge⟩

/-- At a step at which nothing goes on by itself any conversation can stand. -/
theorem Stands.of_waiting {step : Step} (found : a.flow.step? name = some step)
    (waits : step.goesOn = false) : a.Stands name stopped where
  known := ⟨step, found⟩
  terminal := by
    intro terminal other
    rw [found] at other
    cases other
    cases waits
  action := by
    intro action other
    rw [found] at other
    cases other
    cases waits

theorem Parks.of_quiet (quiet : deeds.filterMap Deed.alarm? = []) (none : keptBy out = none) :
    a.Parks hops deeds out where
  noDeadEnd := by simp [quiet]
  stands := by
    intro session keeps
    rw [none] at keeps
    cases keeps

theorem Parks.of_keep {reply : Reply} {session : Session}
    (stands : ∀ stopped, a.Stands session.step stopped) :
    a.Parks hops [] (.ok ⟨reply, .keep session⟩) where
  noDeadEnd := by simp
  stands := by
    intro _ keeps
    cases keeps
    exact stands _

/-- Entering a step of a sound flow meets no dead end: the chain of actions ends at a step at which
a conversation can stand, or at the hop limit. -/
theorem Enters.parks (sound : a.flow.Sound) (enters : a.Enters hops name arrival deeds out)
    (target : ∃ step, a.flow.step? name = some step) : a.Parks hops deeds out := by
  induction enters with
  | missing absent =>
    obtain ⟨step, found⟩ := target
    rw [absent] at found
    cases found
  | ended _ => exact .of_quiet rfl rfl
  | menu found => exact .of_keep fun _ => .of_waiting found rfl
  | @prompt hops name arrival step found prompted =>
    have waits : step.goesOn = false := by cases step <;> first | rfl | cases prompted
    exact .of_keep fun _ => .of_waiting found waits
  | @limit name arrival step found =>
    refine ⟨by simp [Deed.alarm?, Alarm.isDeadEnd], ?_⟩
    intro session keeps
    cases keeps
    refine ⟨⟨_, found⟩, ?_, fun _ _ => .inr ⟨rfl, rfl⟩⟩
    intro terminal other
    have clash : some (Step.action step) = some (.terminal terminal) := found.symm.trans other
    cases clash
  | failed _ acts => exact .of_quiet acts.alarms rfl
  | @onward hops name arrival step first second context text out found acts _ ih =>
    have rest := ih (sound.actionNext found)
    have alarms : (first ++ second).filterMap Deed.alarm? = second.filterMap Deed.alarm? := by
      rw [List.filterMap_append, acts.alarms, List.nil_append]
    refine ⟨by rw [alarms]; exact rest.noDeadEnd, ?_⟩
    intro session keeps
    have stands := rest.stands session keeps
    refine ⟨stands.known, stands.terminal, fun action other => ?_⟩
    refine (stands.action action other).imp_right fun stops => ⟨alarms.trans stops.alarms, ?_⟩
    rw [List.filterMap_append, List.length_append, acts.counted_once, stops.actions]
    omega

/-- What is answered at once meets no dead end, if the session stands at a step of the flow. -/
theorem Settles.parks (sound : a.flow.Sound)
    (known : ∀ session, session? = some session → ∃ step, a.flow.step? session.step = some step)
    (settles : a.Settles opened chat session? content deeds out) : a.Parks hops deeds out := by
  cases settles with
  | noTrigger never =>
    obtain ⟨step, found⟩ := sound.starts
    exact absurd found (never step)
  | unmatched _ _ => exact .of_quiet rfl rfl
  | unopened _ _ _ => exact .of_quiet rfl rfl
  | unknownStep absent =>
    obtain ⟨step, found⟩ := known _ rfl
    rw [absent] at found
    cases found
  | toMenu _ _ target => exact .of_keep fun _ => .of_waiting target rfl
  | toStep found _ target => exact .of_keep fun _ => .of_refuge ⟨_, _, found, rfl⟩ ⟨_, target⟩
  | nowhere _ _ _ => exact .of_quiet rfl rfl
  | noTransition _ _ _ =>
    refine ⟨by simp [Deed.alarm?, Alarm.isDeadEnd], ?_⟩
    intro session keeps
    cases keeps
  | noRecovery _ _ _ =>
    refine ⟨by simp [Deed.alarm?, Alarm.isDeadEnd], ?_⟩
    intro session keeps
    cases keeps
  | misplaced _ => exact .of_quiet rfl rfl
  | unreadable _ _ => exact .of_quiet rfl rfl
  | unmerged _ _ _ => exact .of_quiet rfl rfl
  | incomplete gives _ _ _ => exact .of_keep fun _ => .of_waiting gives.found rfl
  | unskipped _ _ _ => exact .of_quiet rfl rfl

/-- A turn over a sound flow meets no dead end, if the session stands at a step of the flow. -/
theorem Answers.parks (sound : a.flow.Sound)
    (known : ∀ session, session? = some session → ∃ step, a.flow.step? session.step = some step)
    (answers : a.Answers opened chat session? content deeds out) :
    a.Parks a.maxHops.toNat deeds out := by
  rcases answers with settles | ⟨name, arrival, leads, enters⟩
  · exact settles.parks sound known
  · exact enters.parks sound (leads.target sound)

end Courses

end Assistant

namespace Desk

variable {σ : Type} {world : World σ} {a : Assistant} {desk : Desk}

/-- The event is a message of a chat, and its turn stores a session. -/
def Stores (world : World σ) (a : Assistant) (desk : Desk) (chat : String) : Event σ → Prop
  | .message other content s => other = chat ∧ ∃ reply session,
      (desk.process world a other content s).1 = .ok reply ∧
        desk.decision world a other content s = .ok ⟨reply, .keep session⟩
  | .sweep _ => False

/-- Of the events, the last one to store a session of a chat is the message that comes after the
earlier ones. -/
inductive LastStoring (world : World σ) (a : Assistant) (desk : Desk) (chat : String) :
    List (Event σ) → List (Event σ) → Inbound → σ → Prop
  | now {earlier : List (Event σ)} {content : Inbound} {s : σ} :
    (desk.afterAll world a earlier).Stores world a chat (.message chat content s) →
    LastStoring world a desk chat (earlier ++ [.message chat content s]) earlier content s
  | before {events earlier : List (Event σ)} {content : Inbound} {s : σ} {event : Event σ} :
    LastStoring world a desk chat events earlier content s →
    ¬(desk.afterAll world a events).Stores world a chat event →
    LastStoring world a desk chat (events ++ [event]) earlier content s

/-- A session that is stored for a chat is left there by an event that stores none for this chat; a message
of the chat finds it live. -/
structure Stays (world : World σ) (a : Assistant) (desk : Desk) (event : Event σ) (chat : String)
    (session : Session) : Prop where
  stored : desk.store.sessions.get? chat = some session
  unstored : ¬desk.Stores world a chat event
  found : ∀ content s, event = .message chat content s →
    desk.live (world.now s) chat = some session

/-- A session is what the turn of a message has kept: it was written at the end of the turn. -/
structure Keeps (world : World σ) (a : Assistant) (desk : Desk) (chat : String) (content : Inbound)
    (s : σ) (kept session : Session) : Prop where
  decided : ∃ reply, desk.decision world a chat content s = .ok ⟨reply, .keep kept⟩
  stores : desk.Stores world a chat (.message chat content s)
  written : session = { kept with
    updated := desk.finished world a chat content s
    expires := desk.finished world a chat content s + desk.store.timeout }

/-- Where a session comes from that is stored after an event: it was there and has been left there, or the
turn of a message of its chat has kept it. -/
theorem after_stored {chat : String} {session : Session} (filed : desk.store.Filed) (event : Event σ)
    (found : (desk.after world a event).store.sessions.get? chat = some session) :
    desk.Stays world a event chat session ∨
      ∃ content s kept, event = .message chat content s ∧
        desk.Keeps world a chat content s kept session := by
  cases event with
  | sweep s => exact .inl ⟨Store.stored_of_sweep filed.distinct found, fun stores => stores, nofun⟩
  | message other content s =>
    change (desk.process world a other content s).2.1.store.sessions.get? chat = some session at found
    by_cases same : other = chat
    · subst same
      rcases process_stored filed found with
        ⟨alive, failure, failed⟩ | ⟨alive, reply, replied, left⟩ |
          ⟨reply, kept, replied, decided, written⟩
      · refine .inl ⟨Store.stored_of_live alive, ?_, ?_⟩
        · rintro ⟨-, reply, session, replied, -⟩
          rw [failed] at replied
          cases replied
        · rintro content s ⟨⟩
          exact alive
      · refine .inl ⟨Store.stored_of_live alive, ?_, ?_⟩
        · rintro ⟨-, reply, session, -, decided⟩
          rw [left] at decided
          cases decided
        · rintro content s ⟨⟩
          exact alive
      · exact .inr ⟨content, s, kept, rfl, ⟨reply, decided⟩,
          ⟨rfl, reply, kept, replied, decided⟩, written⟩
    · rw [process_others filed same] at found
      refine .inl ⟨found, fun stores => same stores.1, ?_⟩
      rintro content s ⟨⟩
      exact absurd rfl same

/-- The turn of a message ends at the hop limit before a step: it raises this alarm and no other,
and it counts as many actions as may be run in a row. -/
structure StopsAtLimit (world : World σ) (a : Assistant) (desk : Desk) (chat : String)
    (content : Inbound) (s : σ) (name : String) : Prop where
  alarms : (desk.process world a chat content s).2.1.alarms = desk.alarms ++ [.hopLimit chat name]
  actions : Tally.total (desk.process world a chat content s).2.1.actions =
    Tally.total desk.actions + a.maxHops.toNat

/-- The stored session of a chat is where it can stand; the turn that stored it was the last one to
store a session of this chat, and may have ended at the hop limit. -/
structure Parked (world : World σ) (a : Assistant) (desk : Desk) (events : List (Event σ))
    (chat : String) (session : Session) : Prop where
  own : session.chat = chat
  stored : ∃ earlier content s, LastStoring world a desk chat events earlier content s ∧
    a.Stands session.step
      ((desk.afterAll world a earlier).StopsAtLimit world a chat content s session.step)

/-- No alarm so far was a dead end, and each stored session is where it can stand. -/
structure Passable (world : World σ) (a : Assistant) (desk : Desk) (events : List (Event σ)) :
    Prop where
  noDeadEnd : ∀ alarm ∈ (desk.afterAll world a events).alarms, alarm.isDeadEnd = false
  parked : ∀ {chat session},
    (desk.afterAll world a events).store.sessions.get? chat = some session →
    desk.Parked world a events chat session

/-- What is parked stays parked while nothing is stored for its chat. -/
theorem Parked.before {events : List (Event σ)} {event : Event σ} {chat : String}
    {session : Session} (parked : desk.Parked world a events chat session)
    (unstored : ¬(desk.afterAll world a events).Stores world a chat event) :
    desk.Parked world a (events ++ [event]) chat session := by
  obtain ⟨own, earlier, content, s, last, stands⟩ := parked
  exact ⟨own, earlier, content, s, .before last unstored, stands⟩

/-- A turn over a sound flow parks its session, if those stored are parked. -/
theorem process_parks (sound : a.flow.Sound) {chat : String} (content : Inbound) (s : σ)
    (known : ∀ {session}, desk.store.sessions.get? chat = some session →
      ∃ step, a.flow.step? session.step = some step) :
    a.Parks a.maxHops.toNat (desk.deeds world a chat content s)
      (desk.decision world a chat content s) :=
  (process_answers world a desk chat content s).parks sound
    fun _ found => known (Store.stored_of_live found)

/-- A turn whose deeds end at the hop limit stops there. -/
theorem stopsAtLimit_of_stopsAt {chat name : String} {content : Inbound} {s : σ}
    (stops : Assistant.StopsAt (desk.deeds world a chat content s) chat name a.maxHops.toNat) :
    desk.StopsAtLimit world a chat content s name where
  alarms := by rw [process_alarms, stops.alarms]
  actions := by rw [process_ledger, Ledger.total_enter, stops.actions]

theorem Passable.known {events : List (Event σ)} (passable : desk.Passable world a events)
    {chat : String} {session : Session}
    (found : (desk.afterAll world a events).store.sessions.get? chat = some session) :
    ∃ step, a.flow.step? session.step = some step := by
  obtain ⟨-, earlier, content, s, -, stands⟩ := passable.parked found
  exact stands.known

theorem Passable.noDeadEnd_after (sound : a.flow.Sound) {events : List (Event σ)}
    (passable : desk.Passable world a events) (event : Event σ) :
    ∀ alarm ∈ ((desk.afterAll world a events).after world a event).alarms,
      alarm.isDeadEnd = false := by
  intro alarm raised
  cases event with
  | sweep s => exact passable.noDeadEnd alarm raised
  | message chat content s =>
    change alarm ∈ ((desk.afterAll world a events).process world a chat content s).2.1.alarms at raised
    rw [process_alarms, List.mem_append] at raised
    rcases raised with earlier | new
    · exact passable.noDeadEnd alarm earlier
    · exact (process_parks sound content s passable.known).noDeadEnd alarm new

theorem Passable.after (sound : a.flow.Sound) (filed : desk.store.Filed) {events : List (Event σ)}
    (passable : desk.Passable world a events) (event : Event σ) :
    desk.Passable world a (events ++ [event]) := by
  have current : (desk.afterAll world a events).store.Filed := afterAll_filed filed events
  refine ⟨?_, fun {chat session} found => ?_⟩
  · rw [afterAll_concat]
    exact passable.noDeadEnd_after sound event
  · rw [afterAll_concat] at found
    rcases after_stored current event found with stays | ⟨content, s, kept, rfl, keeps⟩
    · exact (passable.parked stays.stored).before stays.unstored
    · obtain ⟨⟨reply, decided⟩, stores, rfl⟩ := keeps
      have stands := (process_parks sound content s passable.known).stands kept (by rw [decided]; rfl)
      have own : kept.chat = chat := decision_concerns current decided
      rw [own] at stands
      refine ⟨own, events, content, s, .now stores, ?_⟩
      exact ⟨stands.known, stands.terminal, fun action standing =>
        (stands.action action standing).imp_right stopsAtLimit_of_stopsAt⟩

/-- A new desk stays passable, whatever happens. -/
theorem afterAll_passable (sound : a.flow.Sound) (timeout horizon : Time) (events : List (Event σ)) :
    (Desk.new ⟨timeout, horizon, []⟩).Passable world a events := by
  have filed : (Desk.new ⟨timeout, horizon, []⟩).store.Filed := .empty timeout horizon
  induction events using List.reverseRecOn with
  | nil =>
    refine ⟨fun alarm raised => ?_, fun found => ?_⟩
    · cases raised
    · cases found
  | append_singleton events event passable => exact passable.after sound filed event

/-- A flow in which the list of products follows upon itself, and a menu sends those it does not
understand to the end. -/
def browsing : Flow where
  id := "browsing"
  initialStep := "start"
  timeoutSeconds := 300
  steps :=
    [("start", .trigger { onMatch := { next := "menu", message := none }, otherwiseHandled := true }),
     ("menu",
      .choice
        { message := "menu"
          choices := [{ id := "browse", label := "Browse", aliases := [] }]
          transitions := [("browse", { next := "browse", message := none })]
          invalidMessage := "invalid"
          invalidNext := "end" }),
     ("browse", .action { action := .listProducts, next := "browse" }),
     ("end", .terminal { message := none })]

/-- **No dead ends.**  Over a flow that has been built, whatever is written and swept at a new desk,
no alarm ever tells of a dead end, and each stored session is filed under its own chat and stands at
a step of the flow: at a terminal step only as a refuge from a menu, and at an action only so or
because the turn that stored it ended at the hop limit. -/
theorem no_dead_ends {document : Json} (built : Flow.build document = .ok a.flow)
    (world : World σ) (timeout horizon : Time) (events : List (Event σ)) :
    (∀ alarm ∈ ((Desk.new ⟨timeout, horizon, []⟩).afterAll world a events).alarms,
      alarm.isDeadEnd = false) ∧
    ∀ entry ∈ ((Desk.new ⟨timeout, horizon, []⟩).afterAll world a events).store.sessions,
      (Desk.new ⟨timeout, horizon, []⟩).Parked world a events entry.1 entry.2 := by
  have passable : (Desk.new ⟨timeout, horizon, []⟩).Passable world a events :=
    afterAll_passable (Flow.sound_of_build built) timeout horizon events
  have filed : ((Desk.new ⟨timeout, horizon, []⟩).afterAll world a events).store.Filed :=
    afterAll_filed (.empty timeout horizon) events
  refine ⟨passable.noDeadEnd, fun ⟨chat, session⟩ member => ?_⟩
  exact passable.parked (Table.get?_of_mem filed.distinct member)

/-- In the browsing flow one conversation stands at an action, and another at the end. -/
theorem no_dead_ends_browsing :
    let a : Assistant := ⟨browsing, defaultMessages, none, true, 2, 5⟩
    let events : List (Event Time) :=
      [.message "alice" (.text "hi") 0, .message "bob" (.text "hi") 1,
       .message "alice" (.text "browse") 2, .message "bob" (.text "what?") 3]
    let desk : Desk := Desk.new ⟨1000, 10000, []⟩
    Flow.build browsing.toJson = .ok browsing ∧
    (desk.afterAll .bare a events).alarms = [.hopLimit "alice" "browse"] ∧
    (desk.afterAll .bare a events).store.sessions.map (fun entry => (entry.1, entry.2.step)) =
      [("alice", "browse"), ("bob", "end")] ∧
    ∀ entry ∈ (desk.afterAll .bare a events).store.sessions,
      desk.Parked .bare a events entry.1 entry.2 := by
  have built : Flow.build browsing.toJson = .ok browsing := by rfl
  exact ⟨built, by rfl, by rfl, (no_dead_ends built .bare 1000 10000 _).2⟩

end Desk

end Storekeeper
