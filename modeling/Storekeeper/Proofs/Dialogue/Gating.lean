import Storekeeper.Proofs.Dialogue.Parking

/-!
# How a conversation begins and goes on

A conversation begins with a text that starts one, in a chat that has none or whose conversation stands at a
trigger.  Every other way through a turn keeps the session that it found, or none.

* `Assistant.Answers.created`: a session that a turn keeps was begun in that turn, or found by it.
* `Assistant.Answers.unhandled`: only a trigger leaves a message to others.
* `Desk.Conversation` ties a time to the message that began a conversation then, and to all the messages that the
  conversation has answered since.
* `Desk.trigger_gating` is the result for every list of events at a new desk.
-/

namespace Storekeeper

namespace Assistant

/-- The message is a text that starts a conversation: without the blanks at its ends and in lower case it is
the set text, or no text is set. -/
def Starts (a : Assistant) (content : Inbound) : Prop :=
  ∃ text, content = .text text ∧
    ∀ code, triggerCode a.trigger = some code → normalized text = Text.lower code

variable {a : Assistant} {opened : Except Failure Session} {chat name : String} {hops : Nat}
  {session? : Option Session} {content : Inbound} {arrival : Arrival} {deeds : List Deed}
  {out : Except Failure Decision} {decision : Decision} {kept : Session}

theorem isTriggered_iff : a.isTriggered content = true ↔ a.Starts content := by
  unfold Starts
  cases content with
  | image url mimeType => simp [isTriggered]
  | text text => cases set : triggerCode a.trigger <;> simp [isTriggered, set]

theorem isTriggered_eq_false : a.isTriggered content = false ↔ ¬a.Starts content := by
  rw [← isTriggered_iff, Bool.not_eq_true]

/-- A trigger does nothing with a message that does not start a conversation. -/
theorem respond_unmatched {step : TriggerStep} (trigger : a.AtTrigger session? step)
    (unmatched : a.isTriggered content = false) :
    a.respond opened session? chat content =
      .done ⟨{ handled := step.otherwiseHandled }, .leave⟩ := by
  cases trigger with
  | start found =>
    simp only [respond, start, found, atTrigger, unmatched]
    rfl
  | parked found =>
    simp only [respond, found, atStep, atTrigger, unmatched]
    rfl

/-- Entering a step does not make a session any younger. -/
theorem Enters.created (enters : a.Enters hops name arrival deeds out)
    (keeps : keptBy out = some kept) : kept.created = arrival.session.created := by
  induction enters with
  | missing _ => cases keeps
  | ended _ => cases keeps
  | menu _ => cases keeps; rfl
  | prompt _ _ => cases keeps; rfl
  | limit _ => cases keeps; rfl
  | failed _ _ => cases keeps
  | onward _ _ _ ih => exact ih keeps

/-- A session that is kept has been opened at a trigger, for a message that starts a conversation, or it
was there before. -/
theorem Answers.created (answers : a.Answers opened chat session? content deeds out)
    (keeps : keptBy out = some kept) :
    (∃ step session, a.AtTrigger session? step ∧ a.Starts content ∧ opened = .ok session ∧
      kept.created = session.created) ∨
    ∃ session, session? = some session ∧ kept.created = session.created := by
  rcases answers with settles | ⟨name, arrival, leads, enters⟩
  · cases settles <;> cases keeps <;> exact .inr ⟨_, rfl, rfl⟩
  · rw [enters.created keeps]
    cases leads with
    | opened trigger triggered opens =>
      exact .inl ⟨_, _, trigger, isTriggered_iff.mp triggered, opens, rfl⟩
    | _ => exact .inr ⟨_, rfl, rfl⟩

theorem Enters.handled (enters : a.Enters hops name arrival deeds (.ok decision)) :
    decision.reply.handled = true := by
  generalize outcome : Except.ok decision = out at enters
  induction enters with
  | failed _ _ => cases outcome
  | onward _ _ _ ih => exact ih outcome
  | _ => cases outcome; rfl

/-- Over a sound flow, whose steps are where its conversations stand, only a trigger leaves a message to
others, and only one that does not start a conversation. -/
theorem Answers.unhandled (sound : a.flow.Sound)
    (known : ∀ session, session? = some session → ∃ step, a.flow.step? session.step = some step)
    (answers : a.Answers opened chat session? content deeds (.ok decision))
    (unhandled : decision.reply.handled = false) :
    ∃ step, a.AtTrigger session? step ∧ ¬a.Starts content ∧ step.otherwiseHandled = false := by
  rcases answers with settles | ⟨name, arrival, -, enters⟩
  · cases settles with
    | noTrigger never =>
      obtain ⟨step, found⟩ := sound.starts
      exact absurd found (never step)
    | unmatched trigger unmatched =>
      exact ⟨_, trigger, isTriggered_eq_false.mp unmatched, unhandled⟩
    | unknownStep absent =>
      obtain ⟨step, found⟩ := known _ rfl
      rw [absent] at found
      cases found
    | _ => cases unhandled
  · rw [enters.handled] at unhandled
    cases unhandled

end Assistant

namespace Desk

variable {σ : Type} {world : World σ} {a : Assistant} {desk : Desk} {chat : String}
  {content : Inbound} {s : σ} {events : List (Event σ)} {session : Session} {created : Time}

/-- The stored session of a chat was written when the last turn to store one was over, and it lives for the
timeout from then on. -/
structure Written (world : World σ) (a : Assistant) (desk : Desk) (chat : String)
    (events : List (Event σ)) (session : Session) : Prop where
  last : ∃ earlier content s, desk.LastStoring world a chat events earlier content s ∧
    session.updated = (desk.afterAll world a earlier).finished world a chat content s
  expires : session.expires = session.updated + desk.store.timeout

/-- A message begins a conversation: it starts one, there is none or it stands at a trigger, and the turn
stores a session. -/
structure Begins (world : World σ) (a : Assistant) (desk : Desk) (chat : String) (content : Inbound)
    (s : σ) : Prop where
  trigger : ∃ step, a.AtTrigger (desk.live (world.now s) chat) step
  starts : a.Starts content
  stores : desk.Stores world a chat (.message chat content s)

/-- A message in a state of the world goes on with a session, no later than the timeout after it was last
written. -/
structure GoesOn (world : World σ) (a : Assistant) (desk : Desk) (chat : String)
    (events : List (Event σ)) (s : σ) (session : Session) : Prop where
  found : (desk.afterAll world a events).live (world.now s) chat = some session
  written : desk.Written world a chat events session
  timely : world.now s ≤ session.updated + desk.store.timeout

/-- A conversation of a chat that was begun at a time has lasted over the events: a message began it then,
and every message of the chat since has gone on with it. -/
inductive Conversation (world : World σ) (a : Assistant) (desk : Desk) (chat : String) :
    List (Event σ) → Time → Prop
  | begun {events : List (Event σ)} {content : Inbound} {s : σ} :
    (desk.afterAll world a events).Begins world a chat content s →
    Conversation world a desk chat (events ++ [.message chat content s]) (world.now s)
  | since {events : List (Event σ)} {created : Time} {event : Event σ} :
    Conversation world a desk chat events created →
    (∀ content s, event = .message chat content s →
      ∃ session, session.created = created ∧ desk.GoesOn world a chat events s session) →
    Conversation world a desk chat (events ++ [event]) created

/-- The stored session of a chat is that of a conversation that has lasted since it was created. -/
structure Dated (world : World σ) (a : Assistant) (desk : Desk) (chat : String)
    (events : List (Event σ)) (session : Session) : Prop where
  written : desk.Written world a chat events session
  conversation : desk.Conversation world a chat events session.created

/-- A message has no effect but a bare reply: it asks for nothing, what is stored was stored before, and
what is live stays so. -/
structure Ignores (world : World σ) (a : Assistant) (desk : Desk) (chat : String) (content : Inbound)
    (s : σ) (handled : Bool) : Prop where
  reply : (desk.process world a chat content s).1 = .ok { handled }
  idle : desk.deeds world a chat content s = []
  stored : ∀ other session,
    (desk.process world a chat content s).2.1.store.sessions.get? other = some session →
      desk.store.sessions.get? other = some session
  live : ∀ later other, world.now s ≤ later →
    (desk.process world a chat content s).2.1.live later other = desk.live later other

/-! ## Conversations over the events -/

theorem Written.timely (written : desk.Written world a chat events session) {now : Time}
    (alive : (desk.afterAll world a events).live now chat = some session) :
    now ≤ session.updated + desk.store.timeout := by
  have fresh : session.isExpired now = false := (Store.live_eq_some.mp alive).2
  rw [← written.expires]
  exact Nat.le_of_not_lt (of_decide_eq_false fresh)

/-- A message that finds the stored session goes on with it. -/
theorem Dated.goesOn (dated : desk.Dated world a chat events session)
    (alive : (desk.afterAll world a events).live (world.now s) chat = some session) :
    desk.GoesOn world a chat events s session :=
  ⟨alive, dated.written, dated.written.timely alive⟩

theorem Dated.stays (dated : desk.Dated world a chat events session) {event : Event σ}
    (stays : (desk.afterAll world a events).Stays world a event chat session) :
    desk.Dated world a chat (events ++ [event]) session := by
  obtain ⟨earlier, content, s, last, updated⟩ := dated.written.last
  refine ⟨⟨⟨earlier, content, s, .before last stays.unstored, updated⟩, dated.written.expires⟩, ?_⟩
  refine .since dated.conversation fun content s same => ?_
  exact ⟨session, rfl, dated.goesOn (stays.found content s same)⟩

theorem Dated.kept {kept : Session}
    (dated : ∀ {session}, (desk.afterAll world a events).store.sessions.get? chat = some session →
      desk.Dated world a chat events session)
    (keeps : (desk.afterAll world a events).Keeps world a chat content s kept session) :
    desk.Dated world a chat (events ++ [.message chat content s]) session := by
  obtain ⟨⟨reply, decided⟩, stores, rfl⟩ := keeps
  refine ⟨⟨⟨events, content, s, .now stores, rfl⟩, ?_⟩, ?_⟩
  · change _ + (desk.afterAll world a events).store.timeout = _ + desk.store.timeout
    rw [(afterAll_timeout world a desk events).1]
  · have answers := process_answers world a (desk.afterAll world a events) chat content s
    change desk.Conversation world a chat _ kept.created
    rcases answers.created (by rw [decided]; rfl) with
      ⟨step, session, trigger, starts, opens, same⟩ | ⟨session, alive, same⟩
    · have now : kept.created = world.now s := by rw [same, Store.create_ok opens]
      rw [now]
      exact .begun ⟨⟨step, trigger⟩, starts, stores⟩
    · have before : desk.Dated world a chat events session := dated (Store.stored_of_live alive)
      rw [same]
      refine .since before.conversation fun content s same => ?_
      cases same
      exact ⟨session, rfl, before.goesOn alive⟩

/-- Each session that is stored after any events at a new desk is that of a conversation that has lasted
since it was created. -/
theorem afterAll_dated (world : World σ) (a : Assistant) (timeout horizon : Time)
    (events : List (Event σ)) {chat : String} {session : Session}
    (found : ((Desk.new ⟨timeout, horizon, []⟩).afterAll world a events).store.sessions.get? chat =
      some session) :
    (Desk.new ⟨timeout, horizon, []⟩).Dated world a chat events session := by
  -- The induction is on the last event, which sees all the sessions stored before it.
  induction events using List.reverseRecOn generalizing chat session with
  | nil => cases found
  | append_singleton events event ih =>
    have filed : ((Desk.new ⟨timeout, horizon, []⟩).afterAll world a events).store.Filed :=
      afterAll_filed (.empty timeout horizon) events
    rw [afterAll_concat] at found
    rcases after_stored filed event found with stays | ⟨content, s, kept, rfl, keeps⟩
    · exact (ih stays.stored).stays stays
    · exact .kept ih keeps

/-! ## Messages that are left alone -/

theorem ignores_of_unmatched {step : TriggerStep}
    (trigger : a.AtTrigger (desk.live (world.now s) chat) step) (unmatched : ¬a.Starts content) :
    desk.Ignores world a chat content s step.otherwiseHandled := by
  have responds : desk.response a (world.now s) chat content =
      .done ⟨{ handled := step.otherwiseHandled }, .leave⟩ :=
    Assistant.respond_unmatched trigger (Assistant.isTriggered_eq_false.mpr unmatched)
  have left : desk.decision world a chat content s =
      .ok ⟨{ handled := step.otherwiseHandled }, .leave⟩ := by
    unfold decision
    rw [responds]
    rfl
  obtain ⟨replied, store⟩ := process_of_leave left
  refine ⟨replied, ?_, ?_, ?_⟩
  · unfold deeds
    rw [responds]
    rfl
  · rw [store]
    exact fun other session found => Store.stored_of_get found
  · intro later other after
    unfold live
    rw [store]
    exact Store.live_get after

/-- **Conversations begin at triggers.**  Over a flow that has been built, after any events at a new desk,
each stored session was begun when it was created, by a text that starts a conversation, and every message
of its chat since has gone on with it, no later than the timeout after it was last written.  A message
that does not start a conversation, in a chat that has none or whose conversation stands at a trigger,
has no effect but the trigger's bare reply; and no other message is left to others. -/
theorem trigger_gating {document : Json} (built : Flow.build document = .ok a.flow) (world : World σ)
    (timeout horizon : Time) (events : List (Event σ)) :
    let desk := (Desk.new ⟨timeout, horizon, []⟩).afterAll world a events
    (∀ entry ∈ desk.store.sessions,
      (Desk.new ⟨timeout, horizon, []⟩).Dated world a entry.1 events entry.2) ∧
    ∀ chat content s,
      (¬a.Starts content →
        (desk.live (world.now s) chat = none ∨ ∃ session step,
          desk.live (world.now s) chat = some session ∧
            a.flow.step? session.step = some (.trigger step)) →
        ∃ step, a.AtTrigger (desk.live (world.now s) chat) step ∧
          desk.Ignores world a chat content s step.otherwiseHandled) ∧
      ∀ reply, (desk.process world a chat content s).1 = .ok reply → reply.handled = false →
        ∃ step, a.AtTrigger (desk.live (world.now s) chat) step ∧ ¬a.Starts content ∧
          step.otherwiseHandled = false := by
  intro desk
  have sound : a.flow.Sound := Flow.sound_of_build built
  have filed : desk.store.Filed := afterAll_filed (.empty timeout horizon) events
  have passable : (Desk.new ⟨timeout, horizon, []⟩).Passable world a events :=
    afterAll_passable sound timeout horizon events
  refine ⟨fun ⟨chat, session⟩ member => ?_, fun chat content s => ⟨fun unmatched waits => ?_, ?_⟩⟩
  · exact afterAll_dated world a timeout horizon events (Table.get?_of_mem filed.distinct member)
  · have trigger : ∃ step, a.AtTrigger (desk.live (world.now s) chat) step := by
      rcases waits with none | ⟨session, step, alive, found⟩
      · obtain ⟨step, found⟩ := sound.starts
        exact ⟨step, none ▸ .start found⟩
      · exact ⟨step, alive ▸ .parked found⟩
    obtain ⟨step, trigger⟩ := trigger
    exact ⟨step, trigger, ignores_of_unmatched trigger unmatched⟩
  · intro reply replied unhandled
    obtain ⟨write, decided⟩ := decision_of_reply replied
    have answers := process_answers world a desk chat content s
    rw [decided] at answers
    exact answers.unhandled sound (fun session alive => passable.known (Store.stored_of_live alive))
      unhandled

/-- A flow in which a conversation can be sent back to wait at its trigger. -/
def restartable : Flow where
  id := "restartable"
  initialStep := "start"
  timeoutSeconds := 300
  steps :=
    [("start", .trigger { onMatch := { next := "menu", message := none }, otherwiseHandled := true }),
     ("menu",
      .choice
        { message := "intent_prompt"
          choices := [{ id := "again", label := "Again", aliases := [] }]
          transitions := [("again", { next := "start", message := none })]
          invalidMessage := "invalid_choice"
          invalidNext := "menu" })]

/-- A conversation that waits at its trigger ignores what does not start one, and is begun anew by what
does. -/
theorem trigger_gating_restartable :
    let a : Assistant := ⟨restartable, defaultMessages, some " Go", true, 3, 20⟩
    let events : List (Event Time) :=
      [.message "c" (.text "go") 0, .message "c" (.text "again") 1, .message "c" (.text " GO ") 3]
    let desk : Desk := Desk.new ⟨1000, 10000, []⟩
    Flow.build restartable.toJson = .ok restartable ∧
    (desk.afterAll .bare a events).store.sessions.map (fun entry => (entry.1, entry.2.created)) =
      [("c", 3)] ∧
    (∀ entry ∈ (desk.afterAll .bare a events).store.sessions,
      desk.Dated .bare a entry.1 events entry.2) ∧
    (desk.afterAll .bare a (events.take 2)).Ignores .bare a "c" (.text "nope") 2 true := by
  intro a events desk
  have built : Flow.build restartable.toJson = .ok restartable := by rfl
  refine ⟨built, by decide +kernel, (trigger_gating built .bare 1000 10000 events).1, ?_⟩
  have waits : ∃ session step, (desk.afterAll .bare a (events.take 2)).live 2 "c" = some session ∧
      restartable.step? session.step = some (.trigger step) := ⟨_, _, rfl, rfl⟩
  have unmatched : ¬a.Starts (.text "nope") := by
    rw [← Assistant.isTriggered_eq_false]
    rfl
  obtain ⟨step, trigger, ignores⟩ :=
    ((trigger_gating built .bare 1000 10000 (events.take 2)).2 "c" (.text "nope") 2).1 unmatched
      (.inr waits)
  cases trigger with
  | parked found =>
    cases found
    exact ignores

end Desk

end Storekeeper
