import Storekeeper.Proofs.Dialogue.Gating
import Storekeeper.Proofs.Dialogue.Isolation

/-!
# How a conversation is kept alive

A turn that stores its session begins its time to live anew.  Not every turn does so: a message that a step
turns away is answered, and the session stays as it was stored.

* `Assistant.TurnsAway` lists these messages: four kinds of steps have one exit each that replies without
  storing anything.
* `Assistant.Answers.renews`: every other message that is handled, and does not end the conversation, has its
  session stored.
* `Desk.KeepsWriting` says of a run that the messages of a chat follow each other within the timeout, and
  `Desk.KeepsWriting.alive` that each of them finds the conversation alive, if none is turned away.
* `Desk.activity_renews` puts both together for every reachable desk.
-/

namespace Storekeeper

namespace Assistant

/-- The step at which a session stands turns a message away: it has a reply for it, and leaves the session
as it is stored. -/
inductive TurnsAway (a : Assistant) (session : Session) : Inbound → Prop
  /-- A trigger that handles what does not start a conversation. -/
  | unmatched {step : TriggerStep} {message : Inbound} :
    a.flow.step? session.step = some (.trigger step) → ¬a.Starts message →
    step.otherwiseHandled = true → TurnsAway a session message
  /-- A choice of a menu that leads nowhere. -/
  | noTransition {step : ChoiceStep} {message : Inbound} {choice : String} :
    a.flow.step? session.step = some (.choice step) → step.meant? message = some choice →
    step.transitions.get? choice = none → TurnsAway a session message
  /-- An image in answer to a question. -/
  | misplaced {step : InputStep} {url : String} {mimeType : Option String} :
    a.flow.step? session.step = some (.input step) → TurnsAway a session (.image url mimeType)
  /-- A text in answer to a request for an image, unless it cancels or skips the request. -/
  | unskipped {step : ImageStep} {content : String} :
    a.flow.step? session.step = some (.image step) → (Inbound.text content).isCancel = false →
    step.isSkippedBy content = false → TurnsAway a session (.text content)

variable {a : Assistant} {opened : Except Failure Session} {chat name : String} {hops : Nat}
  {session : Session} {message : Inbound} {arrival : Arrival} {deeds : List Deed}
  {decision : Decision}

/-- A message that is turned away leaves the store as it is, whatever the world. -/
theorem TurnsAway.leaves {σ : Type} (away : a.TurnsAway session message)
    (opened : Except Failure Session) (chat : String) (world : Surroundings σ) (s : σ) :
    ∃ reply, (a.respond opened (some session) chat message).outcome world s =
      .ok ⟨reply, .leave⟩ := by
  cases away with
  | unmatched found unmatched handled =>
    rw [respond_unmatched (.parked found) (isTriggered_eq_false.mpr unmatched)]
    exact ⟨_, rfl⟩
  | noTransition found meant nowhere =>
    simp only [respond, found, atStep, atChoice, meant, nowhere]
    exact ⟨_, rfl⟩
  | misplaced found =>
    simp only [respond, found, atStep, atInput]
    exact ⟨_, rfl⟩
  | unskipped found goesOn unskipped =>
    simp only [respond, found, atStep, atImage, goesOn, unskipped]
    exact ⟨_, rfl⟩

/-- Entering a step of a sound flow keeps the session, unless it ends the conversation. -/
theorem Enters.renews (sound : a.flow.Sound) (target : ∃ step, a.flow.step? name = some step)
    (enters : a.Enters hops name arrival deeds (.ok decision))
    (goesOn : decision.reply.sessionEnded = false) : ∃ kept, decision.write = .keep kept := by
  generalize outcome : Except.ok decision = out at enters
  induction enters with
  | missing absent =>
    obtain ⟨step, found⟩ := target
    rw [absent] at found
    cases found
  | ended _ =>
    cases outcome
    cases goesOn
  | menu _ => cases outcome; exact ⟨_, rfl⟩
  | prompt _ _ => cases outcome; exact ⟨_, rfl⟩
  | limit _ => cases outcome; exact ⟨_, rfl⟩
  | failed _ _ => cases outcome
  | onward found _ _ ih => exact ih (sound.actionNext found) outcome

/-- A message that is handled, does not end the conversation and is not turned away has its session kept. -/
theorem Answers.renews (sound : a.flow.Sound)
    (answers : a.Answers opened chat (some session) message deeds (.ok decision))
    (heard : ¬a.TurnsAway session message) (handled : decision.reply.handled = true)
    (goesOn : decision.reply.sessionEnded = false) : ∃ kept, decision.write = .keep kept := by
  rcases answers with settles | ⟨name, arrival, leads, enters⟩
  · cases settles with
    | unmatched trigger unmatched =>
      cases trigger with
      | parked found =>
        exact absurd (.unmatched found (isTriggered_eq_false.mp unmatched) handled) heard
    | unknownStep _ => cases handled
    | toMenu _ _ _ => exact ⟨_, rfl⟩
    | toStep _ _ _ => exact ⟨_, rfl⟩
    | nowhere found _ absent =>
      obtain ⟨step, target⟩ := sound.invalidNext found
      rw [absent] at target
      cases target
    | noTransition found meant nowhere => exact absurd (.noTransition found meant nowhere) heard
    | noRecovery _ _ _ => cases goesOn
    | misplaced found => exact absurd (.misplaced found) heard
    | incomplete _ _ _ _ => exact ⟨_, rfl⟩
    | unskipped found continues unskipped =>
      exact absurd (.unskipped found continues unskipped) heard
  · exact enters.renews sound (leads.target sound) goesOn

end Assistant

namespace Desk

variable {σ : Type} {world : World σ} {a : Assistant} {desk : Desk} {chat : String}
  {content : Inbound} {s : σ} {session : Session}

/-- A reply that comes with a session to be kept leaves it stored, written when the turn was over. -/
theorem process_of_keep {reply : Reply} {kept : Session} (filed : desk.store.Filed)
    (replied : (desk.process world a chat content s).1 = .ok reply)
    (decided : desk.decision world a chat content s = .ok ⟨reply, .keep kept⟩) :
    (desk.process world a chat content s).2.1.store.sessions.get? chat = some { kept with
      updated := desk.finished world a chat content s
      expires := desk.finished world a chat content s + desk.store.timeout } := by
  obtain ⟨timeout, -⟩ := Store.get_timeout desk.store (world.now s) chat
  have own : kept.chat = chat := decision_concerns filed decided
  have ends := process_ends world a desk chat content s
  rw [decided, replied] at ends
  generalize (desk.process world a chat content s).2.1.store = store at ends ⊢
  cases ends with
  | carriedOut done =>
    obtain ⟨-, rfl⟩ := Store.commit_keep done
    rw [own, Table.get?_put_self, timeout, ← own]

/-- The turn of a message goes on with the conversation: it comes to a reply that handles the message and
does not end the conversation. -/
structure Continues (world : World σ) (a : Assistant) (desk : Desk) (chat : String)
    (content : Inbound) (s : σ) : Prop where
  reply : ∃ reply, (desk.process world a chat content s).1 = .ok reply ∧ reply.handled = true ∧
    reply.sessionEnded = false

theorem continues_iff : desk.Continues world a chat content s ↔
    ((desk.process world a chat content s).1.toOption.any fun reply =>
      reply.handled && !reply.sessionEnded) = true := by
  constructor
  · rintro ⟨reply, replied, handled, goesOn⟩
    simp [replied, Except.toOption, handled, goesOn]
  · intro continues
    cases replied : (desk.process world a chat content s).1 with
    | error failure => simp [replied, Except.toOption] at continues
    | ok reply =>
      simp only [replied, Except.toOption, Option.any_some, Bool.and_eq_true, Bool.not_eq_true'] at continues
      exact ⟨reply, replied, continues⟩

instance : Decidable (desk.Continues world a chat content s) :=
  decidable_of_iff _ continues_iff.symm

/-- A session is stored for a chat that was written at a time, and lives for the timeout from then on. -/
def IsWrittenAt (desk : Desk) (chat : String) (time : Time) : Prop :=
  ∃ session, desk.store.sessions.get? chat = some session ∧ session.updated = time ∧
    session.expires = time + desk.store.timeout

/-- A turn that goes on with a conversation writes its session anew, unless the message is turned away. -/
theorem process_renews (sound : a.flow.Sound) (filed : desk.store.Filed)
    (alive : desk.live (world.now s) chat = some session) (heard : ¬a.TurnsAway session content)
    (continues : desk.Continues world a chat content s) :
    (desk.process world a chat content s).2.1.IsWrittenAt chat
      (desk.finished world a chat content s) := by
  obtain ⟨reply, replied, handled, goesOn⟩ := continues.reply
  obtain ⟨write, decided⟩ := decision_of_reply replied
  have answers := process_answers world a desk chat content s
  rw [alive, decided] at answers
  obtain ⟨kept, same⟩ := answers.renews sound heard handled goesOn
  cases same
  refine ⟨_, process_of_keep filed replied decided, rfl, ?_⟩
  rw [process_timeout.1]

/-- A turn that turns its message away leaves the session as it was stored. -/
theorem process_turnsAway (alive : desk.live (world.now s) chat = some session)
    (away : a.TurnsAway session content) :
    (desk.process world a chat content s).2.1.store.sessions.get? chat = some session := by
  obtain ⟨reply, left⟩ : ∃ reply, desk.decision world a chat content s = .ok ⟨reply, .leave⟩ := by
    unfold decision response
    rw [alive]
    exact away.leaves _ _ _ _
  rw [(process_of_leave left).2]
  exact Store.get_of_live alive

/-! ## A chat that keeps writing -/

/-- The messages of a chat follow each other within the timeout, the first of them a time at which the chat
was last answered: each of them begins no later than the timeout after the one before was over, goes on
with the conversation, and is not turned away.  Other events are left out of account. -/
inductive KeepsWriting (world : World σ) (a : Assistant) (chat : String) :
    Desk → Time → List (Event σ) → Prop
  | nil {desk : Desk} {last : Time} : KeepsWriting world a chat desk last []
  | aside {desk : Desk} {last : Time} {event : Event σ} {events : List (Event σ)} :
    event.isOf chat = false → KeepsWriting world a chat (desk.after world a event) last events →
    KeepsWriting world a chat desk last (event :: events)
  | writes {desk : Desk} {last : Time} {content : Inbound} {s : σ} {events : List (Event σ)} :
    world.now s ≤ last + desk.store.timeout → desk.Continues world a chat content s →
    (∀ session, desk.live (world.now s) chat = some session → ¬a.TurnsAway session content) →
    KeepsWriting world a chat (desk.after world a (.message chat content s))
      (desk.finished world a chat content s) events →
    KeepsWriting world a chat desk last (.message chat content s :: events)

/-- From a time on, a conversation of a chat is alive until the timeout after it was last answered. -/
def Lasts (desk : Desk) (chat : String) (now last : Time) : Prop :=
  ∀ later, now ≤ later → later ≤ last + desk.store.timeout →
    ∃ session, desk.live later chat = some session

theorem IsWrittenAt.lasts {time : Time} (written : desk.IsWrittenAt chat time) (now : Time) :
    desk.Lasts chat now time := by
  obtain ⟨session, stored, -, expires⟩ := written
  intro later _ timely
  refine ⟨session, Store.live_eq_some.mpr ⟨stored, ?_⟩⟩
  rw [← expires] at timely
  exact decide_eq_false (Nat.not_lt_of_le timely)

/-- What is not a message of the chat leaves its conversation alive. -/
theorem Lasts.aside {now last : Time} {event : Event σ} (lasts : desk.Lasts chat now last)
    (filed : desk.store.Filed) (aside : event.isOf chat = false) (begins : now ≤ event.time world)
    (ends : event.time world ≤ desk.doneAt world a event) :
    (desk.after world a event).Lasts chat (desk.doneAt world a event) last := by
  intro later since timely
  rw [(after_timeout world a desk event).1] at timely
  rw [Agree.live_after filed aside (Nat.le_trans ends since)]
  exact lasts later (Nat.le_trans begins (Nat.le_trans ends since)) timely

/-- A chat that keeps writing finds its conversation alive with every message. -/
theorem KeepsWriting.alive (sound : a.flow.Sound) {now last : Time} {events : List (Event σ)}
    (keeps : KeepsWriting world a chat desk last events) (filed : desk.store.Filed)
    (chronological : desk.Chronological world a now events) (lasts : desk.Lasts chat now last)
    {earlier later : List (Event σ)} (split : events = earlier ++ .message chat content s :: later) :
    ∃ session, (desk.afterAll world a earlier).live (world.now s) chat = some session := by
  induction keeps generalizing now earlier with
  | nil =>
    have absent := congrArg List.length split
    simp at absent
  | @aside desk last event events aside _ ih =>
    obtain ⟨begins, ends, rest⟩ := chronological
    cases earlier with
    | nil =>
      cases split
      simp [Event.isOf] at aside
    | cons first earlier =>
      cases split
      exact ih (after_filed filed event) rest (lasts.aside filed aside begins ends) rfl
  | @writes desk last content' s' events timely continues heard _ ih =>
    obtain ⟨begins, ends, rest⟩ := chronological
    obtain ⟨session, alive⟩ := lasts (world.now s') begins timely
    cases earlier with
    | nil =>
      cases split
      exact ⟨session, alive⟩
    | cons first earlier =>
      cases split
      have written := process_renews sound filed alive (heard session alive) continues
      exact ih (process_filed filed) rest (written.lasts _) rfl

/-- **Activity keeps a conversation alive.**  Over a flow that has been built, after any events at a new desk,
a turn that goes on with a live conversation writes its session anew, for the timeout from then on, unless
the step turns the message away; and if it does, the session stays as it was stored.  So a chat whose
messages follow each other within the timeout, none of them turned away, finds its conversation alive with
every one of them. -/
theorem activity_renews {document : Json} (built : Flow.build document = .ok a.flow) (world : World σ)
    (timeout horizon : Time) (events : List (Event σ)) (chat : String) :
    let desk := (Desk.new ⟨timeout, horizon, []⟩).afterAll world a events
    ∀ now session, desk.live now chat = some session →
      (∀ content s, world.now s = now → desk.Continues world a chat content s →
        (¬a.TurnsAway session content → (desk.process world a chat content s).2.1.IsWrittenAt chat
          (desk.finished world a chat content s)) ∧
        (a.TurnsAway session content →
          (desk.process world a chat content s).2.1.store.sessions.get? chat = some session)) ∧
      ∀ more, desk.Chronological world a now more →
        KeepsWriting world a chat desk session.updated more →
        ∀ earlier content s later, more = earlier ++ .message chat content s :: later →
          ∃ session, (desk.afterAll world a earlier).live (world.now s) chat = some session := by
  intro desk now session alive
  have sound : a.flow.Sound := Flow.sound_of_build built
  have filed : desk.store.Filed := afterAll_filed (.empty timeout horizon) events
  refine ⟨?_, fun more chronological keeps earlier content s later split => ?_⟩
  · rintro content s rfl continues
    exact ⟨fun heard => process_renews sound filed alive heard continues,
      fun away => process_turnsAway alive away⟩
  · have stored := Store.stored_of_live alive
    have dated := afterAll_dated world a timeout horizon events stored
    have written : desk.IsWrittenAt chat session.updated := by
      refine ⟨session, stored, rfl, ?_⟩
      rw [dated.written.expires, (afterAll_timeout world a (Desk.new ⟨timeout, horizon, []⟩) events).1]
    exact keeps.alive sound filed chronological (written.lasts now) split

/-- A word that no choice of the menu is meant by renews a conversation, so that the next one finds it
alive. -/
theorem activity_renews_menu :
    let a : Assistant := ⟨.builtin, defaultMessages, none, true, 3, 20⟩
    let desk := (Desk.new ⟨10, 1000, []⟩).afterAll .bare a [.message "c" (.text "hi") 0]
    Flow.build Flow.builtin.toJson = .ok .builtin ∧
      (desk.process .bare a "c" (.text "what?") 8).2.1.IsWrittenAt "c" 8 ∧
      ∃ session, (desk.afterAll .bare a [.message "c" (.text "what?") 8, .sweep 12]).live 16 "c" =
        some session := by
  intro a desk
  have built : Flow.build Flow.builtin.toJson = .ok .builtin := by rfl
  have heard : ∀ session, session.step = "awaiting_intent" → ¬a.TurnsAway session (.text "what?") := by
    intro session stands away
    obtain ⟨menu, found, unmeant⟩ : ∃ menu, a.flow.step? session.step = some (.choice menu) ∧
        menu.meant? (.text "what?") = none := ⟨_, by rw [stands]; rfl, by decide +kernel⟩
    cases away with
    | noTransition other meant _ =>
      rw [found] at other
      cases other
      rw [unmeant] at meant
      cases meant
    | unmatched other _ _ => rw [found] at other; cases other
    | unskipped other _ _ => rw [found] at other; cases other
  obtain ⟨session, alive, stands, written⟩ : ∃ session, desk.live 8 "c" = some session ∧
      session.step = "awaiting_intent" ∧ session.updated = 0 := ⟨_, rfl, rfl, rfl⟩
  have continues : desk.Continues .bare a "c" (.text "what?") 8 := by decide +kernel
  let swept := desk.afterAll .bare a [.message "c" (.text "what?") 8, .sweep 12]
  have again : swept.Continues .bare a "c" (.text "what?") 16 := by decide +kernel
  have keeps : KeepsWriting .bare a "c" desk session.updated
      [.message "c" (.text "what?") 8, .sweep 12, .message "c" (.text "what?") 16] := by
    rw [written]
    refine .writes (by decide) continues ?_ (.aside rfl (.writes (by decide) again ?_ .nil))
    · intro other found
      cases alive.symm.trans found
      exact heard session stands
    · intro other found
      refine heard other ?_
      have waits : (swept.live 16 "c").map Session.step = some "awaiting_intent" := by decide +kernel
      have found : swept.live 16 "c" = some other := found
      rw [found] at waits
      exact Option.some.inj waits
  have chronological : desk.Chronological .bare a 8
      [.message "c" (.text "what?") 8, .sweep 12, .message "c" (.text "what?") 16] := by
    simp only [Chronological, and_true]
    decide +kernel
  obtain ⟨renews, lasts⟩ := activity_renews built .bare 10 1000 _ "c" 8 session alive
  exact ⟨built, (renews _ 8 rfl continues).1 (heard session stands),
    lasts _ chronological keeps [.message "c" (.text "what?") 8, .sweep 12] _ 16 [] rfl⟩

/-- A text that is no image lets a conversation run out at the built-in flow's request for one, though the
chat writes twice within each timeout. -/
theorem activity_unrenewed :
    let a : Assistant := ⟨.builtin, defaultMessages, none, true, 3, 20⟩
    let desk := (Desk.new ⟨300 * Store.second, Store.calendarEnd, []⟩).afterAll .bare a
      [.message "c" (.text "hi") 0, .message "c" (.text "add") 1,
       .message "c" (.text "Name: Lamp\nPrice: 5\nStock: 1") 2]
    let late : Time := 200 * Store.second
    (desk.live late "c").isSome = true ∧
      desk.Continues .bare a "c" (.text "wait") late ∧
      ¬(desk.process .bare a "c" (.text "wait") late).2.1.IsWrittenAt "c" late ∧
      (desk.process .bare a "c" (.text "wait") late).2.1.live (2 * late) "c" = none := by
  intro a desk late
  have updated : ((desk.process .bare a "c" (.text "wait") late).2.1.store.sessions.get? "c").map
      Session.updated = some 2 := by decide +kernel
  have gone : ((desk.process .bare a "c" (.text "wait") late).2.1.live (2 * late) "c").isNone = true := by
    decide +kernel
  refine ⟨by decide +kernel, by decide +kernel, ?_, Option.isNone_iff_eq_none.mp gone⟩
  rintro ⟨session, stored, written, -⟩
  rw [stored] at updated
  have two : session.updated = 2 := Option.some.inj updated
  rw [two] at written
  exact absurd written (by decide)

end Desk

end Storekeeper
