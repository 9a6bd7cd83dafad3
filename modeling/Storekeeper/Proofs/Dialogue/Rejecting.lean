import Storekeeper.Proofs.Dialogue.Chaining

/-!
# Messages that are rejected

Every step that waits for an answer has messages with which it can do nothing: it says so, and the conversation
stays where it is.  Such a message leaves no trace that a later answer could show.  At a menu it is stored that
the conversation has just been written, and nothing else changes; so the sessions of two runs, one with such
messages and one without, differ in their dates at most.

* `Assistant.Rejects` lists these messages, each with its reply.
* `Assistant.respond_datedAs`: an answer to a session takes nothing from its dates but the dates that it keeps.
* `Desk.Twins.heard`: where the sessions of a chat differ in their dates at most, and both or neither is alive, a
  message is answered alike and leaves them so.
* `Desk.Abridges` compares a run with one that lacks rejected messages, and `Desk.Abridges.twins` carries the
  comparison through both.
-/

namespace Storekeeper

/-! ## Dates -/

/-- Two sessions differ in their dates at most. -/
structure Session.Twin (session other : Session) : Prop where
  chat : other.chat = session.chat
  step : other.step = session.step
  context : other.context = session.context

/-- The session with the dates of another. -/
def Session.datedAs (session dates : Session) : Session :=
  { session with created := dates.created, updated := dates.updated, expires := dates.expires }

/-- The write with the dates of another session. -/
def Write.datedAs (dates : Session) : Write → Write
  | .keep session => .keep (session.datedAs dates)
  | write => write

/-- The decision with the dates of another session. -/
def Decision.datedAs (dates : Session) (decision : Decision) : Decision :=
  { decision with write := decision.write.datedAs dates }

/-- Two writes differ in the dates of a session at most. -/
inductive Write.Twin : Write → Write → Prop
  | keep {session other : Session} : session.Twin other → Twin (.keep session) (.keep other)
  | drop (chat : String) : Twin (.drop chat) (.drop chat)
  | leave : Twin .leave .leave

namespace Session.Twin

variable {session other third : Session}

theorem refl (session : Session) : session.Twin session :=
  ⟨rfl, rfl, rfl⟩

theorem symm (twin : session.Twin other) : other.Twin session :=
  ⟨twin.chat.symm, twin.step.symm, twin.context.symm⟩

theorem trans (twin : session.Twin other) (next : other.Twin third) : session.Twin third :=
  ⟨next.chat.trans twin.chat, next.step.trans twin.step, next.context.trans twin.context⟩

/-- A twin is the session with other dates. -/
theorem eq (twin : session.Twin other) : other = session.datedAs other := by
  obtain ⟨chat, step, context, created, updated, expires⟩ := other
  obtain ⟨rfl, rfl, rfl⟩ := twin
  rfl

end Session.Twin

theorem Write.Twin.refl (write : Write) : write.Twin write := by
  cases write with
  | keep session => exact .keep (.refl session)
  | drop chat => exact .drop chat
  | leave => exact .leave

theorem Write.twin_datedAs (write : Write) (dates : Session) : write.Twin (write.datedAs dates) := by
  cases write with
  | keep session => exact .keep ⟨rfl, rfl, rfl⟩
  | drop chat => exact .drop chat
  | leave => exact .leave

namespace Turn

variable {α β σ : Type} (world : Surroundings σ) (s : σ)

/-- A value that is only changed at the end of a turn makes no difference on the way. -/
theorem deeds_map (f : α → β) (turn : Turn α) : (f <$> turn).deeds world s = turn.deeds world s := by
  induction turn generalizing s with
  | done value => rfl
  | fail failure => rfl
  | list limit next ih => exact congrArg (Deed.listed limit _ :: ·) (ih _ _)
  | create product next ih => exact congrArg (Deed.created product _ :: ·) (ih _ _)
  | identify next ih => exact congrArg (Deed.identified _ :: ·) (ih _ _)
  | note run next ih => exact congrArg (Deed.counted run :: ·) (ih s)
  | warn alarm next ih => exact congrArg (Deed.warned alarm :: ·) (ih s)

theorem run_map (f : α → β) (turn : Turn α) :
    (f <$> turn).outcome world s = (turn.outcome world s).map f ∧
      (f <$> turn).final world s = turn.final world s := by
  cases came : turn.outcome world s with
  | ok value => exact bind_of_ok came _
  | error failure => exact bind_of_error came _

end Turn

namespace Assistant

variable {a : Assistant} {opened : Except Failure Session} {chat : String} {session other : Session}
  {message : Inbound} {reply : Reply}

/-- Entering a step takes nothing from the dates of a session but what it keeps. -/
theorem enterWithin_datedAs (dates : Session) (hops : Nat) (name : String) (arrival : Arrival) :
    a.enterWithin hops name { arrival with session := arrival.session.datedAs dates } =
      Decision.datedAs dates <$> a.enterWithin hops name arrival := by
  -- Only an action leads on, with one hop less.
  induction hops using Nat.strongRecOn generalizing name arrival with
  | ind hops ih =>
    unfold enterWithin
    cases found : a.flow.step? name with
    | none => rfl
    | some step =>
      cases step with
      | action step =>
        cases hops with
        | zero => rfl
        | succ hops =>
          refine Eq.trans ?_ (Turn.bind_assoc (a.runAction step.action arrival.session.context) _ _).symm
          refine congrArg (a.runAction step.action arrival.session.context).bind (funext ?_)
          rintro ⟨context, text⟩
          exact ih hops (Nat.lt_succ_self hops) step.next (arrival.onward name context text)
      | _ => rfl

theorem enter_datedAs (dates session : Session) (name : String) (header before : Option String) :
    a.enter (session.datedAs dates) name header before =
      Decision.datedAs dates <$> a.enter session name header before :=
  enterWithin_datedAs dates a.maxHops.toNat name ⟨session, header, before⟩

/-- Cancelling takes nothing from the dates of a session but what it keeps. -/
theorem cancel_datedAs (dates session : Session) (key : String) :
    a.cancel (session.datedAs dates) key = Decision.datedAs dates <$> a.cancel session key := by
  unfold cancel
  cases a.flow.step? Flow.recoveryStep with
  | none => rfl
  | some recovery => exact enter_datedAs dates (session.forgetting key) _ _ _

theorem choice_datedAs (dates session : Session) (step : ChoiceStep) (message : Inbound) :
    a.atChoice (session.datedAs dates) step message =
      Decision.datedAs dates <$> a.atChoice session step message := by
  unfold atChoice
  cases step.meant? message with
  | none =>
    unfold atUnknownChoice
    rcases a.flow.step? step.invalidNext with _ | (_ | _ | _ | _ | _ | _) <;> rfl
  | some choice =>
    cases led : step.transitions.get? choice with
    | none => simp only [led]; rfl
    | some transition => simp only [led]; exact enter_datedAs dates session _ _ _

theorem productInput_datedAs (dates session : Session) (step : InputStep) (content : String) :
    a.atProductInput (session.datedAs dates) step content =
      Decision.datedAs dates <$> a.atProductInput session step content := by
  unfold atProductInput
  have same : (session.datedAs dates).context = session.context := rfl
  rw [same]
  cases StagedProduct.ofContext (session.context.get? productKey) with
  | error failure => rfl
  | ok existing =>
    change (Turn.ofExcept (mergeFields a.messages existing (parseFields content))).bind _ =
      Decision.datedAs dates <$>
        (Turn.ofExcept (mergeFields a.messages existing (parseFields content))).bind _
    cases mergeFields a.messages existing (parseFields content) with
    | error failure => rfl
    | ok merged =>
      change (if (merged.errors.isEmpty && merged.product.isComplete) = true then _ else _) =
        Decision.datedAs dates <$>
          (if (merged.errors.isEmpty && merged.product.isComplete) = true then _ else _)
      cases merged.errors.isEmpty && merged.product.isComplete with
      | true => exact enter_datedAs dates (session.keeping productKey merged.product.toContext) _ _ _
      | false => rfl

theorem input_datedAs (dates session : Session) (step : InputStep) (message : Inbound) :
    a.atInput (session.datedAs dates) step message =
      Decision.datedAs dates <$> a.atInput session step message := by
  unfold atInput
  cases message.isCancel with
  | true => exact cancel_datedAs dates session step.contextKey
  | false =>
    cases message with
    | image url mimeType => rfl
    | text content =>
      by_cases key : step.contextKey = productInputKey
      · simp only [key, if_true]
        exact productInput_datedAs dates session step content
      · simp only [key, if_false]
        exact enter_datedAs dates (session.keeping step.contextKey (.str content)) _ _ _

theorem image_datedAs (dates session : Session) (step : ImageStep) (message : Inbound) :
    a.atImage (session.datedAs dates) step message =
      Decision.datedAs dates <$> a.atImage session step message := by
  unfold atImage
  cases message.isCancel with
  | true => exact cancel_datedAs dates session step.contextKey
  | false =>
    cases message with
    | image url mimeType =>
      exact enter_datedAs dates
        (session.keeping step.contextKey (StagedImage.toContext ⟨url, mimeType⟩)) _ _ _
    | text content =>
      cases skips : step.isSkippedBy content with
      | false => simp only [skips]; rfl
      | true => simp only [skips, skipImage_eq]; exact enter_datedAs dates session _ _ _

/-- An answer to a session takes nothing from its dates but what it keeps; what a trigger opens does not
depend on the session at all. -/
theorem respond_datedAs (opened : Except Failure Session) (chat : String) (dates session : Session)
    (message : Inbound) (elsewhere : ∀ step, a.flow.step? session.step ≠ some (.trigger step)) :
    a.respond opened (some (session.datedAs dates)) chat message =
      Decision.datedAs dates <$> a.respond opened (some session) chat message := by
  have same : (session.datedAs dates).step = session.step := rfl
  unfold respond
  simp only [same]
  cases found : a.flow.step? session.step with
  | none => rfl
  | some step =>
    cases step with
    | trigger step => exact absurd found (elsewhere step)
    | choice step => exact choice_datedAs dates session step message
    | input step => exact input_datedAs dates session step message
    | image step => exact image_datedAs dates session step message
    | action step => exact enter_datedAs dates session _ _ _
    | terminal step => exact enter_datedAs dates session _ _ _

theorem respond_trigger {step : TriggerStep} (opened : Except Failure Session) (chat : String)
    (found : a.flow.step? session.step = some (.trigger step)) (message : Inbound) :
    a.respond opened (some session) chat message = a.atTrigger opened step message := by
  simp only [respond, found, atStep]

/-- Sessions that differ in their dates at most are answered by turns that differ in the dates of what is
kept at most. -/
theorem respond_twin (opened : Except Failure Session) (chat : String) (twin : session.Twin other)
    (message : Inbound) : ∃ redate : Decision → Decision,
      a.respond opened (some other) chat message =
        redate <$> a.respond opened (some session) chat message ∧
      ∀ decision, (redate decision).reply = decision.reply ∧
        decision.write.Twin (redate decision).write := by
  by_cases atTrigger : ∃ step, a.flow.step? session.step = some (.trigger step)
  · obtain ⟨step, found⟩ := atTrigger
    have found' : a.flow.step? other.step = some (.trigger step) := by rw [twin.step, found]
    refine ⟨id, ?_, fun decision => ⟨rfl, .refl decision.write⟩⟩
    rw [respond_trigger opened chat found, respond_trigger opened chat found']
    exact (Turn.bind_done _).symm
  · refine ⟨Decision.datedAs other, ?_, fun decision => ⟨rfl, decision.write.twin_datedAs other⟩⟩
    rw [twin.eq]
    exact respond_datedAs opened chat other session message fun step found => atTrigger ⟨step, found⟩

/-! ## Rejections -/

/-- The step at which a session stands can do nothing with a message and only says so. -/
inductive Rejects (a : Assistant) (session : Session) : Inbound → Reply → Prop
  /-- At a trigger, whatever does not start a conversation. -/
  | unmatched {step : TriggerStep} {message : Inbound} :
    a.flow.step? session.step = some (.trigger step) → ¬a.Starts message →
    Rejects a session message { handled := step.otherwiseHandled }
  /-- At a menu that is shown again, whatever means none of its choices. -/
  | unmeant {step : ChoiceStep} {message : Inbound} :
    a.flow.step? session.step = some (.choice step) → step.meant? message = none →
    step.invalidNext = session.step →
    Rejects a session message
      { handled := true, buttons := some (a.menu step (some (a.messages.get step.invalidMessage))) }
  /-- At a menu, a choice that leads nowhere. -/
  | noTransition {step : ChoiceStep} {message : Inbound} {choice : String} :
    a.flow.step? session.step = some (.choice step) → step.meant? message = some choice →
    step.transitions.get? choice = none →
    Rejects a session message { handled := true, response := some (a.messages.get step.invalidMessage) }
  /-- An image in answer to a question. -/
  | misplaced {step : InputStep} {url : String} {mimeType : Option String} :
    a.flow.step? session.step = some (.input step) →
    Rejects a session (.image url mimeType)
      { handled := true, response := some (a.messages.get step.message) }
  /-- A text in answer to a request for an image, unless it cancels or skips the request. -/
  | unskipped {step : ImageStep} {content : String} :
    a.flow.step? session.step = some (.image step) → (Inbound.text content).isCancel = false →
    step.isSkippedBy content = false →
    Rejects a session (.text content)
      { handled := true, response := some (a.messages.get "add_product_image_invalid") }

namespace Rejects

/-- What is rejected is a matter of the step alone. -/
theorem of_twin (rejects : a.Rejects session message reply) (twin : session.Twin other) :
    a.Rejects other message reply := by
  cases rejects with
  | unmatched found unmatched => exact .unmatched (twin.step ▸ found) unmatched
  | unmeant found unmeant again => exact .unmeant (twin.step ▸ found) unmeant (twin.step ▸ again)
  | noTransition found meant nowhere => exact .noTransition (twin.step ▸ found) meant nowhere
  | misplaced found => exact .misplaced (twin.step ▸ found)
  | unskipped found goesOn unskipped => exact .unskipped (twin.step ▸ found) goesOn unskipped

/-- A message that is rejected has its reply, and the session is left or stored as it was; on the way an
alarm may be raised, and nothing else is done. -/
theorem decides {σ : Type} (rejects : a.Rejects session message reply)
    (opened : Except Failure Session) (chat : String) (world : Surroundings σ) (s : σ) :
    ∃ write, (write = .leave ∨ write = .keep session) ∧
      (a.respond opened (some session) chat message).outcome world s = .ok ⟨reply, write⟩ ∧
      errands ((a.respond opened (some session) chat message).deeds world s) = [] := by
  cases rejects with
  | unmatched found unmatched =>
    rw [respond_unmatched (.parked found) (isTriggered_eq_false.mpr unmatched)]
    exact ⟨.leave, .inl rfl, rfl, rfl⟩
  | unmeant found unmeant again =>
    simp only [respond, found, atStep, atChoice, unmeant, atUnknownChoice, again]
    exact ⟨.keep session, .inr rfl, rfl, rfl⟩
  | noTransition found meant nowhere =>
    simp only [respond, found, atStep, atChoice, meant, nowhere]
    exact ⟨.leave, .inl rfl, rfl, rfl⟩
  | misplaced found =>
    simp only [respond, found, atStep, atInput]
    exact ⟨.leave, .inl rfl, rfl, rfl⟩
  | unskipped found goesOn unskipped =>
    simp only [respond, found, atStep, atImage, goesOn, unskipped]
    exact ⟨.leave, .inl rfl, rfl, rfl⟩

end Rejects

end Assistant

/-- From stores that are set up alike and whose sessions of a chat differ in their dates at most, decisions
about the chat that differ in them at most end alike, and leave them so. -/
theorem Store.Ends.twin {store store' after after' : Store} {now : Time} {chat : String}
    {out : Except Failure Decision} {redate : Decision → Decision} {reply reply' : Except Failure Reply}
    (timeout : store.timeout = store'.timeout) (horizon : store.horizon = store'.horizon)
    (twins : ∀ session session', store.sessions.get? chat = some session →
      store'.sessions.get? chat = some session' → session.Twin session')
    (concerns : ∀ decision, out = .ok decision → decision.write.Concerns chat)
    (redates : ∀ decision, (redate decision).reply = decision.reply ∧
      decision.write.Twin (redate decision).write)
    (ends : store.Ends now out reply after) (ends' : store'.Ends now (out.map redate) reply' after') :
    reply = reply' ∧ ∀ session session', after.sessions.get? chat = some session →
      after'.sessions.get? chat = some session' → session.Twin session' := by
  cases ends with
  | failed failure =>
    cases ends'
    exact ⟨rfl, twins⟩
  | @unstored decision _ failed =>
    obtain ⟨rfl, ⟨session, kept⟩, beyond⟩ := commit_error failed
    obtain ⟨-, write⟩ := redates decision
    rw [kept] at write
    cases ends' with
    | unstored failed' =>
      rw [(commit_error failed').1]
      exact ⟨rfl, twins⟩
    | carriedOut done' =>
      generalize (redate decision).write = other at write done'
      cases write
      obtain ⟨room, -⟩ := commit_keep done'
      rw [timeout, horizon] at beyond
      exact absurd room (Nat.not_le_of_lt beyond)
  | @carriedOut decision _ done =>
    obtain ⟨reply, write⟩ := redates decision
    have own := concerns decision rfl
    cases ends' with
    | unstored failed' =>
      obtain ⟨-, ⟨session, kept⟩, beyond⟩ := commit_error failed'
      rw [kept] at write
      generalize decision.write = other at write done
      cases write
      obtain ⟨room, -⟩ := commit_keep done
      rw [timeout, horizon] at room
      exact absurd room (Nat.not_le_of_lt beyond)
    | carriedOut done' =>
      refine ⟨congrArg Except.ok reply.symm, ?_⟩
      generalize decision.write = one at write done own
      generalize (redate decision).write = other at write done'
      cases write with
      | @keep session other twin =>
        obtain ⟨-, rfl⟩ := commit_keep done
        obtain ⟨-, rfl⟩ := commit_keep done'
        have own : session.chat = chat := own
        rw [twin.chat, own, Table.get?_put_self, Table.get?_put_self]
        rintro _ _ ⟨⟩ ⟨⟩
        exact ⟨rfl, twin.step, twin.context⟩
      | drop dropped =>
        cases done
        have own : dropped = chat := own
        rw [own, delete_self]
        intro session session' found
        cases found
      | leave =>
        cases done
        cases done'
        exact twins

namespace Desk

variable {σ τ : Type} {world : World σ} {world' : World τ} {a : Assistant} {desk desk' : Desk}
  {chat : String} {content : Inbound} {s : σ} {session : Session} {reply : Reply}

/-- How the turn of a rejected message ends: it comes to its reply and to leave or to keep the session. -/
theorem decision_rejected (alive : desk.live (world.now s) chat = some session)
    (rejects : a.Rejects session content reply) :
    ∃ write, (write = .leave ∨ write = .keep session) ∧
      desk.decision world a chat content s = .ok ⟨reply, write⟩ ∧
      errands (desk.deeds world a chat content s) = [] := by
  unfold decision deeds response
  rw [alive]
  exact rejects.decides _ chat world.toSurroundings s

/-- The turn of a message comes to a reply, and fails only if its session cannot be stored. -/
structure Gives (world : World σ) (a : Assistant) (desk : Desk) (chat : String) (content : Inbound) (s : σ)
    (reply : Reply) : Prop where
  replies : ¬desk.Overruns world a chat content s → (desk.process world a chat content s).1 = .ok reply
  fails : desk.Overruns world a chat content s →
    (desk.process world a chat content s).1 = .error .outOfRange

theorem gives_of_decision {write : Write}
    (decided : desk.decision world a chat content s = .ok ⟨reply, write⟩) :
    desk.Gives world a chat content s reply := by
  have fails := fails_iff_overruns decided
  refine ⟨fun fits => ?_, fun overruns => (fails _).mpr ⟨rfl, overruns⟩⟩
  cases replied : (desk.process world a chat content s).1 with
  | error failure => exact absurd ((fails failure).mp replied).2 fits
  | ok other =>
    obtain ⟨_, same⟩ := decision_of_reply replied
    cases decided.symm.trans same
    rfl

/-- A rejected message leaves a session stored that differs from the one it found in its dates at most. -/
theorem stored_rejected (filed : desk.store.Filed)
    (alive : desk.live (world.now s) chat = some session) (rejects : a.Rejects session content reply) :
    ∃ twin, (desk.process world a chat content s).2.1.store.sessions.get? chat = some twin ∧
      session.Twin twin := by
  obtain ⟨write, writes, decided, -⟩ := decision_rejected alive rejects
  cases replied : (desk.process world a chat content s).1 with
  | error failure =>
    rw [process_store_of_error replied]
    exact ⟨session, Store.get_of_live alive, .refl session⟩
  | ok other =>
    obtain ⟨_, same⟩ := decision_of_reply replied
    cases decided.symm.trans same
    rcases writes with rfl | rfl
    · rw [(process_of_leave decided).2]
      exact ⟨session, Store.get_of_live alive, .refl session⟩
    · exact ⟨_, process_of_keep filed replied decided, ⟨rfl, rfl, rfl⟩⟩

/-! ## Runs with and without rejected messages -/

/-- Two desks, at each of which every chat has its own session, are set up alike, and what they have stored of
a chat differs in its dates at most. -/
structure Twins (chat : String) (desk desk' : Desk) : Prop where
  filed : desk.store.Filed
  filed' : desk'.store.Filed
  timeout : desk.store.timeout = desk'.store.timeout
  horizon : desk.store.horizon = desk'.store.horizon
  stored : ∀ session session', desk.store.sessions.get? chat = some session →
    desk'.store.sessions.get? chat = some session' → session.Twin session'

/-- One run of a chat is another without some messages that are rejected: the other messages are the same, are
sent to worlds that answer alike, and find both conversations alive or none.  Whatever else happens is left out
of account. -/
inductive Abridges (world : World σ) (world' : World τ) (a : Assistant) (chat : String) :
    Desk → List (Event σ) → Desk → List (Event τ) → Prop
  | nil {desk desk' : Desk} : Abridges world world' a chat desk [] desk' []
  | aside {desk desk' : Desk} {event : Event σ} {events : List (Event σ)} {events' : List (Event τ)} :
    event.isOf chat = false → Abridges world world' a chat (desk.after world a event) events desk' events' →
    Abridges world world' a chat desk (event :: events) desk' events'
  | aside' {desk desk' : Desk} {event : Event τ} {events : List (Event σ)} {events' : List (Event τ)} :
    event.isOf chat = false →
    Abridges world world' a chat desk events (desk'.after world' a event) events' →
    Abridges world world' a chat desk events desk' (event :: events')
  | rejected {desk desk' : Desk} {content : Inbound} {s : σ} {session : Session} {reply : Reply}
    {events : List (Event σ)} {events' : List (Event τ)} :
    desk.live (world.now s) chat = some session → a.Rejects session content reply →
    Abridges world world' a chat (desk.after world a (.message chat content s)) events desk' events' →
    Abridges world world' a chat desk (.message chat content s :: events) desk' events'
  | heard {desk desk' : Desk} {content : Inbound} {s : σ} {t : τ} {events : List (Event σ)}
    {events' : List (Event τ)} :
    world.Alike s world' t →
    (desk.live (world.now s) chat).isSome = (desk'.live (world'.now t) chat).isSome →
    Abridges world world' a chat (desk.after world a (.message chat content s)) events
      (desk'.after world' a (.message chat content t)) events' →
    Abridges world world' a chat desk (.message chat content s :: events) desk'
      (.message chat content t :: events')

/-- All that a chat writes in a run is rejected. -/
def Unheard (world : World σ) (a : Assistant) (chat : String) (desk : Desk) (events : List (Event σ)) : Prop :=
  Abridges world world a chat desk events desk []

namespace Twins

theorem refl (filed : desk.store.Filed) : Twins chat desk desk where
  filed := filed
  filed' := filed
  timeout := rfl
  horizon := rfl
  stored := fun session session' found found' => by
    cases found.symm.trans found'
    exact .refl session

theorem symm (twins : Twins chat desk desk') : Twins chat desk' desk :=
  ⟨twins.filed', twins.filed, twins.timeout.symm, twins.horizon.symm,
    fun session session' found found' => (twins.stored session' session found' found).symm⟩

/-- What is not a message of the chat does not tell the desks apart. -/
theorem aside (twins : Twins chat desk desk') {event : Event σ} (aside : event.isOf chat = false) :
    Twins chat (desk.after world a event) desk' := by
  obtain ⟨timeout, horizon⟩ := after_timeout world a desk event
  exact ⟨after_filed twins.filed event, twins.filed', timeout.trans twins.timeout,
    horizon.trans twins.horizon, fun session session' found =>
      twins.stored session session' (stored_of_aside twins.filed aside found)⟩

/-- A rejected message does not tell the desks apart. -/
theorem rejected (twins : Twins chat desk desk') (alive : desk.live (world.now s) chat = some session)
    (rejects : a.Rejects session content reply) :
    Twins chat (desk.after world a (.message chat content s)) desk' := by
  obtain ⟨timeout, horizon⟩ := after_timeout world a desk (.message chat content s)
  refine ⟨process_filed twins.filed, twins.filed', timeout.trans twins.timeout,
    horizon.trans twins.horizon, fun found session' stored stored' => ?_⟩
  obtain ⟨twin, kept, same⟩ := stored_rejected twins.filed alive rejects
  cases kept.symm.trans stored
  exact same.symm.trans (twins.stored session session' (Store.stored_of_live alive) stored')

/-- The desks answer a message by turns that differ in the dates of what is kept at most. -/
theorem asks (twins : Twins chat desk desk') {now : Time} (content : Inbound)
    (both : (desk.live now chat).isSome = (desk'.live now chat).isSome) :
    ∃ redate : Decision → Decision,
      desk'.response a now chat content = redate <$> desk.response a now chat content ∧
      ∀ decision, (redate decision).reply = decision.reply ∧
        decision.write.Twin (redate decision).write := by
  unfold response
  have opening : desk'.opening a now chat = desk.opening a now chat :=
    opening_congr twins.timeout.symm twins.horizon.symm
  rw [opening]
  cases alive : desk.live now chat with
  | none =>
    rw [alive] at both
    have none' : desk'.live now chat = none := by simpa using both.symm
    rw [none']
    exact ⟨id, (Turn.bind_done _).symm, fun decision => ⟨rfl, .refl decision.write⟩⟩
  | some session =>
    rw [alive] at both
    obtain ⟨session', alive'⟩ := Option.isSome_iff_exists.mp both.symm
    rw [alive']
    exact Assistant.respond_twin _ chat
      (twins.stored session session' (Store.stored_of_live alive) (Store.stored_of_live alive')) content

/-- A message that finds both conversations alive, or none, is answered alike, after the same deeds, and does
not tell the desks apart. -/
theorem heard {t : τ} (twins : Twins chat desk desk') (content : Inbound) (alike : world.Alike s world' t)
    (both : (desk.live (world.now s) chat).isSome = (desk'.live (world'.now t) chat).isSome) :
    desk.deeds world a chat content s = desk'.deeds world' a chat content t ∧
      (desk.process world a chat content s).1 = (desk'.process world' a chat content t).1 ∧
      Twins chat (desk.after world a (.message chat content s))
        (desk'.after world' a (.message chat content t)) := by
  rw [← alike.now] at both
  obtain ⟨redate, turns, redates⟩ := twins.asks (a := a) content both
  obtain ⟨deeds, outcome, time⟩ := alike (desk.response a (world.now s) chat content)
  rw [alike.now] at turns
  obtain ⟨mapped, ended⟩ := Turn.run_map world'.toSurroundings t redate
    (desk.response a (world.now s) chat content)
  have decided : desk'.decision world' a chat content t =
      (desk.decision world a chat content s).map redate := by
    unfold decision
    rw [turns, outcome, ← alike.now, mapped]
  have finished : desk'.finished world' a chat content t = desk.finished world a chat content s := by
    unfold Desk.finished
    rw [turns, time, ← alike.now, ended]
  have did : desk.deeds world a chat content s = desk'.deeds world' a chat content t := by
    unfold Desk.deeds
    rw [turns, deeds, ← alike.now, Turn.deeds_map]
  obtain ⟨timeout, horizon⟩ := Store.get_timeout desk.store (world.now s) chat
  obtain ⟨timeout', horizon'⟩ := Store.get_timeout desk'.store (world'.now t) chat
  have ends := process_ends world a desk chat content s
  have ends' := process_ends world' a desk' chat content t
  rw [decided, finished] at ends'
  obtain ⟨replies, stored⟩ := ends.twin (timeout.trans (twins.timeout.trans timeout'.symm))
    (horizon.trans (twins.horizon.trans horizon'.symm))
    (fun session session' found found' =>
      twins.stored session session' (Store.stored_of_get found) (Store.stored_of_get found'))
    (fun _ decided => decision_concerns twins.filed decided) redates ends'
  refine ⟨did, replies, process_filed twins.filed, process_filed twins.filed', ?_, ?_, stored⟩
  · exact process_timeout.1.trans (twins.timeout.trans process_timeout.1.symm)
  · exact process_timeout.2.trans (twins.horizon.trans process_timeout.2.symm)

end Twins

/-- A run and the same run without rejected messages do not come to differ in more than dates. -/
theorem Abridges.twins {events : List (Event σ)} {events' : List (Event τ)}
    (abridges : Abridges world world' a chat desk events desk' events') (twins : Twins chat desk desk') :
    Twins chat (desk.afterAll world a events) (desk'.afterAll world' a events') := by
  induction abridges with
  | nil => exact twins
  | aside aside _ ih => exact ih (twins.aside aside)
  | aside' aside _ ih => exact ih (twins.symm.aside aside).symm
  | rejected alive rejects _ ih => exact ih (twins.rejected alive rejects)
  | heard alike both _ ih => exact ih (twins.heard _ alike both).2.2

/-- **Rejected messages are void.**  After any events at a new desk, over any flow, a message that the step of a
live session rejects has its reply and does nothing else, and leaves a session stored that differs from the one
before in its dates at most.  The turn fails only if that session cannot be stored.  However many messages of
the chat have then been rejected, the same message has the same reply, as long as the conversation is alive; and
however the conversation goes on, every later message is answered, after the same deeds, as in the run without
the rejected messages, if the conversations of both runs are alive or neither is. -/
theorem rejections_void (a : Assistant) (world : World σ) (world' : World τ) (timeout horizon : Time)
    (events : List (Event σ)) (chat : String) (content : Inbound) (s : σ) :
    let desk := (Desk.new ⟨timeout, horizon, []⟩).afterAll world a events
    let next := desk.after world a (.message chat content s)
    ∀ session reply, desk.live (world.now s) chat = some session → a.Rejects session content reply →
      errands (desk.deeds world a chat content s) = [] ∧
      desk.Gives world a chat content s reply ∧
      (∃ twin, next.store.sessions.get? chat = some twin ∧ session.Twin twin) ∧
      (∀ more again, next.Unheard world a chat more →
        (∃ found, (next.afterAll world a more).live (world.now again) chat = some found) →
        (next.afterAll world a more).Gives world a chat content again reply) ∧
      ∀ more less, Abridges world world' a chat next more desk less →
        ∀ content s t, world.Alike s world' t →
          ((next.afterAll world a more).live (world.now s) chat).isSome =
            ((desk.afterAll world' a less).live (world'.now t) chat).isSome →
          (next.afterAll world a more).deeds world a chat content s =
              (desk.afterAll world' a less).deeds world' a chat content t ∧
            ((next.afterAll world a more).process world a chat content s).1 =
              ((desk.afterAll world' a less).process world' a chat content t).1 := by
  intro desk next session reply alive rejects
  have filed : desk.store.Filed := afterAll_filed (.empty timeout horizon) events
  obtain ⟨write, -, decided, idle⟩ := decision_rejected alive rejects
  obtain ⟨twin, stored, same⟩ := stored_rejected filed alive rejects
  refine ⟨idle, gives_of_decision decided, ⟨twin, stored, same⟩, ?_, ?_⟩
  · rintro more again unheard ⟨found, alive'⟩
    have twins : Twins chat (next.afterAll world a more) next :=
      Abridges.twins unheard (.refl (process_filed filed))
    have kept : twin.Twin found :=
      (twins.stored found twin (Store.stored_of_live alive') stored).symm
    obtain ⟨write, -, decided, -⟩ := decision_rejected alive' (rejects.of_twin (same.trans kept))
    exact gives_of_decision decided
  · intro more less abridges content s t alike both
    have twins := abridges.twins ((Twins.refl filed).rejected alive rejects)
    obtain ⟨deeds, replies, -⟩ := twins.heard content alike both
    exact ⟨deeds, replies⟩

/-- A word that no choice of the menu is meant by may be said any number of times, and the menu is then answered
as if it had not been said. -/
theorem rejections_void_menu :
    let a : Assistant := ⟨.builtin, defaultMessages, none, true, 3, 20⟩
    let desk := (Desk.new ⟨10, 1000, []⟩).afterAll .bare a [.message "c" (.text "hi") 0]
    let next := desk.after .bare a (.message "c" (.text "what?") 1)
    let later := next.afterAll .bare a [.message "d" (.text "hi") 2, .message "c" (.text "huh?") 3]
    (later.process .bare a "c" (.text "what?") 4).1 = (desk.process .bare a "c" (.text "what?") 1).1 ∧
      (later.process .bare a "c" (.text "add") 5).1 = (desk.process .bare a "c" (.text "add") 5).1 := by
  intro a desk next later
  obtain ⟨menu, found, again, what, huh⟩ : ∃ menu,
      a.flow.step? "awaiting_intent" = some (.choice menu) ∧ menu.invalidNext = "awaiting_intent" ∧
        menu.meant? (.text "what?") = none ∧ menu.meant? (.text "huh?") = none :=
    ⟨_, rfl, rfl, by decide +kernel, by decide +kernel⟩
  obtain ⟨session, alive, stands⟩ : ∃ session, desk.live (World.bare.now 1) "c" = some session ∧
      session.step = "awaiting_intent" := Option.map_eq_some_iff.mp (by decide +kernel)
  obtain ⟨twin, alive', stands'⟩ : ∃ twin,
      (next.after .bare a (.message "d" (.text "hi") 2)).live (World.bare.now 3) "c" = some twin ∧
        twin.step = "awaiting_intent" := Option.map_eq_some_iff.mp (by decide +kernel)
  have unheard : ∀ other, Abridges .bare .bare a "c" next
      [.message "d" (.text "hi") 2, .message "c" (.text "huh?") 3] other ([] : List (Event Time)) :=
    fun other => .aside rfl (.rejected alive' (.unmeant (stands' ▸ found) huh (stands' ▸ again)) .nil)
  obtain ⟨-, first, -, repeated, abridged⟩ := rejections_void a .bare .bare 10 1000 _ "c"
    (.text "what?") 1 session _ alive (.unmeant (stands ▸ found) what (stands ▸ again))
  have same := repeated _ 4 (unheard next) (Option.isSome_iff_exists.mp (by decide +kernel))
  have fits : ∀ {desk : Desk} {s : Time},
      ¬desk.store.horizon < desk.finished .bare a "c" (.text "what?") s + desk.store.timeout →
      ¬desk.Overruns .bare a "c" (.text "what?") s := fun room overruns => room overruns.beyond
  refine ⟨?_, (abridged _ [] (unheard desk) (.text "add") 5 5 (.refl .bare 5) (by decide +kernel)).2⟩
  rw [first.replies (fits (by decide +kernel))]
  exact same.replies (fits (by decide +kernel))

/-- Sessions live for five thousand years, and after three thousand five hundred of them a word that no choice
of the menu is meant by is not answered any more. -/
theorem rejections_overrun_menu :
    let a : Assistant := ⟨.builtin, defaultMessages, none, true, 8, 10⟩
    let desk := (Desk.new ⟨157680000000 * Store.second, Store.calendarEnd, []⟩).afterAll .bare a
      [.message "c" (.text "hi") 0]
    let next := desk.after .bare a (.message "c" (.text "what?") 1)
    let late : Time := 110376000000 * Store.second
    (desk.process .bare a "c" (.text "what?") 1).1.isOk = true ∧
      (next.live late "c").map Session.step = some "awaiting_intent" ∧
      (next.process .bare a "c" (.text "what?") late).1.isOk = false := by
  decide +kernel

end Desk

end Storekeeper
