import Storekeeper.Dialogue.Desk
import Storekeeper.Proofs.Dialogue.Response
import Storekeeper.Proofs.Session.Live

/-!
# What happens at a desk

Messages come in and sweeps are made, each in a state of the world that tells the time and how the
catalog will answer.  `Desk.afterAll` is the desk after any number of these events; what is said of it
for every list of events is said of every reachable desk, with the time passing in any way between
the events.

* `Desk.process_ends` says how a message's turn ends: `Store.Ends` has one constructor for a turn that
  fails, for one whose session cannot be stored, and for one that is carried out.
* `Desk.afterAll_filed`: at every reachable desk each session is filed under its own chat.
* `Desk.afterAll_holds`: what every answer keeps of a context holds of every context that is stored.
-/

namespace Storekeeper

open Assistant

/-- Something that happens at a desk, with the state of the world in which it begins. -/
inductive Event (σ : Type) where
  | message (chat : String) (content : Inbound) (s : σ)
  | sweep (s : σ)

/-- A world whose state is the time: no product is listed, and any may be
created. -/
def World.bare : World Time where
  listProducts := fun _ now => (.ok [], now)
  createProduct := fun product now =>
    (.ok ⟨1, product.name, "", "", product.regularPrice, product.regularPrice, "instock", none,
      "publish", "", product.sku⟩, now)
  identifier := fun now => ("SKU", now)
  now := id

namespace Desk

variable {σ : Type}

/-- The desk after an event. -/
def after (world : World σ) (a : Assistant) (desk : Desk) : Event σ → Desk
  | .message chat content s => (desk.process world a chat content s).2.1
  | .sweep s => (desk.sweep (world.now s)).2

/-- The desk after events, one after the other. -/
def afterAll (world : World σ) (a : Assistant) (desk : Desk) (events : List (Event σ)) : Desk :=
  events.foldl (after world a) desk

theorem afterAll_append (world : World σ) (a : Assistant) (desk : Desk)
    (first second : List (Event σ)) :
    desk.afterAll world a (first ++ second) = (desk.afterAll world a first).afterAll world a second :=
  List.foldl_append

theorem afterAll_concat (world : World σ) (a : Assistant) (desk : Desk) (events : List (Event σ))
    (event : Event σ) :
    desk.afterAll world a (events ++ [event]) = (desk.afterAll world a events).after world a event :=
  afterAll_append world a desk events [event]

/-- What one event keeps holds after any events. -/
theorem afterAll_keeps {world : World σ} {a : Assistant} {Holds : Desk → Prop}
    (keeps : ∀ desk event, Holds desk → Holds (desk.after world a event)) {desk : Desk}
    (start : Holds desk) (events : List (Event σ)) : Holds (desk.afterAll world a events) := by
  induction events generalizing desk with
  | nil => exact start
  | cons event events ih => exact ih (keeps desk event start)

/-- The session of a chat that a turn finds. -/
def live (desk : Desk) (now : Time) (chat : String) : Option Session :=
  desk.store.live now chat

/-- The session that a turn opens if it is to begin a conversation. -/
def opening (a : Assistant) (desk : Desk) (now : Time) (chat : String) : Except Failure Session :=
  (desk.store.get now chat).2.create now chat a.flow.initialStep

/-- The turn that answers a message. -/
def response (a : Assistant) (desk : Desk) (now : Time) (chat : String) (content : Inbound) :
    Turn Decision :=
  a.respond (desk.opening a now chat) (desk.live now chat) chat content

/-- The deeds of the turn that answers a message. -/
def deeds (world : World σ) (a : Assistant) (desk : Desk) (chat : String) (content : Inbound)
    (s : σ) : List Deed :=
  (desk.response a (world.now s) chat content).deeds world.toSurroundings s

/-- The decision to which the turn that answers a message comes. -/
def decision (world : World σ) (a : Assistant) (desk : Desk) (chat : String) (content : Inbound)
    (s : σ) : Except Failure Decision :=
  (desk.response a (world.now s) chat content).outcome world.toSurroundings s

/-- The time at which the turn that answers a message is over. -/
def finished (world : World σ) (a : Assistant) (desk : Desk) (chat : String) (content : Inbound)
    (s : σ) : Time :=
  world.now ((desk.response a (world.now s) chat content).final world.toSurroundings s)

end Desk

/-- The ways in which a turn ends: from its decision, the reply and the store afterwards. -/
inductive Store.Ends (taken : Store) (finished : Time) :
    Except Failure Decision → Except Failure Reply → Store → Prop
  | failed (failure : Failure) : Ends taken finished (.error failure) (.error failure) taken
  | unstored {decision : Decision} {failure : Failure} :
    taken.commit finished decision.write = .error failure →
    Ends taken finished (.ok decision) (.error failure) taken
  | carriedOut {decision : Decision} {store : Store} :
    taken.commit finished decision.write = .ok store →
    Ends taken finished (.ok decision) (.ok decision.reply) store

namespace Desk

section Process

variable {σ : Type} (world : World σ) (a : Assistant) (desk : Desk) (chat : String)
  (content : Inbound) (s : σ)

/-- The turn that answers a message: how it ends, what is written down, and when it is over. -/
theorem process_spec :
    (desk.store.get (world.now s) chat).2.Ends (desk.finished world a chat content s)
      (desk.decision world a chat content s) (desk.process world a chat content s).1
      (desk.process world a chat content s).2.1.store ∧
    (desk.process world a chat content s).2.1.toLedger =
      desk.toLedger.enter (desk.deeds world a chat content s) ∧
    world.now (desk.process world a chat content s).2.2 =
      desk.finished world a chat content s := by
  unfold decision finished deeds response opening live Store.live process turn Desk.begin
  simp only [Turn.run_eq]
  generalize Turn.outcome world.toSurroundings _ s = out
  cases out with
  | error failure => exact ⟨.failed failure, rfl, rfl⟩
  | ok decision =>
    simp only [Except.bind, finish]
    generalize committing : Store.commit _ _ decision.write = committed
    cases committed with
    | error failure => exact ⟨.unstored committing, rfl, rfl⟩
    | ok store => exact ⟨.carriedOut committing, rfl, rfl⟩

theorem process_ends :
    (desk.store.get (world.now s) chat).2.Ends (desk.finished world a chat content s)
      (desk.decision world a chat content s) (desk.process world a chat content s).1
      (desk.process world a chat content s).2.1.store :=
  (process_spec world a desk chat content s).1

theorem process_ledger :
    (desk.process world a chat content s).2.1.toLedger =
      desk.toLedger.enter (desk.deeds world a chat content s) :=
  (process_spec world a desk chat content s).2.1

theorem process_alarms :
    (desk.process world a chat content s).2.1.alarms =
      desk.alarms ++ (desk.deeds world a chat content s).filterMap Deed.alarm? := by
  rw [← Ledger.enter_alarms, ← process_ledger]

/-- A turn is one of the listed courses of a response. -/
theorem process_answers :
    a.Answers (desk.opening a (world.now s) chat) chat (desk.live (world.now s) chat) content
      (desk.deeds world a chat content s) (desk.decision world a chat content s) :=
  respond_cases (Turn.goes_deeds world.toSurroundings _ s)

end Process

end Desk

/-- The session that is kept, if a decision is come to and keeps one. -/
def keptBy : Except Failure Decision → Option Session
  | .ok ⟨_, .keep session⟩ => some session
  | _ => none

/-- Whether a decision is come to and leaves the store as it is. -/
def leavesStore : Except Failure Decision → Bool
  | .ok ⟨_, .leave⟩ => true
  | _ => false

/-- Every answer to a session whose context has the property keeps a session whose context has it, and
so does every answer that begins with a new session. -/
def Assistant.Retains (a : Assistant) (Keeps : Table Json → Prop) : Prop :=
  ∀ ⦃opened chat session? content deeds out session⦄,
    a.Answers opened chat session? content deeds out →
    (∀ session, session? = some session → Keeps session.context) →
    (∀ session, opened = .ok session → session.context = []) →
    keptBy out = some session → Keeps session.context

/-! ## Each chat has its own session -/

/-- The write is about a chat. -/
def Write.Concerns (chat : String) : Write → Prop
  | .keep session => session.chat = chat
  | .drop other => other = chat
  | .leave => True

namespace Store

variable {store after : Store} {now : Time}

theorem commit_keep {session : Session} (done : store.commit now (.keep session) = .ok after) :
    now + store.timeout ≤ store.horizon ∧
      after = { store with
        sessions := store.sessions.put session.chat
          { session with updated := now, expires := now + store.timeout } } := by
  change (store.set now session.chat session).map Prod.snd = .ok after at done
  cases setting : store.set now session.chat session with
  | error failure =>
    rw [setting] at done
    cases done
  | ok result =>
    obtain ⟨stored, kept⟩ := result
    rw [setting] at done
    cases done
    obtain ⟨room, rfl, rfl⟩ := set_ok setting
    exact ⟨room, rfl⟩

/-- A write fails only if a session is to be kept beyond the horizon. -/
theorem commit_error {write : Write} {failure : Failure}
    (failed : store.commit now write = .error failure) :
    failure = .outOfRange ∧ (∃ session, write = .keep session) ∧
      store.horizon < now + store.timeout := by
  cases write with
  | keep session =>
    change (store.set now session.chat session).map Prod.snd = .error failure at failed
    cases setting : store.set now session.chat session with
    | error other =>
      rw [setting] at failed
      cases failed
      exact ⟨(set_error setting).1, ⟨session, rfl⟩, (set_error setting).2⟩
    | ok result =>
      rw [setting] at failed
      cases failed
  | drop chat => cases failed
  | leave => cases failed

theorem commit_timeout {write : Write} (done : store.commit now write = .ok after) :
    after.timeout = store.timeout ∧ after.horizon = store.horizon := by
  cases write with
  | keep session =>
    obtain ⟨-, rfl⟩ := commit_keep done
    exact ⟨rfl, rfl⟩
  | drop chat => cases done; exact ⟨rfl, rfl⟩
  | leave => cases done; exact ⟨rfl, rfl⟩

theorem commit_of_ne {write : Write} {chat other : String}
    (done : store.commit now write = .ok after) (concerns : write.Concerns chat)
    (different : chat ≠ other) : after.sessions.get? other = store.sessions.get? other := by
  cases write with
  | keep session =>
    obtain ⟨-, rfl⟩ := commit_keep done
    have own : session.chat = chat := concerns
    rw [own]
    exact Table.get?_put_of_ne _ _ different
  | drop dropped =>
    cases done
    have own : dropped = chat := concerns
    rw [own]
    exact delete_of_ne store different
  | leave => cases done; rfl

theorem Filed.commit (filed : store.Filed) {write : Write}
    (done : store.commit now write = .ok after) : after.Filed := by
  cases write with
  | keep session =>
    obtain ⟨-, rfl⟩ := commit_keep done
    exact filed.put { session with updated := now, expires := now + store.timeout }
  | drop chat => cases done; exact filed.delete chat
  | leave => cases done; exact filed

end Store

namespace Store.Ends

variable {taken after : Store} {now : Time} {out : Except Failure Decision}
  {reply : Except Failure Reply}

theorem filed (ends : taken.Ends now out reply after) (filed : taken.Filed) : after.Filed := by
  cases ends with
  | failed failure => exact filed
  | unstored failed => exact filed
  | carriedOut done => exact filed.commit done

theorem timeout (ends : taken.Ends now out reply after) :
    after.timeout = taken.timeout ∧ after.horizon = taken.horizon := by
  cases ends with
  | failed failure => exact ⟨rfl, rfl⟩
  | unstored failed => exact ⟨rfl, rfl⟩
  | carriedOut done => exact commit_timeout done

/-- A decision about one chat leaves what is stored for another as it is. -/
theorem others {chat other : String} (ends : taken.Ends now out reply after)
    (concerns : ∀ decision, out = .ok decision → decision.write.Concerns chat)
    (different : chat ≠ other) : after.sessions.get? other = taken.sessions.get? other := by
  cases ends with
  | failed failure => rfl
  | unstored failed => rfl
  | @carriedOut decision store done => exact commit_of_ne done (concerns decision rfl) different

end Store.Ends

namespace Assistant

variable {a : Assistant} {opened : Except Failure Session} {chat name : String}
  {session? : Option Session} {content : Inbound} {arrival : Arrival} {deeds : List Deed}
  {out : Except Failure Decision} {decision : Decision}

theorem Enters.concerns {hops : Nat} (enters : a.Enters hops name arrival deeds out)
    (own : arrival.session.chat = chat) (decided : out = .ok decision) :
    decision.write.Concerns chat := by
  induction enters with
  | missing _ => cases decided; trivial
  | ended _ => cases decided; exact own
  | menu _ => cases decided; exact own
  | prompt _ _ => cases decided; exact own
  | limit _ => cases decided; exact own
  | failed _ _ => cases decided
  | onward _ _ _ ih => exact ih own decided

theorem Leads.own (leads : a.Leads opened session? content name arrival)
    (found : ∀ session, session? = some session → session.chat = chat)
    (opens : ∀ session, opened = .ok session → session.chat = chat) :
    arrival.session.chat = chat := by
  cases leads with
  | opened _ _ opening => exact opens _ opening
  | _ =>
    have own := found _ rfl
    exact own

/-- What is decided about a message is about its chat. -/
theorem Answers.concerns (answers : a.Answers opened chat session? content deeds (.ok decision))
    (found : ∀ session, session? = some session → session.chat = chat)
    (opens : ∀ session, opened = .ok session → session.chat = chat) :
    decision.write.Concerns chat := by
  rcases answers with settles | ⟨name, arrival, leads, enters⟩
  · cases settles with
    | noTrigger _ => trivial
    | unmatched _ _ => trivial
    | unknownStep _ => rfl
    | toMenu _ _ _ =>
      have own := found _ rfl
      exact own
    | toStep _ _ _ =>
      have own := found _ rfl
      exact own
    | nowhere _ _ _ => trivial
    | noTransition _ _ _ => trivial
    | noRecovery _ _ _ =>
      have own := found _ rfl
      exact own
    | misplaced _ => trivial
    | incomplete _ _ _ _ =>
      have own := found _ rfl
      exact own
    | unskipped _ _ _ => trivial
  · exact enters.concerns (leads.own found opens) rfl

end Assistant

namespace Desk

variable {σ : Type} {world : World σ} {a : Assistant} {desk : Desk} {chat : String}
  {content : Inbound} {s : σ}

theorem opening_own {now : Time} {session : Session}
    (opens : desk.opening a now chat = .ok session) : session.chat = chat := by
  rw [Store.create_ok opens]

/-- What is decided about a message is about its chat, where each chat has its own session. -/
theorem response_concerns {now : Time} {deeds : List Deed} {decision : Decision}
    (filed : desk.store.Filed)
    (course : (desk.response a now chat content).Goes deeds (.ok decision)) :
    decision.write.Concerns chat :=
  (respond_cases course).concerns (fun _ found => filed.own (Store.stored_of_live found))
    (fun _ opens => opening_own opens)

theorem decision_concerns {decision : Decision} (filed : desk.store.Filed)
    (decided : desk.decision world a chat content s = .ok decision) :
    decision.write.Concerns chat := by
  have course := Turn.goes_deeds world.toSurroundings (desk.response a (world.now s) chat content) s
  have same : Turn.outcome world.toSurroundings _ s = .ok decision := decided
  rw [same] at course
  exact response_concerns filed course

theorem process_filed (filed : desk.store.Filed) :
    (desk.process world a chat content s).2.1.store.Filed :=
  (process_ends world a desk chat content s).filed (filed.get (world.now s) chat)

theorem process_timeout : (desk.process world a chat content s).2.1.store.timeout = desk.store.timeout ∧
    (desk.process world a chat content s).2.1.store.horizon = desk.store.horizon := by
  have taken := Store.get_timeout desk.store (world.now s) chat
  obtain ⟨timeout, horizon⟩ := (process_ends world a desk chat content s).timeout
  exact ⟨timeout.trans taken.1, horizon.trans taken.2⟩

/-- A turn fails if it comes to no decision, or if its session is to be stored with an expiry beyond
the horizon. -/
theorem process_error {failure : Failure} :
    (desk.process world a chat content s).1 = .error failure ↔
      desk.decision world a chat content s = .error failure ∨
      (failure = .outOfRange ∧
        (∃ reply session, desk.decision world a chat content s = .ok ⟨reply, .keep session⟩) ∧
        desk.store.horizon < desk.finished world a chat content s + desk.store.timeout) := by
  obtain ⟨timeout, horizon⟩ := Store.get_timeout desk.store (world.now s) chat
  have ends := process_ends world a desk chat content s
  generalize desk.decision world a chat content s = out at ends ⊢
  generalize (desk.process world a chat content s).1 = reply at ends ⊢
  generalize (desk.process world a chat content s).2.1.store = store at ends
  cases ends with
  | failed other => simp
  | @unstored decision other failed =>
    obtain ⟨rfl, ⟨session, kept⟩, beyond⟩ := Store.commit_error failed
    obtain ⟨reply, write⟩ := decision
    cases kept
    rw [timeout, horizon] at beyond
    simp [beyond, eq_comm]
  | @carriedOut decision store done =>
    simp only [reduceCtorEq, false_or, false_iff, not_and, Nat.not_lt]
    rintro - ⟨reply, session, ⟨⟩⟩
    obtain ⟨room, -⟩ := Store.commit_keep done
    rw [timeout, horizon] at room
    exact room

/-- A reply is part of the decision to which its turn has come. -/
theorem decision_of_reply {reply : Reply}
    (replied : (desk.process world a chat content s).1 = .ok reply) :
    ∃ write, desk.decision world a chat content s = .ok ⟨reply, write⟩ := by
  have ends := process_ends world a desk chat content s
  rw [replied] at ends
  generalize desk.decision world a chat content s = out at ends ⊢
  generalize (desk.process world a chat content s).2.1.store = store at ends
  cases ends with
  | @carriedOut decision store done => exact ⟨decision.write, rfl⟩

/-- A turn that leaves the store as it is replies, and has only taken the chat's session. -/
theorem process_of_leave {reply : Reply}
    (left : desk.decision world a chat content s = .ok ⟨reply, .leave⟩) :
    (desk.process world a chat content s).1 = .ok reply ∧
      (desk.process world a chat content s).2.1.store = (desk.store.get (world.now s) chat).2 := by
  have ends := process_ends world a desk chat content s
  rw [left] at ends
  generalize (desk.process world a chat content s).1 = replied at ends ⊢
  generalize (desk.process world a chat content s).2.1.store = store at ends ⊢
  cases ends with
  | unstored failed => cases failed
  | carriedOut done => cases done; exact ⟨rfl, rfl⟩

/-- A turn that removes the session of its chat replies, and none is stored. -/
theorem process_of_drop {reply : Reply}
    (dropped : desk.decision world a chat content s = .ok ⟨reply, .drop chat⟩) :
    (desk.process world a chat content s).1 = .ok reply ∧
      (desk.process world a chat content s).2.1.store.sessions.get? chat = none := by
  have ends := process_ends world a desk chat content s
  rw [dropped] at ends
  generalize (desk.process world a chat content s).1 = replied at ends ⊢
  generalize (desk.process world a chat content s).2.1.store = store at ends ⊢
  cases ends with
  | unstored failed => cases failed
  | carriedOut done => cases done; exact ⟨rfl, Store.delete_self _ chat⟩

/-- A failing turn leaves the store that it has taken the chat's session from. -/
theorem process_store_of_error {failure : Failure}
    (failed : (desk.process world a chat content s).1 = .error failure) :
    (desk.process world a chat content s).2.1.store = (desk.store.get (world.now s) chat).2 := by
  have ends := process_ends world a desk chat content s
  generalize desk.decision world a chat content s = out at ends
  generalize (desk.process world a chat content s).2.1.store = store at ends ⊢
  rw [failed] at ends
  cases ends with
  | failed failure => rfl
  | unstored unstored => rfl

/-- A turn that fails changes nothing that can be seen from then on. -/
theorem live_of_error {failure : Failure} {later : Time} {other : String}
    (failed : (desk.process world a chat content s).1 = .error failure)
    (after : world.now s ≤ later) :
    (desk.process world a chat content s).2.1.live later other = desk.live later other := by
  unfold live
  rw [process_store_of_error failed]
  exact Store.live_get after

/-- A turn of one chat leaves what is stored for another as it is. -/
theorem process_others {other : String} (filed : desk.store.Filed) (different : chat ≠ other) :
    (desk.process world a chat content s).2.1.store.sessions.get? other =
      desk.store.sessions.get? other := by
  have ends := process_ends world a desk chat content s
  have kept := ends.others (fun _ decided => decision_concerns filed decided) different
  exact kept.trans (Store.get_of_ne desk.store (world.now s) different)

/-- Where the stored session of a chat comes from after a turn of this chat: it was live, and the turn
fails or leaves the store as it is, or it is the session that the turn keeps. -/
theorem process_stored (filed : desk.store.Filed) {session : Session}
    (found : (desk.process world a chat content s).2.1.store.sessions.get? chat = some session) :
    (desk.live (world.now s) chat = some session ∧
      ∃ failure, (desk.process world a chat content s).1 = .error failure) ∨
    (desk.live (world.now s) chat = some session ∧
      ∃ reply, (desk.process world a chat content s).1 = .ok reply ∧
        desk.decision world a chat content s = .ok ⟨reply, .leave⟩) ∨
    ∃ reply kept, (desk.process world a chat content s).1 = .ok reply ∧
      desk.decision world a chat content s = .ok ⟨reply, .keep kept⟩ ∧
      session = { kept with
        updated := desk.finished world a chat content s
        expires := desk.finished world a chat content s + desk.store.timeout } := by
  obtain ⟨timeout, -⟩ := Store.get_timeout desk.store (world.now s) chat
  have ends := process_ends world a desk chat content s
  have concerns : ∀ decision, desk.decision world a chat content s = .ok decision →
      decision.write.Concerns chat := fun _ decided => decision_concerns filed decided
  generalize desk.decision world a chat content s = out at ends concerns ⊢
  generalize (desk.process world a chat content s).1 = reply at ends ⊢
  generalize (desk.process world a chat content s).2.1.store = store at ends found
  cases ends with
  | failed failure => exact .inl ⟨Store.live_of_get found, failure, rfl⟩
  | unstored failed => exact .inl ⟨Store.live_of_get found, _, rfl⟩
  | @carriedOut decision store done =>
    obtain ⟨reply, write⟩ := decision
    cases write with
    | keep kept =>
      obtain ⟨-, rfl⟩ := Store.commit_keep done
      have own : kept.chat = chat := concerns _ rfl
      rw [own, Table.get?_put_self] at found
      cases found
      rw [timeout]
      exact .inr (.inr ⟨reply, kept, rfl, rfl, by rw [← own]⟩)
    | drop dropped =>
      cases done
      have own : dropped = chat := concerns _ rfl
      rw [own, Store.delete_self] at found
      cases found
    | leave =>
      cases done
      exact .inr (.inl ⟨Store.live_of_get found, reply, rfl, rfl⟩)

theorem after_filed (filed : desk.store.Filed) (event : Event σ) :
    (desk.after world a event).store.Filed := by
  cases event with
  | message chat content s => exact process_filed filed
  | sweep s => exact filed.sweep (world.now s)

theorem afterAll_filed (filed : desk.store.Filed) (events : List (Event σ)) :
    (desk.afterAll world a events).store.Filed := by
  have keeps : ∀ (desk : Desk) (event : Event σ), desk.store.Filed →
      (desk.after world a event).store.Filed := fun _ event filed => after_filed filed event
  exact afterAll_keeps keeps filed events

/-! ## What is stored -/

/-- Each context that is stored has the property. -/
def Holds (desk : Desk) (Keeps : Table Json → Prop) : Prop :=
  ∀ chat session, desk.store.sessions.get? chat = some session → Keeps session.context

theorem opening_context {now : Time} {session : Session}
    (opens : desk.opening a now chat = .ok session) : session.context = [] := by
  rw [Store.create_ok opens]

section Holds

variable {Keeps : Table Json → Prop}

theorem Holds.new (timeout horizon : Time) : (Desk.new ⟨timeout, horizon, []⟩).Holds Keeps := by
  intro chat session found
  cases found

theorem Holds.live (holds : desk.Holds Keeps) (now : Time) (chat : String) :
    ∀ session, desk.live now chat = some session → Keeps session.context :=
  fun session found => holds chat session (Store.stored_of_live found)

theorem process_holds (retains : a.Retains Keeps) (filed : desk.store.Filed)
    (holds : desk.Holds Keeps) (chat : String) (content : Inbound) (s : σ) :
    (desk.process world a chat content s).2.1.Holds Keeps := by
  intro other session found
  by_cases same : chat = other
  · subst same
    rcases process_stored filed found with
      ⟨alive, -⟩ | ⟨alive, -⟩ | ⟨reply, kept, -, decided, rfl⟩
    · exact holds.live (world.now s) chat session alive
    · exact holds.live (world.now s) chat session alive
    · have keeps : Keeps kept.context :=
        retains (process_answers world a desk chat content s) (holds.live (world.now s) chat)
          (fun _ opens => opening_context opens) (by rw [decided]; rfl)
      exact keeps
  · rw [process_others filed same] at found
    exact holds other session found

/-- What every answer keeps of a context holds of every context that is stored after any events. -/
theorem afterAll_holds (retains : a.Retains Keeps) (filed : desk.store.Filed)
    (holds : desk.Holds Keeps) (events : List (Event σ)) :
    (desk.afterAll world a events).Holds Keeps := by
  have keeps : ∀ (desk : Desk) (event : Event σ), desk.store.Filed ∧ desk.Holds Keeps →
      (desk.after world a event).store.Filed ∧ (desk.after world a event).Holds Keeps := by
    rintro desk event ⟨filed, holds⟩
    refine ⟨after_filed filed event, ?_⟩
    cases event with
    | message chat content s => exact process_holds retains filed holds chat content s
    | sweep s => exact fun chat session found => holds chat session (Store.stored_of_sweep filed.distinct found)
  exact (afterAll_keeps keeps ⟨filed, holds⟩ events).2

end Holds

theorem after_timeout (world : World σ) (a : Assistant) (desk : Desk) (event : Event σ) :
    (desk.after world a event).store.timeout = desk.store.timeout ∧
      (desk.after world a event).store.horizon = desk.store.horizon := by
  cases event with
  | message chat content s => exact process_timeout
  | sweep s => exact ⟨rfl, rfl⟩

theorem afterAll_timeout (world : World σ) (a : Assistant) (desk : Desk) (events : List (Event σ)) :
    (desk.afterAll world a events).store.timeout = desk.store.timeout ∧
      (desk.afterAll world a events).store.horizon = desk.store.horizon := by
  induction events generalizing desk with
  | nil => exact ⟨rfl, rfl⟩
  | cons event events ih =>
    obtain ⟨timeout, horizon⟩ := after_timeout world a desk event
    obtain ⟨timeouts, horizons⟩ := ih (desk.after world a event)
    exact ⟨timeouts.trans timeout, horizons.trans horizon⟩

end Desk

end Storekeeper
