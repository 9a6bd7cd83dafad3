import Storekeeper.Server.Console
import Storekeeper.Proofs.Dialogue.Event
import Storekeeper.Proofs.Json.Reading
import Storekeeper.Proofs.Notification.Document
import Storekeeper.Proofs.Product.Staging

/-!
# What becomes of a notification

Every body that is posted to the server is answered with success, and the answer says what has become of it.
`Service.Receives` lists the possibilities; they exclude each other.  Only a notification of a message is
answered by a turn, and all others leave the service as it is.

* `Desk.process_notWebhook`, `Host.deliver_notWebhook`: neither a turn nor a sending fails as a body does
  that is no notification, so that no answer is mistaken for another.
* `Server.webhook_classified` is the result for every body, in every state of a service.
-/

namespace Storekeeper

/-! ## Failures that are not about the body -/

/-- The failure of a body that is no notification. -/
def Failure.isWebhook : Failure → Bool
  | webhook _ _ => true
  | _ => false

theorem Acknowledgement.ofOutcome_error {failure : Failure} (other : failure.isWebhook = false) :
    ofOutcome (.error failure) = .failed := by
  cases failure with
  | webhook _ _ => cases other
  | _ => rfl

theorem StagedProduct.ofContext_error {held? : Option Json} {failure : Failure}
    (failed : StagedProduct.ofContext held? = .error failure) : failure.isWebhook = false := by
  unfold ofContext at failed
  split at failed
  · split at failed
    · cases failed
    · cases failed
      rfl
  · cases failed

theorem StagedImage.ofContext_error {held? : Option Json} {failure : Failure}
    (failed : StagedImage.ofContext held? = .error failure) : failure.isWebhook = false := by
  unfold ofContext at failed
  split at failed
  · split at failed
    · cases failed
    · split at failed
      · cases failed
      · cases failed
        rfl
  · cases failed

namespace Assistant

variable {a : Assistant} {opened : Except Failure Session} {chat name : String} {hops : Nat}
  {session? : Option Session} {content : Inbound} {arrival : Arrival} {deeds : List Deed}
  {failure : Failure}

theorem Acts.notWebhook {context : Table Json} {action : Action}
    (acts : a.Acts context action deeds (.error failure)) : failure.isWebhook = false := by
  cases acts with
  | adds adds =>
    cases adds with
    | unreadable failed => exact StagedProduct.ofContext_error failed
    | imageUnreadable _ _ _ _ failed => exact StagedImage.ofContext_error failed

theorem Enters.notWebhook (enters : a.Enters hops name arrival deeds (.error failure)) :
    failure.isWebhook = false := by
  generalize outcome : Except.error failure = out at enters
  induction enters with
  | failed _ acts =>
    cases outcome
    exact acts.notWebhook
  | onward _ _ _ ih => exact ih outcome
  | _ => cases outcome

theorem Answers.notWebhook (answers : a.Answers opened chat session? content deeds (.error failure))
    (opens : ∀ other, opened = .error other → other.isWebhook = false) :
    failure.isWebhook = false := by
  rcases answers with settles | ⟨name, arrival, -, enters⟩
  · cases settles with
    | unopened _ _ unopened => exact opens _ unopened
    | unreadable _ failed => exact StagedProduct.ofContext_error failed
    | unmerged _ _ failed => rw [(mergeFields_error.mp failed).1]; rfl
  · exact enters.notWebhook

end Assistant

/-- A turn does not fail as a body does that is no notification, whatever is stored. -/
theorem Desk.process_notWebhook {σ : Type} {world : World σ} {a : Assistant} {desk : Desk}
    {chat : String} {content : Inbound} {s : σ} {failure : Failure}
    (failed : (desk.process world a chat content s).1 = .error failure) :
    failure.isWebhook = false := by
  rcases process_error.mp failed with undecided | ⟨rfl, -, -⟩
  · have answers := process_answers world a desk chat content s
    rw [undecided] at answers
    exact answers.notWebhook fun other unopened => by rw [(Store.create_error unopened).1]; rfl
  · rfl

namespace Gateway

variable {σ : Type} {gateway : Gateway} {kind : MessageKind} {failure : Failure}

theorem conclude_notWebhook {result : Guarded}
    (failed : (gateway.conclude kind result).1 = .error failure) : failure.isWebhook = false := by
  unfold conclude at failed
  split at failed
  · cases failed
    rfl
  · split at failed
    · cases failed
      rfl
    · cases failed
      rfl
  · unfold understand at failed
    split at failed
    · cases failed
      rfl
    · split at failed
      · cases failed
        rfl
      · cases failed
      · cases failed
        rfl

end Gateway

namespace Sender

variable {σ : Type} {network : Network σ} {sender : Sender} {chat : String} {s : σ} {failure : Failure}

theorem sendText_notWebhook {text : String}
    (failed : (sender.sendText network chat text s).1 = .error failure) :
    failure.isWebhook = false := by
  cases sender with
  | gateway gateway => exact Gateway.conclude_notWebhook failed
  | notebook notebook => cases failed

theorem sendMenu_notWebhook {menu : Menu}
    (failed : (sender.sendMenu network chat menu s).1 = .error failure) :
    failure.isWebhook = false := by
  cases sender with
  | gateway gateway => exact Gateway.conclude_notWebhook failed
  | notebook notebook => cases failed

end Sender

namespace Host

variable {σ : Type} {host : Host σ} {chat : String} {state : Links × σ} {failure : Failure}

theorem sendBy_error {send : Sender → σ → Except Failure Json × Sender × σ}
    (failed : (sendBy send state).1 = .error failure) :
    (send state.1.sender state.2).1 = .error failure := by
  obtain ⟨links, s⟩ := state
  change ((send links.sender s).1.map fun _ => ()) = .error failure at failed
  cases sent : (send links.sender s).1 with
  | error other =>
    rw [sent] at failed
    cases failed
    rfl
  | ok id =>
    rw [sent] at failed
    cases failed

theorem sendText_notWebhook {text : String}
    (failed : (host.outlet.sendText chat text state).1 = .error failure) :
    failure.isWebhook = false :=
  Sender.sendText_notWebhook (sendBy_error failed)

theorem sendMenu_notWebhook {menu : Menu}
    (failed : (host.outlet.sendMenu chat menu state).1 = .error failure) :
    failure.isWebhook = false :=
  Sender.sendMenu_notWebhook (sendBy_error failed)

theorem sendGiven_notWebhook {text : Option String}
    (failed : (host.outlet.sendGiven chat text state).1 = .error failure) :
    failure.isWebhook = false := by
  unfold Outlet.sendGiven at failed
  split at failed
  · exact sendText_notWebhook failed
  · cases failed

/-- Nor does a sending fail as a body does that is no notification, whatever answers from afar. -/
theorem deliver_notWebhook {reply : Reply}
    (failed : (host.outlet.deliver chat reply state).1 = .error failure) :
    failure.isWebhook = false := by
  unfold Outlet.deliver at failed
  split at failed
  · rename_i first _ before
    have same : first = failure := Except.error.inj failed
    rw [← same]
    exact sendGiven_notWebhook (congrArg Prod.fst before)
  · split at failed
    · exact sendMenu_notWebhook failed
    · exact sendGiven_notWebhook failed

end Host

/-! ## What becomes of a body -/

/-- The answer that a body could not be dealt with, and why. -/
def Json.refusal (error : String) : Json :=
  .obj [("ok", .bool false), ("error", .str error)]

/-- The answer that a notification has been dealt with, and what has been done. -/
def Json.receipt (handled : Bool) (action : String) : Json :=
  .obj [("ok", .bool true), ("handled", .bool handled), ("action", .str action)]

/-- The document of a notification that a message has come in. -/
structure Json.Notifies (value : Json) : Prop where
  fits : Notification.form.Fits value
  incoming : value.textAt? ["typeWebhook"] = some "incomingMessageReceived"

/-- A body notifies that a message has come in from a chat, and this is the message. -/
structure Conveys (body : Text.Bytes) (chat : String) (message : Inbound) : Prop where
  written : ∃ value, Json.readBody body = .ok value ∧ value.Notifies ∧
    value.textAt? ["senderData", "chatId"] = some chat ∧ value.Tells message

/-- What is read from a document that has the form of a notification. -/
theorem exists_read {value : Json} (fits : Notification.form.Fits value) :
    ∃ n, Notification.read value = .ok n ∧ n.Told value := by
  obtain ⟨n, valid⟩ := (Notification.read_takes.fits value).mpr fits
  exact ⟨n, valid, Notification.read_told valid⟩

/-- A body conveys the message that the notification read from it carries, from its chat. -/
theorem conveys_of_read {body : Text.Bytes} {value : Json} {n : Notification} {message : Inbound}
    (written : Json.readBody body = .ok value) (valid : Notification.read value = .ok n)
    (kind : n.kind = Notification.incoming) (carries : n.data.Carries message) :
    Conveys body n.author.chatId message := by
  have told := Notification.read_told valid
  have fits := (Notification.read_takes.fits value).mp ⟨n, valid⟩
  exact ⟨value, written, ⟨fits, told.kind.trans (congrArg some kind)⟩, told.chat, told.tells_iff.mpr carries⟩

namespace Service

variable {σ : Type}

/-- What becomes of a body: the answer, the service and its host afterwards. -/
inductive Receives (host : Host σ) (service : Service) (body : Text.Bytes) (s : σ) :
    Json → Service → σ → Prop
  /-- It writes no JSON value. -/
  | unreadable {error : Json.ReadError} : Json.readBody body = .error error →
    Receives host service body s (.refusal "Invalid JSON") service s
  /-- The value has not the form of a notification, and this is the place where something is wrong first. -/
  | invalid {value : Json} {path : List Place} : Json.readBody body = .ok value →
    Notification.form.Offends value path →
    Receives host service body s (.obj [("ok", .bool false), ("error", .str "Invalid payload"),
      ("field", .str (Place.fieldName path))]) service s
  /-- The notification is not about a message that came in. -/
  | ignoredKind {value : Json} : Json.readBody body = .ok value → Notification.form.Fits value →
    value.textAt? ["typeWebhook"] ≠ some "incomingMessageReceived" →
    Receives host service body s (.receipt false "ignored_webhook_type") service s
  /-- The notification tells neither of a text nor of an image, or of an empty one. -/
  | ignoredContent {value : Json} : Json.readBody body = .ok value → value.Notifies →
    (∀ message, ¬value.Tells message) →
    Receives host service body s (.receipt false "ignored_unsupported") service s
  /-- The turn of the message fails. -/
  | failed {chat : String} {message : Inbound} {failure : Failure} {desk : Desk} {links : Links}
    {t : σ} : Conveys body chat message →
    service.desk.process host.world service.assistant chat message (service.links, s) =
      (.error failure, desk, links, t) →
    Receives host service body s (.refusal "Processing failed") { service with desk, links } t
  /-- The turn does not handle the message. -/
  | unhandled {chat : String} {message : Inbound} {reply : Reply} {desk : Desk} {links : Links}
    {t : σ} : Conveys body chat message →
    service.desk.process host.world service.assistant chat message (service.links, s) =
      (.ok reply, desk, links, t) →
    reply.handled = false →
    Receives host service body s (.receipt false "flow_processed") { service with desk, links } t
  /-- The turn replies, and the reply cannot be sent. -/
  | unsent {chat : String} {message : Inbound} {reply : Reply} {desk : Desk} {links after : Links}
    {t u : σ} {failure : Failure} : Conveys body chat message →
    service.desk.process host.world service.assistant chat message (service.links, s) =
      (.ok reply, desk, links, t) →
    reply.handled = true → host.outlet.deliver chat reply (links, t) = (.error failure, after, u) →
    Receives host service body s (.refusal "Processing failed")
      { service with desk, links := after } u
  /-- The turn replies, and the reply is sent. -/
  | sent {chat : String} {message : Inbound} {reply : Reply} {desk : Desk} {links after : Links}
    {t u : σ} : Conveys body chat message →
    service.desk.process host.world service.assistant chat message (service.links, s) =
      (.ok reply, desk, links, t) →
    reply.handled = true → host.outlet.deliver chat reply (links, t) = (.ok (), after, u) →
    Receives host service body s (.receipt true "flow_processed")
      { service with desk, links := after } u

variable {host : Host σ} {service : Service} {body : Text.Bytes} {s : σ}

/-- A message that a body conveys is answered by one turn. -/
theorem receive_of_conveys {chat : String} {message : Inbound} (conveys : Conveys body chat message) :
    service.receive host body s =
      let (outcome, desk, links, t) := service.desk.converse host.world host.outlet service.assistant
        chat message (service.links, s)
      (.ofOutcome outcome, { service with desk, links }, t) := by
  obtain ⟨value, read, notifies, sender, tells⟩ := conveys.written
  obtain ⟨n, valid, told⟩ := exists_read notifies.fits
  have kind : n.kind = Notification.incoming := Option.some.inj (told.kind.symm.trans notifies.incoming)
  obtain rfl : n.author.chatId = chat := Option.some.inj (told.chat.symm.trans sender)
  have carried : n.message? = some message := MessageData.message?_eq_some.mpr (told.tells_iff.mp tells)
  simp only [receive, Desk.receive, read, Desk.handle, Notification.parse, valid, kind, if_true, carried]

section Possibilities

variable {value : Json} {chat : String} {message : Inbound} {reply : Reply} {failure : Failure} {desk : Desk}
  {links after : Links} {t u : σ}

theorem receive_unreadable {error : Json.ReadError} (read : Json.readBody body = .error error) :
    service.receive host body s = (.unreadable, service, s) := by
  simp only [receive, Desk.receive, read]

theorem receive_invalid {path : List Place} (read : Json.readBody body = .ok value)
    (offends : Notification.form.Offends value path) :
    service.receive host body s = (.invalid (Place.fieldName path), service, s) := by
  obtain ⟨_, text, failed, named⟩ := notNotification_offends offends
  simp only [receive, Desk.receive, read, Desk.handle, Notification.parse, failed, named,
    Acknowledgement.ofOutcome]

theorem receive_ignoredKind (read : Json.readBody body = .ok value) (fits : Notification.form.Fits value)
    (other : value.textAt? ["typeWebhook"] ≠ some "incomingMessageReceived") :
    service.receive host body s = (.accepted .ignoredKind, service, s) := by
  obtain ⟨n, valid, told⟩ := exists_read fits
  have kind : n.kind ≠ Notification.incoming := fun same => other (told.kind.trans (congrArg some same))
  simp only [receive, Desk.receive, read, Desk.handle, Notification.parse, valid, kind, if_false,
    Acknowledgement.ofOutcome]

theorem receive_ignoredContent (read : Json.readBody body = .ok value) (notifies : value.Notifies)
    (empty : ∀ message, ¬value.Tells message) :
    service.receive host body s = (.accepted .ignoredContent, service, s) := by
  obtain ⟨n, valid, told⟩ := exists_read notifies.fits
  have kind : n.kind = Notification.incoming := Option.some.inj (told.kind.symm.trans notifies.incoming)
  have carried : n.message? = none := MessageData.message?_eq_none.mpr fun message carries =>
    empty message (told.tells_iff.mpr carries)
  simp only [receive, Desk.receive, read, Desk.handle, Notification.parse, valid, kind, if_true, carried,
    Acknowledgement.ofOutcome]

theorem receive_failed (conveys : Conveys body chat message)
    (turn : service.desk.process host.world service.assistant chat message (service.links, s) =
      (.error failure, desk, links, t)) :
    service.receive host body s = (.failed, { service with desk, links }, t) := by
  have other : failure.isWebhook = false := Desk.process_notWebhook (congrArg Prod.fst turn)
  rw [receive_of_conveys conveys]
  simp only [Desk.converse, turn, Acknowledgement.ofOutcome_error other]

theorem receive_unhandled (conveys : Conveys body chat message)
    (turn : service.desk.process host.world service.assistant chat message (service.links, s) =
      (.ok reply, desk, links, t)) (handled : reply.handled = false) :
    service.receive host body s = (.accepted (.processed false), { service with desk, links }, t) := by
  rw [receive_of_conveys conveys]
  simp only [Desk.converse, turn, handled, Bool.false_eq_true, if_false, Acknowledgement.ofOutcome]

theorem receive_unsent (conveys : Conveys body chat message)
    (turn : service.desk.process host.world service.assistant chat message (service.links, s) =
      (.ok reply, desk, links, t)) (handled : reply.handled = true)
    (sending : host.outlet.deliver chat reply (links, t) = (.error failure, after, u)) :
    service.receive host body s = (.failed, { service with desk, links := after }, u) := by
  have other : failure.isWebhook = false := Host.deliver_notWebhook (congrArg Prod.fst sending)
  rw [receive_of_conveys conveys]
  simp only [Desk.converse, turn, handled, if_true, sending, Acknowledgement.ofOutcome_error other]

theorem receive_sent (conveys : Conveys body chat message)
    (turn : service.desk.process host.world service.assistant chat message (service.links, s) =
      (.ok reply, desk, links, t)) (handled : reply.handled = true)
    (sending : host.outlet.deliver chat reply (links, t) = (.ok (), after, u)) :
    service.receive host body s =
      (.accepted (.processed true), { service with desk, links := after }, u) := by
  rw [receive_of_conveys conveys]
  simp only [Desk.converse, turn, handled, if_true, sending, Acknowledgement.ofOutcome]

end Possibilities

/-- What becomes of a body that conveys a message is one of the possibilities. -/
theorem receives_of_conveys {chat : String} {message : Inbound}
    (conveys : Conveys body chat message) :
    service.Receives host body s (service.receive host body s).1.toJson
      (service.receive host body s).2.1 (service.receive host body s).2.2 := by
  rcases turn : service.desk.process host.world service.assistant chat message (service.links, s) with
    ⟨failure | reply, desk, links, t⟩
  · rw [receive_failed conveys turn]
    exact .failed conveys turn
  · cases handled : reply.handled with
    | false =>
      rw [receive_unhandled conveys turn handled]
      exact .unhandled conveys turn handled
    | true =>
      rcases sending : host.outlet.deliver chat reply (links, t) with ⟨failure | ⟨⟩, after, u⟩
      · rw [receive_unsent conveys turn handled sending]
        exact .unsent conveys turn handled sending
      · rw [receive_sent conveys turn handled sending]
        exact .sent conveys turn handled sending

/-- What becomes of any body is one of the possibilities. -/
theorem receives (host : Host σ) (service : Service) (body : Text.Bytes) (s : σ) :
    service.Receives host body s (service.receive host body s).1.toJson
      (service.receive host body s).2.1 (service.receive host body s).2.2 := by
  cases read : Json.readBody body with
  | error error =>
    rw [receive_unreadable read]
    exact .unreadable read
  | ok value =>
    cases valid : Notification.read value with
    | flawed flaws =>
      obtain ⟨path, offends⟩ := exists_offends valid
      rw [receive_invalid read offends]
      exact .invalid read offends
    | ok n =>
      have fits := (Notification.read_takes.fits value).mp ⟨n, valid⟩
      have told := Notification.read_told valid
      by_cases kind : n.kind = Notification.incoming
      · cases carried : n.message? with
        | none =>
          have notifies : value.Notifies := ⟨fits, told.kind.trans (congrArg some kind)⟩
          have empty : ∀ message, ¬value.Tells message := fun message tells =>
            MessageData.message?_eq_none.mp carried message (told.tells_iff.mp tells)
          rw [receive_ignoredContent read notifies empty]
          exact .ignoredContent read notifies empty
        | some message =>
          have carries := MessageData.message?_eq_some.mp carried
          exact receives_of_conveys (conveys_of_read read valid kind carries)
      · have other : value.textAt? ["typeWebhook"] ≠ some "incomingMessageReceived" := by
          rw [told.kind]
          exact fun same => kind (Option.some.inj same)
        rw [receive_ignoredKind read fits other]
        exact .ignoredKind read fits other

variable {answer : Json} {after : Service} {t : σ}

/-- A body that conveys no message leaves the service and its host as they are. -/
theorem Receives.unchanged (receives : service.Receives host body s answer after t)
    (nothing : ∀ chat message, ¬Conveys body chat message) : after = service ∧ t = s := by
  cases receives with
  | failed conveys _ => exact absurd conveys (nothing _ _)
  | unhandled conveys _ _ => exact absurd conveys (nothing _ _)
  | unsent conveys _ _ _ => exact absurd conveys (nothing _ _)
  | sent conveys _ _ _ => exact absurd conveys (nothing _ _)
  | _ => exact ⟨rfl, rfl⟩

end Service

end Storekeeper
