import Storekeeper.Message.Sender
import Storekeeper.Proofs.Json.Reading

/-!
# How sending a message ends

A message is sent by one call to the provider, and what comes of the call decides how sending ends.  A sending should
end well only with a response of success that holds an object, and fail as a sending in any other way.

* `Gateway.Ends` lists the ways in which sendings end, and `Gateway.conclude_ends` says that there are no others.
* `Gateway.Promised` is how a sending should end, and `Gateway.Overlooked` are the results with which it does not.
* `Gateway.sendings_end` puts both together for texts and menus.
-/

namespace Storekeeper.Gateway

/-- A status of success. -/
def IsSuccess (status : Int) : Prop :=
  200 ≤ status ∧ status < 300

/-- How a sending ends after what has come of its call. -/
inductive Ends : Guarded → Except Failure Json → Prop
  | refused : Ends .refused (.error (.sender "Network error sending message" none))
  | lost {cause : NetworkFault} (transport : cause.isTransport = true) :
    Ends (.sent (.fault cause)) (.error (.sender "Network error sending message" none))
  | raised {cause : NetworkFault} (other : cause.isTransport = false) :
    Ends (.sent (.fault cause)) (.error (.raised cause))
  | rejected {status : Int} {body : Text.Bytes} (above : 400 ≤ status) :
    Ends (.sent (.response status body))
      (.error (.sender ("Green API error: " ++ toString status) (some status)))
  | unreadable {status : Int} {body : Text.Bytes} {error : Json.ReadError} (below : status < 400)
    (read : Json.readBody body = .error error) :
    Ends (.sent (.response status body)) (.error (.sender "Green API returned an invalid response" none))
  | shapeless {status : Int} {body : Text.Bytes} {value : Json} (below : status < 400)
    (read : Json.readBody body = .ok value) (other : ∀ members, value ≠ .obj members) :
    Ends (.sent (.response status body)) (.error .noSuchMember)
  | accepted {status : Int} {body : Text.Bytes} {members : Table Json} (below : status < 400)
    (read : Json.readBody body = .ok (.obj members)) :
    Ends (.sent (.response status body)) (.ok (Json.getD members "idMessage"))

/-- The call was answered with success and an object. -/
inductive IsDelivered : Guarded → Prop
  | answered {status : Int} {body : Text.Bytes} {members : Table Json} (success : IsSuccess status)
    (read : Json.readBody body = .ok (.obj members)) : IsDelivered (.sent (.response status body))

/-- How a sending should end: well if it was delivered, and otherwise as a failure to send, which carries the status if
the provider has answered without success. -/
inductive Promised (result : Guarded) : Except Failure Json → Prop
  | delivered (delivered : IsDelivered result) (id : Json) : Promised result (.ok id)
  | failed (undelivered : ¬IsDelivered result) {text : String} {told : Option Int}
    (tells : ∀ status body, result = .sent (.response status body) → ¬IsSuccess status → told = some status) :
    Promised result (.error (.sender text told))

/-- What a sending does not end as it should with: a response below 400 that is no success or holds a value of another
kind, or a fault that does not lie in sending. -/
inductive Overlooked : Guarded → Prop
  | unsuccessful {status : Int} {body : Text.Bytes} (below : status < 400) (other : ¬IsSuccess status) :
    Overlooked (.sent (.response status body))
  | shapeless {status : Int} {body : Text.Bytes} {value : Json} (below : status < 400)
    (read : Json.readBody body = .ok value) (other : ∀ members, value ≠ .obj members) :
    Overlooked (.sent (.response status body))
  | raised {cause : NetworkFault} (other : cause.isTransport = false) : Overlooked (.sent (.fault cause))

variable {σ : Type} {result : Guarded} {answer : Except Failure Json}

/-- A response ends a sending in one of the ways. -/
theorem understand_ends (gateway : Gateway) (kind : MessageKind) (status : Int) (body : Text.Bytes) :
    Ends (.sent (.response status body)) (gateway.understand kind status body).1 := by
  unfold understand
  split
  case isTrue above => exact .rejected above
  case isFalse within =>
    have below : status < 400 := Int.not_le.mp within
    split
    case h_1 error read => exact .unreadable below read
    case h_2 members read => exact .accepted below read
    case h_3 value other read => exact .shapeless below read other

/-- Every sending ends in one of the ways. -/
theorem conclude_ends (gateway : Gateway) (kind : MessageKind) (result : Guarded) :
    Ends result (gateway.conclude kind result).1 := by
  cases result with
  | refused => exact .refused
  | sent outcome =>
    cases outcome with
    | response status body => exact understand_ends gateway kind status body
    | fault cause =>
      unfold conclude
      dsimp only
      split
      case isTrue transport => exact .lost transport
      case isFalse other => exact .raised (Bool.eq_false_iff.mpr other)

/-- What is overlooked ends otherwise than it should. -/
theorem Ends.unpromised (ends : Ends result answer) (overlooked : Overlooked result) : ¬Promised result answer := by
  intro promised
  cases overlooked with
  | unsuccessful below other =>
    cases promised with
    | delivered delivered =>
      cases delivered with
      | answered success => exact other success
    | failed _ tells =>
      have told := tells _ _ rfl other
      cases ends with
      | rejected above => exact absurd below (Int.not_lt.mpr above)
      | unreadable => cases told
  | shapeless below read other =>
    cases ends with
    | rejected above => exact absurd below (Int.not_lt.mpr above)
    | unreadable _ unread => cases read.symm.trans unread
    | accepted _ object =>
      cases read.symm.trans object
      exact other _ rfl
    | shapeless => cases promised
  | raised other =>
    cases ends with
    | lost transport => cases other.symm.trans transport
    | raised => cases promised

/-- What is not overlooked ends as it should. -/
theorem Ends.promised (ends : Ends result answer) (noticed : ¬Overlooked result) : Promised result answer := by
  cases ends with
  | refused => exact .failed (by nofun) fun _ _ same => nomatch same
  | lost => exact .failed (by nofun) fun _ _ same => nomatch same
  | raised other => exact absurd (.raised other) noticed
  | shapeless below read other => exact absurd (.shapeless below read other) noticed
  | rejected above =>
    refine .failed ?undelivered fun status body same _ => ?tells
    case undelivered =>
      rintro ⟨success, -⟩
      exact absurd success.2 (by omega)
    case tells =>
      cases same
      rfl
  | unreadable below read =>
    refine .failed ?undelivered fun status body same other => ?tells
    case undelivered =>
      rintro ⟨-, object⟩
      cases read.symm.trans object
    case tells =>
      cases same
      exact absurd (.unsuccessful below other) noticed
  | @accepted status body members below read =>
    by_cases success : IsSuccess status
    · exact .delivered (.answered success read) _
    · exact absurd (.unsuccessful below success) noticed

/-- A sending ends as it should unless something was overlooked. -/
theorem Ends.promised_iff (ends : Ends result answer) : Promised result answer ↔ ¬Overlooked result :=
  ⟨fun promised overlooked => ends.unpromised overlooked promised, ends.promised⟩

/-- **A sending fails as a sending, unless something was overlooked.**  This is said of every network, whatever comes
of the call, and of every gateway, whatever its breaker has seen, for texts and for menus.  A sending ends in one of the
ways that are listed, and it ends as it should exactly if nothing was overlooked: well only with a response of success
that holds an object, and otherwise as a failure to send, with the status of a response that is no success. -/
theorem sendings_end (network : Network σ) (gateway : Gateway) (chat : String) (s : σ) :
    let call (method : String) (body : Json) : Call :=
      { method := .post, url := gateway.accountUrl ++ "/" ++ method ++ "/" ++ gateway.token, body := some body }
    let result (method : String) (body : Json) : Guarded :=
      (gateway.breaker.send network (call method body) s).1
    (∀ message,
      let result := result "sendMessage" (textBody chat message)
      let answer := (gateway.sendText network chat message s).1
      Ends result answer ∧ (Promised result answer ↔ ¬Overlooked result)) ∧
    ∀ menu,
      let result := result "sendInteractiveButtonsReply" (menuBody chat menu)
      let answer := (gateway.sendMenu network chat menu s).1
      Ends result answer ∧ (Promised result answer ↔ ¬Overlooked result) := by
  intro call result
  have ends : ∀ method kind body, Ends (result method body) (gateway.post network method kind body s).1 :=
    fun method kind body => conclude_ends _ kind (result method body)
  exact ⟨fun message => ⟨ends _ _ _, (ends _ .text _).promised_iff⟩,
    fun menu => ⟨ends _ _ _, (ends _ .buttons _).promised_iff⟩⟩

/-- A server that answers everything alike. -/
def monotone (status : Int) (body : Text.Bytes) : Network Unit where
  send _ _ := (.response status body, ())
  pause _ _ := ()
  close := id
  seconds _ := .ofInt 1

/-- A gateway that has just been set up has every text answered by such a server. -/
theorem sendText_monotone (status : Int) (body : Text.Bytes) (chat message : String) :
    ∃ gateway : Gateway, ((new (some "1101000001") (some "token") "https://api.example.com").sendText
      (monotone status body) chat message ()).1 = (gateway.understand .text status body).1 := by
  unfold sendText post Breaker.send
  exact ⟨_, rfl⟩

/-- A redirection with an object counts as delivered, and a success with an array does not fail as a sending. -/
theorem redirection_delivered :
    let gateway : Gateway := new (some "1101000001") (some "token") "https://api.example.com"
    ¬IsSuccess 302 ∧
      (gateway.sendText (monotone 302 (Text.utf8Bytes "\x7b\x7d")) "chat" "hello" ()).1 = .ok .null ∧
      (gateway.sendText (monotone 200 (Text.utf8Bytes "[]")) "chat" "hello" ()).1 = .error .noSuchMember := by
  intro gateway
  have braces : Text.ofBody? (Text.utf8Bytes "\x7b\x7d") = some ['\x7b', '\x7d'] := by decide +kernel
  have object : Json.readBody (Text.utf8Bytes "\x7b\x7d") = .ok (.obj []) := Json.readBody_of_text braces rfl
  have brackets : Text.ofBody? (Text.utf8Bytes "[]") = some ['[', ']'] := by decide +kernel
  have array : Json.readBody (Text.utf8Bytes "[]") = .ok (.arr []) := Json.readBody_of_text brackets rfl
  refine ⟨fun success => absurd success.2 (by decide), ?redirection, ?success⟩
  case redirection =>
    obtain ⟨gateway, answered⟩ := sendText_monotone 302 (Text.utf8Bytes "\x7b\x7d") "chat" "hello"
    rw [answered]
    unfold understand
    rw [if_neg (by decide), object]
    rfl
  case success =>
    obtain ⟨gateway, answered⟩ := sendText_monotone 200 (Text.utf8Bytes "[]") "chat" "hello"
    rw [answered]
    unfold understand
    rw [if_neg (by decide), array]

end Storekeeper.Gateway
