import Storekeeper.Proofs.Catalog.Refusal
import Storekeeper.Proofs.Message.Sending

/-!
# What is counted of the traffic

Every message to the provider and every request to the catalog should be counted once, whatever comes of it.  The counts
stand beside the ends, and some ends have none.

* `Gateway.Uncounted` and `Catalog.Client.Uncounted` are the results of calls after which nothing is counted.
* `Gateway.conclude_counts` and `Catalog.Client.conclude_counts` say that these are the only ones, and that everything
  else is counted once, with how it has ended.
* `traffic_counted` says so of every network, whatever the breakers have seen.
-/

namespace Storekeeper

namespace Gateway

/-- A sending is to be counted by its kind, and as sent just if it ends well. -/
structure Tells (kind : MessageKind) (answer : Except Failure Json) (sending : Sending) : Prop where
  kind : sending.kind = kind
  sent : sending.status = .sent ↔ ∃ id, answer = .ok id

/-- After what a sending is not counted: a response below 400 that cannot be read or is no object, or a fault that does
not lie in sending. -/
inductive Uncounted : Guarded → Prop
  | unreadable {status : Int} {body : Text.Bytes} {error : Json.ReadError} (below : status < 400)
    (read : Json.readBody body = .error error) : Uncounted (.sent (.response status body))
  | shapeless {status : Int} {body : Text.Bytes} {value : Json} (below : status < 400)
    (read : Json.readBody body = .ok value) (other : ∀ members, value ≠ .obj members) :
    Uncounted (.sent (.response status body))
  | raised {cause : NetworkFault} (other : cause.isTransport = false) : Uncounted (.sent (.fault cause))

/-- What a sending counts after what has come of its call: once, unless nothing is counted then, and it fails. -/
structure Counts (kind : MessageKind) (result : Guarded) (before after : Tally Sending)
    (answer : Except Failure Json) : Prop extends before.OnceUnless (Uncounted result) (Tells kind answer) after where
  failed : Uncounted result → ∃ failure, answer = .error failure

theorem not_uncounted_of_rejected {status : Int} (above : 400 ≤ status) (body : Text.Bytes) :
    ¬Uncounted (.sent (.response status body)) := by
  intro uncounted
  cases uncounted with
  | unreadable below => exact absurd above (Int.not_le.mpr below)
  | shapeless below => exact absurd above (Int.not_le.mpr below)

theorem not_uncounted_of_accepted {status : Int} {body : Text.Bytes} {members : Table Json}
    (read : Json.readBody body = .ok (.obj members)) : ¬Uncounted (.sent (.response status body)) := by
  intro uncounted
  cases uncounted with
  | unreadable _ unread => cases read.symm.trans unread
  | shapeless _ object other =>
    cases read.symm.trans object
    exact other members rfl

/-- What a response makes a sending count. -/
theorem understand_counts (gateway : Gateway) (kind : MessageKind) (status : Int) (body : Text.Bytes) :
    gateway.sendings.OnceUnless (Uncounted (.sent (.response status body)))
      (Tells kind (gateway.understand kind status body).1) (gateway.understand kind status body).2.sendings := by
  unfold understand
  split
  case isTrue above =>
    exact Tally.onceUnless_count (not_uncounted_of_rejected above body) ⟨rfl, nofun, nofun⟩ gateway.sendings
  case isFalse within =>
    have below : status < 400 := Int.not_le.mp within
    split
    case h_1 error read => exact Tally.onceUnless_self (.unreadable below read) gateway.sendings _
    case h_2 members read =>
      exact Tally.onceUnless_count (not_uncounted_of_accepted read) ⟨rfl, fun _ => ⟨_, rfl⟩, fun _ => rfl⟩
        gateway.sendings
    case h_3 value other read => exact Tally.onceUnless_self (.shapeless below read other) gateway.sendings _

/-- A sending that is not counted fails. -/
theorem Ends.failed {result : Guarded} {answer : Except Failure Json} (ends : Ends result answer)
    (uncounted : Uncounted result) : ∃ failure, answer = .error failure := by
  cases ends with
  | accepted _ read => exact absurd uncounted (not_uncounted_of_accepted read)
  | _ => exact ⟨_, rfl⟩

/-- What a sending counts after what has come of its call. -/
theorem conclude_counts (gateway : Gateway) (kind : MessageKind) (result : Guarded) :
    Counts kind result gateway.sendings (gateway.conclude kind result).2.sendings
      (gateway.conclude kind result).1 := by
  refine ⟨?counts, (conclude_ends gateway kind result).failed⟩
  cases result with
  | refused => exact Tally.onceUnless_count nofun ⟨rfl, nofun, nofun⟩ gateway.sendings
  | sent outcome =>
    cases outcome with
    | response status body => exact understand_counts gateway kind status body
    | fault cause =>
      unfold conclude
      dsimp only
      split
      case isTrue transport =>
        have counted : ¬Uncounted (.sent (.fault cause)) := fun uncounted => by
          cases uncounted with
          | raised other => cases other.symm.trans transport
        exact Tally.onceUnless_count counted ⟨rfl, nofun, nofun⟩ gateway.sendings
      case isFalse other => exact Tally.onceUnless_self (.raised (Bool.eq_false_iff.mpr other)) gateway.sendings _

end Gateway

namespace Catalog.Client

/-- How a request ends says with which failure it is to be counted: with none if it has a value, and otherwise with the
code of the failure of the catalog in which it ends. -/
inductive Tells (operation : Operation) : Except Failure Json → Request → Prop
  | value (value : Json) : Tells operation (.ok value) ⟨operation, none⟩
  | failure (text : String) (answered : Option Int) (code : CatalogCode) :
    Tells operation (.error (.catalog text answered code)) ⟨operation, some code⟩

/-- After what a request is not counted: a refusal that cannot be classified, or a fault that does not lie in sending. -/
inductive Uncounted : Guarded → Prop
  | baffling {status : Int} {body : Text.Bytes} {failure : Failure} (refused : refusedStatus ≤ status)
    (baffling : Baffling status (Text.utf8Lossy body) failure) : Uncounted (.sent (.response status body))
  | raised {cause : NetworkFault} (other : cause.isTransport = false) : Uncounted (.sent (.fault cause))

/-- What a request counts after what has come of its call: once, unless nothing is counted then, and it ends in a
failure that is none of the catalog. -/
structure Counts (operation : Operation) (result : Guarded) (before after : Tally Request)
    (answer : Except Failure Json) : Prop extends
    before.OnceUnless (Uncounted result) (Tells operation answer) after where
  failed : Uncounted result → ∃ failure, answer = .error failure ∧
    ∀ text answered code, failure ≠ .catalog text answered code

/-- What a response makes a request count. -/
theorem understand_counts (client : Client) (operation : Operation) (status : Int) (body : Text.Bytes) :
    client.requests.OnceUnless (Uncounted (.sent (.response status body)))
      (Tells operation (client.understand operation status body).1)
      (client.understand operation status body).2.requests := by
  unfold understand
  split
  case isTrue refused =>
    split
    case h_1 failure known =>
      exact Tally.onceUnless_self (.baffling refused (refusal_error_iff.mp known)) client.requests _
    case h_2 refusal known =>
      have counted : ¬Uncounted (.sent (.response status body)) := fun uncounted => by
        cases uncounted with
        | baffling _ baffling => cases known.symm.trans (refusal_error_iff.mpr baffling)
      exact Tally.onceUnless_count counted (.failure ..) client.requests
  case isFalse within =>
    have counted : ¬Uncounted (.sent (.response status body)) := fun uncounted => by
      cases uncounted with
      | baffling refused => exact within refused
    split
    case h_1 => exact Tally.onceUnless_count counted (.failure ..) client.requests
    case h_2 value read => exact Tally.onceUnless_count counted (.value value) client.requests

/-- What is not counted ends in a failure that is none of the catalog. -/
theorem conclude_uncounted (client : Client) (operation : Operation) {result : Guarded} (uncounted : Uncounted result) :
    ∃ failure, (client.conclude operation result).1 = .error failure ∧
      ∀ text answered code, failure ≠ .catalog text answered code := by
  cases uncounted with
  | baffling refused baffling =>
    exact ⟨_, conclude_baffling client operation refused baffling, baffling.ne_catalog⟩
  | raised other =>
    unfold conclude
    simp only [other]
    exact ⟨_, rfl, nofun⟩

/-- What a request counts after what has come of its call. -/
theorem conclude_counts (client : Client) (operation : Operation) (result : Guarded) :
    Counts operation result client.requests (client.conclude operation result).2.requests
      (client.conclude operation result).1 := by
  refine ⟨?counts, conclude_uncounted client operation⟩
  cases result with
  | refused => exact Tally.onceUnless_count nofun (.failure ..) client.requests
  | sent outcome =>
    cases outcome with
    | response status body => exact understand_counts client operation status body
    | fault cause =>
      unfold conclude
      dsimp only
      split
      case isTrue transport =>
        have counted : ¬Uncounted (.sent (.fault cause)) := fun uncounted => by
          cases uncounted with
          | raised other => cases other.symm.trans transport
        exact Tally.onceUnless_count counted (.failure ..) client.requests
      case isFalse other => exact Tally.onceUnless_self (.raised (Bool.eq_false_iff.mpr other)) client.requests _

end Catalog.Client

variable {σ : Type}

/-- **What is counted of the traffic.**  This is said of every network, whatever comes of a call, and of every gateway
and client, whatever their breakers have seen.  A message is counted once, and as sent just if sending it ends well,
unless the response is below 400 and holds no object; a request to the catalog is counted once, with how it ends, unless
it is refused with a body that cannot be classified.  What is not counted once is not counted at all and has failed.
(A fault that does not lie in sending is passed on without a count.) -/
theorem traffic_counted (network : Network σ) (s : σ) :
    (∀ (gateway : Gateway) (chat : String),
      let call (method : String) (body : Json) : Call :=
        { method := .post, url := gateway.accountUrl ++ "/" ++ method ++ "/" ++ gateway.token, body := some body }
      let result (method : String) (body : Json) : Guarded :=
        (gateway.breaker.send network (call method body) s).1
      (∀ message,
        let sending := gateway.sendText network chat message s
        Gateway.Counts .text (result "sendMessage" (Gateway.textBody chat message)) gateway.sendings
          sending.2.1.sendings sending.1) ∧
      ∀ menu,
        let sending := gateway.sendMenu network chat menu s
        Gateway.Counts .buttons (result "sendInteractiveButtonsReply" (Gateway.menuBody chat menu)) gateway.sendings
          sending.2.1.sendings sending.1) ∧
    ∀ (client : Catalog.Client) (operation : Catalog.Operation) (call : Call),
      let request := client.request network operation call s
      Catalog.Client.Counts operation (client.send network call s).1 client.requests request.2.1.requests
        request.1 := by
  refine ⟨fun gateway chat => ?sendings, fun client operation call => ?requests⟩
  case sendings =>
    intro call result
    have counts : ∀ method kind body, Gateway.Counts kind (result method body) gateway.sendings
        (gateway.post network method kind body s).2.1.sendings (gateway.post network method kind body s).1 :=
      fun method kind body => Gateway.conclude_counts
        { gateway with breaker := (gateway.breaker.send network (call method body) s).2.1 } kind (result method body)
    exact ⟨fun message => counts _ .text _, fun menu => counts _ .buttons _⟩
  case requests =>
    exact Catalog.Client.conclude_counts (client.send network call s).2.1 operation (client.send network call s).1

/-- A message whose response is no JSON fails without a count, and so does a request that is refused with a body whose
message is a number. -/
theorem answers_uncounted :
    let gateway : Gateway := .new (some "1101000001") (some "token") "https://api.example.com"
    let client : Catalog.Client := .new "https://shop.example.com" "user" "secret"
    let numbered := Text.utf8Bytes (String.ofList Catalog.Client.numbered)
    let sending := gateway.sendText (Gateway.monotone 200 (Text.utf8Bytes "oops")) "chat" "hello" ()
    let request := client.request (Gateway.monotone 400 numbered) .create (client.call .post "/products") ()
    sending.1 = .error (.sender "Green API returned an invalid response" none) ∧ sending.2.1.sendings = [] ∧
      request.1 = .error .unsupported ∧ request.2.1.requests = [] := by
  intro gateway client numbered sending request
  have unread : Json.readBody (Text.utf8Bytes "oops") = .error .malformed := by
    have text : Text.ofBody? (Text.utf8Bytes "oops") = some ['o', 'o', 'p', 's'] := by decide +kernel
    unfold Json.readBody
    rw [text]
    rfl
  have refused : Catalog.refusal 400 (Text.utf8Lossy numbered) Catalog.Operation.create.phrase =
      .error .unsupported := by
    have text : Text.utf8Lossy numbered = Catalog.Client.numbered := by decide +kernel
    rw [text]
    exact Catalog.refusal_error_iff.mpr Catalog.Client.baffling_numbered
  have answered : ∃ gateway : Gateway, gateway.sendings = [] ∧
      (sending.1, sending.2.1) = gateway.understand .text 200 (Text.utf8Bytes "oops") := ⟨_, rfl, rfl⟩
  have decided : ∃ client : Catalog.Client, client.requests = [] ∧
      (request.1, request.2.1) = client.understand .create 400 numbered := ⟨_, rfl, rfl⟩
  obtain ⟨gateway, fresh, answered⟩ := answered
  obtain ⟨client, unused, decided⟩ := decided
  unfold Gateway.understand at answered
  rw [if_neg (by decide), unread] at answered
  unfold Catalog.Client.understand at decided
  rw [if_pos (by decide), refused] at decided
  obtain ⟨failed, same⟩ := Prod.mk.inj answered
  obtain ⟨raised, kept⟩ := Prod.mk.inj decided
  exact ⟨failed, same ▸ fresh, raised, kept ▸ unused⟩

end Storekeeper
