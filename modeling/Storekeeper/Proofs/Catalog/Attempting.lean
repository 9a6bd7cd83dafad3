import Storekeeper.Proofs.Catalog.Refusal
import Storekeeper.Proofs.Http.Repeating
import Storekeeper.Proofs.Json.Reading

/-!
# How often the catalog is called

Of the operations of a client two only read, and their calls are repeated; creating a product is tried once.  What an
operation does with a network is read off the record of that network.

* `Client.EndsBy` says how an operation ends that comes to a result, with the class of a refusal, and
  `Client.conclude_endsBy` that it does.
* `Client.Contacts` says what an operation does with a network; `Client.request_contacts` follows a request.
* `Client.Reads` and `Client.Writes` are the two ways in which operations are made, and `Client.operations_attempted`
  is which operation is made in which.
-/

namespace Storekeeper.Catalog.Client

variable {σ α : Type}

/-- An operation as it is asked of any network. -/
abbrev Asking (α : Type) : Type 1 :=
  ∀ {τ : Type}, Network τ → τ → Except Failure α × Client × τ

/-- How an operation ends with a result.  A call that was refused, or that could not be sent, is a network error,
and any other fault is passed on.  Of a response the value is read; one that is no value, and a refusal, are
failures of the catalog, a refusal with its status and its class; and a refusal that cannot be classified ends
the operation in the failure that it leads to. -/
inductive EndsBy (operation : Operation) (read : Json → Except Failure α) : Guarded → Except Failure α → Prop
  | refused :
    EndsBy operation read .refused
      (.error (.catalog ("Store temporarily unavailable while " ++ operation.phrase) none .networkError))
  | lost {cause : NetworkFault} (transport : cause.isTransport = true) :
    EndsBy operation read (.sent (.fault cause))
      (.error (.catalog ("Network error while " ++ operation.phrase) none .networkError))
  | raised {cause : NetworkFault} (other : cause.isTransport = false) :
    EndsBy operation read (.sent (.fault cause)) (.error (.raised cause))
  | answered {status : Int} {body : Text.Bytes} {value : Json} : status < 400 →
    Json.readBody body = .ok value → EndsBy operation read (.sent (.response status body)) (read value)
  | unreadable {status : Int} {body : Text.Bytes} {error : Json.ReadError} : status < 400 →
    Json.readBody body = .error error → EndsBy operation read (.sent (.response status body))
      (.error (.catalog "Failed to parse WooCommerce response" none .unknown))
  | rejected {status : Int} {body : Text.Bytes} {code : CatalogCode} : 400 ≤ status →
    classify status (Text.utf8Lossy body) = .ok code → EndsBy operation read (.sent (.response status body))
      (.error (.catalog (refusalText (bodyValue? (Text.utf8Lossy body)) operation.phrase) (some status) code))
  | baffling {status : Int} {body : Text.Bytes} {failure : Failure} : 400 ≤ status →
    Baffling status (Text.utf8Lossy body) failure →
    EndsBy operation read (.sent (.response status body)) (.error failure)

/-- What an operation does with a network, which is all that is recorded; the record changes nothing else. -/
def Contacts (ask : Asking α) (network : Network σ) (s : σ) (contacts : List Contact) : Prop :=
  ∀ record, ask network.recorded (s, record) =
    let (answer, client, s) := ask network s
    (answer, client, s, record ++ contacts)

/-- An operation reads: its call is attempted up to three times, with a wait of two seconds and one of four. -/
structure Reads (network : Network σ) (client : Client) (operation : Operation) (call : Call)
    (read : Json → Except Failure α) (ask : Asking α) (s : σ) : Prop where
  get : call.method = .get
  attempts : ∃ failed last result contacts,
    client.breaker.Persists network ⟨call, s⟩ [2000, 4000] failed last result ∧
    EndsBy operation read result (ask network s).1 ∧ Contacts ask network s contacts ∧
    contacts = Attempt.record network failed [2000, 4000] ++ result.contacts call ∧
    contacts.countP Contact.isCall ≤ 3

/-- An operation writes: its call is attempted once, and not sent exactly if it is refused. -/
structure Writes (network : Network σ) (client : Client) (operation : Operation) (call : Call)
    (read : Json → Except Failure α) (ask : Asking α) (s : σ) : Prop where
  post : call.method = .post
  attempt : ∃ result contacts,
    EndsBy operation read result (ask network s).1 ∧ Contacts ask network s contacts ∧
    ((result = .refused ∧ contacts = [] ∧ client.breaker.Refuses network ⟨call, s⟩) ∨
      ∃ outcome, result = .sent outcome ∧ contacts = [.sent call outcome] ∧
        client.breaker.Admits network ⟨call, s⟩)

variable {network : Network σ} {client : Client} {operation : Operation} {call : Call}
  {read : Json → Except Failure α} {s : σ} {waits : List Nat} {failed : List (Attempt σ)} {result : Guarded}

/-- What is understood of a response is how an operation ends with it. -/
theorem understand_endsBy (client : Client) (operation : Operation) (read : Json → Except Failure α)
    (status : Int) (body : Text.Bytes) :
    EndsBy operation read (.sent (.response status body))
      ((client.understand operation status body).1.bind read) := by
  by_cases refused : refusedStatus ≤ status
  · cases known : classify status (Text.utf8Lossy body) with
    | error failure =>
      have baffling := classify_error_iff.mp known
      have ended := conclude_baffling client operation refused baffling
      change (client.understand operation status body).1 = _ at ended
      rw [ended]
      exact .baffling refused baffling
    | ok code =>
      have ended : (client.understand operation status body).1 = .error (.catalog
          (refusalText (bodyValue? (Text.utf8Lossy body)) operation.phrase) (some status) code) := by
        unfold understand refusal
        rw [if_pos refused, known]
        rfl
      rw [ended]
      exact .rejected refused known
  · have fine : status < refusedStatus := Int.not_le.mp refused
    cases said : Json.readBody body with
    | error error =>
      have ended : (client.understand operation status body).1 =
          .error (.catalog "Failed to parse WooCommerce response" none .unknown) := by
        unfold understand
        rw [if_neg refused, said]
        rfl
      rw [ended]
      exact .unreadable fine said
    | ok value =>
      rw [understand_of_read client operation fine said]
      exact .answered fine said

theorem conclude_lost {cause : NetworkFault} (transport : cause.isTransport = true) :
    (client.conclude operation (.sent (.fault cause))).1 =
      .error (.catalog ("Network error while " ++ operation.phrase) none .networkError) := by
  simp [conclude, transport, failed]

theorem conclude_raised {cause : NetworkFault} (other : cause.isTransport = false) :
    (client.conclude operation (.sent (.fault cause))).1 = .error (.raised cause) := by
  simp [conclude, other]

/-- What a request ends in, and what is made of it, is how an operation ends with that result. -/
theorem conclude_endsBy (client : Client) (operation : Operation) (read : Json → Except Failure α)
    (result : Guarded) : EndsBy operation read result ((client.conclude operation result).1.bind read) := by
  cases result with
  | refused => exact .refused
  | sent outcome =>
    cases outcome with
    | response status body => exact understand_endsBy client operation read status body
    | fault cause =>
      cases transport : cause.isTransport with
      | true =>
        rw [conclude_lost transport]
        exact .lost transport
      | false =>
        rw [conclude_raised transport]
        exact .raised transport

/-- A request with a call that is tried after some waits, and what is made of its answer. -/
theorem request_contacts (network : Network σ) (client : Client) (operation : Operation)
    (read : Json → Except Failure α) (ask : Asking α)
    (asks : ∀ {τ : Type} (network : Network τ) (s : τ), ask network s =
      let (answer, client, s) := client.request network operation call s
      (answer.bind read, client, s))
    (method : (if call.method = .get then retryWaits else []) = waits)
    (tries : client.breaker.Tries network ⟨call, s⟩ waits failed result) :
    EndsBy operation read result (ask network s).1 ∧
      Contacts ask network s (Attempt.record network failed waits ++ result.contacts call) := by
  obtain ⟨b', s', run, recorded⟩ := tries
  have sent : client.send network call s = (result, { client with breaker := b' }, s') := by
    unfold send
    rw [method]
    simp [run]
  have sentRecorded : ∀ record, client.send network.recorded call (s, record) =
      (result, { client with breaker := b' }, s',
        record ++ (Attempt.record network failed waits ++ result.contacts call)) := by
    intro record
    unfold send
    rw [method]
    simp [recorded]
  constructor
  · rw [asks]
    simp only [request, sent]
    exact conclude_endsBy _ operation read result
  · intro record
    simp only [asks, request, sent, sentRecorded]

section Operations

variable {ask : Asking α}
  (asks : ∀ {τ : Type} (network : Network τ) (s : τ), ask network s =
    let (answer, client, s) := client.request network operation call s
    (answer.bind read, client, s))

include asks

/-- An operation whose call reads is made by up to three attempts. -/
theorem reads_of_get (network : Network σ) (s : σ) (get : call.method = .get) :
    Reads network client operation call read ask s := by
  obtain ⟨failed, last, result, persists, tries⟩ :=
    Breaker.sendPatiently_persists network client.breaker ⟨call, s⟩ [2000, 4000]
  obtain ⟨ends, contacts⟩ :=
    request_contacts network client operation read ask asks (by rw [get]; rfl) tries
  refine ⟨get, failed, last, result, _, persists, ends, contacts, rfl, ?_⟩
  have most : failed.length ≤ 2 := persists.length_le
  have before := Attempt.countP_record_le network failed [2000, 4000]
  have after : (result.contacts call).countP Contact.isCall ≤ 1 := by
    cases result <;> simp [Guarded.contacts, Contact.isCall]
  rw [List.countP_append]
  omega

/-- An operation whose call writes is made by one attempt. -/
theorem writes_of_post (network : Network σ) (s : σ) (post : call.method = .post) :
    Writes network client operation call read ask s := by
  obtain ⟨failed, last, result, persists, tries⟩ :=
    Breaker.sendPatiently_persists network client.breaker ⟨call, s⟩ []
  obtain ⟨rfl, rfl⟩ := persists.once
  obtain ⟨ends, contacts⟩ :=
    request_contacts network client operation read ask asks (by rw [post]; rfl) tries
  refine ⟨post, result, _, ends, contacts, ?_⟩
  obtain ⟨rfl, refuses⟩ | ⟨rfl, admits, -⟩ := persists.ends
  · exact .inl ⟨rfl, rfl, refuses⟩
  · exact .inr ⟨_, rfl, rfl, admits⟩

end Operations

/-- **Reading is tried up to three times, writing once.**  This is said of every network, whatever comes of the calls
and however the time passes, and of every client, whatever its breaker has seen.  The calls of the operations that
read are sent one after the other until one does not fail, or three have been made, or the breaker refuses the next
one; there is a wait before each repetition, also before one that is refused.  The call that creates a product is
sent at most once, there is no wait, and it is not sent exactly if it is refused.  An operation ends with the result of
its last attempt: a call that was refused or that could not be sent is a network error, and a response is read or its
refusal classified. -/
theorem operations_attempted (network : Network σ) (client : Client) (s : σ) :
    (∀ limit, Reads network client .list
      { client.call .get "/products" with params := some [("per_page", .int limit)] } productsOf
      (fun network s => client.listProducts network limit s) s) ∧
    (∀ sku, Reads network client .find
      { client.call .get "/products" with params := some [("sku", .str sku)] } productOf
      (fun network s => client.findProduct network sku s) s) ∧
    ∀ product, Writes network client .create
      { client.call .post "/products" with body := some (productBody product) } createdOf
      (fun network s => client.createProduct network product s) s :=
  ⟨fun _ => reads_of_get (fun _ _ => rfl) network s rfl, fun _ => reads_of_get (fun _ _ => rfl) network s rfl,
    fun _ => writes_of_post (fun _ _ => rfl) network s rfl⟩

/-- A server that cannot be reached at first lists a product when it is asked again, after two seconds. -/
theorem operations_attempted_again :
    let body := Text.utf8Bytes "[\x7b\"id\":7\x7d]"
    let network := hesitant 200 body
    let client : Client := .new "https://shop.example.com" "user" "secret"
    let call := { client.call .get "/products" with params := some [("per_page", .int 20)] }
    let product : Product := ⟨7, "No Name", "", "", "", "", "", none, "", "", ""⟩
    Contacts (fun network s => client.listProducts network 20 s) network 0
        [.sent call (.fault .connectError), .waited 2000, .sent call (.response 200 body)] ∧
      (client.listProducts network 20 0).1 = .ok [product] := by
  intro body network client call product
  obtain ⟨reads, -, -⟩ := operations_attempted network client 0
  obtain ⟨failed, last, result, contacts, -, ends, recorded, shape, -⟩ := (reads 20).attempts
  have run : (client.listProducts network.recorded 20 (0, [])).2.2.2 =
      [.sent call (.fault .connectError), .waited 2000, .sent call (.response 200 body)] := rfl
  have same : contacts =
      [.sent call (.fault .connectError), .waited 2000, .sent call (.response 200 body)] :=
    (congrArg (fun whole : Except Failure (List Product) × Client × Nat × List Contact => whole.2.2.2)
      (recorded [])).symm.trans run
  -- one attempt has failed, and so the last one brought the response
  obtain rfl : result = .sent (.response 200 body) := by
    rw [same] at shape
    have third := congrArg (·[2]?) shape
    rcases failed with _ | ⟨first, _ | ⟨second, rest⟩⟩
    · cases result <;> cases third
    · cases result with
      | refused => cases third
      | sent outcome =>
        cases third
        rfl
    · cases congrArg (·[3]?) shape
  have text : Text.ofBody? body = some "[\x7b\"id\":7\x7d]".toList := by decide +kernel
  have read : Json.readBody body = .ok (.arr [.obj [("id", .int 7)]]) :=
    Json.readBody_of_text text (by simp only [String.reduceToList]; rfl)
  refine ⟨same ▸ recorded, ?_⟩
  generalize (client.listProducts network 20 0).1 = answer at ends
  cases ends with
  | answered fine said =>
    cases read.symm.trans said
    decide +kernel
  | unreadable _ said => cases read.symm.trans said
  | rejected refused _ => exact absurd refused (by decide)
  | baffling refused _ => exact absurd refused (by decide)

/-- A breaker that has counted four failures is opened by a fifth, and the repetition after the wait is refused. -/
example :
    let worn : Breaker := { Breaker.standard "shop" with failures := 4 }
    let client : Client := { Client.new "https://shop.example.com" "user" "secret" with breaker := worn }
    (client.listProducts Breaker.clockwork.recorded 20 (1000, [])).2.2.2.map Contact.isCall = [true, false] := by
  decide +kernel

end Storekeeper.Catalog.Client
