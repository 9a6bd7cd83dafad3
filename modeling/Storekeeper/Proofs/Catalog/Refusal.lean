import Storekeeper.Catalog.Client

/-!
# When a refusal can be classified

The members of a refused request's body may be any JSON values, and the classification searches them as
they are.  A body that it cannot search baffles it, and then the request does not end in a failure of the
catalog.

* `Baffles` says of a code and a message which failure they lead to, by what kinds of values they are;
  `classOfMembers_judged` follows the order in which they are looked at.
* `classify_error_iff` and `refusal_error_iff` are the exact conditions under which nothing is classified.
* `Client.conclude_ends` says in which of four ways a request ends, and `Client.request_classified` is what
  that means for every network and every breaker.
-/

namespace Storekeeper.Catalog

/-- A member of a body as it is looked at: what counts as nothing is an empty text. -/
def member (members : Table Json) (name : String) : Json :=
  (Json.getD members name).orElse (.str "")

/-- An array or an object. -/
def IsCompound : Json → Prop
  | .arr _ => True
  | .obj _ => True
  | _ => False

/-- A value in which a text can be looked for. -/
def IsSearchable : Json → Prop
  | .str _ => True
  | value => IsCompound value

/-- A text that a value holds: as a part of it, as an item, or as a name. -/
def Mentions (part : String) : Json → Prop
  | .str s => Text.contains s part = true
  | .arr items => Json.str part ∈ items
  | .obj members => part ∈ Table.names members
  | _ => False

/-- A code or a message speaks of a stock keeping unit that is taken. -/
def SpeaksOfSku (code message : Json) : Prop :=
  code = .str "product_invalid_sku" ∨ Mentions "SKU" message

/-- A code and a message that cannot be classified, and the failure they lead to. -/
inductive Baffles (code message : Json) : Failure → Prop
  /-- The message is a number or a truth value, in which nothing can be looked for. -/
  | unsearchable (other : code ≠ .str "product_invalid_sku") (closed : ¬ IsSearchable message) :
    Baffles code message .unsupported
  /-- The code is no value that can be looked up. -/
  | uncompared (silent : ¬ SpeaksOfSku code message) (searchable : IsSearchable message)
    (compound : IsCompound code) : Baffles code message .unsupported
  /-- The message has no lower case. -/
  | unlowered (silent : ¬ SpeaksOfSku code message) (plain : ¬ IsCompound code)
    (other : ∀ name ∈ imageCodes, code ≠ .str name) (compound : IsCompound message) :
    Baffles code message .noSuchMember

/-- A refusal whose status leaves the class to a body that cannot be classified. -/
structure Baffling (status : Int) (body : List Char) (failure : Failure) : Prop where
  left : status ≠ 401 ∧ status ≠ 403 ∧ status ≠ 404 ∧ status < 500
  baffles : ∃ members, bodyValue? body = some (.obj members) ∧
    Baffles (member members "code") (member members "message") failure

variable {code message : Json} {failure : Failure}

theorem IsCompound.searchable {value : Json} (compound : IsCompound value) : IsSearchable value := by
  cases value with
  | str s => trivial
  | _ => exact compound

theorem Mentions.searchable {part : String} {value : Json} (mentions : Mentions part value) :
    IsSearchable value := by
  cases value with
  | str s => trivial
  | arr items => trivial
  | obj members => trivial
  | _ => cases mentions

theorem Baffles.silent (baffles : Baffles code message failure) : ¬ SpeaksOfSku code message := by
  cases baffles with
  | unsearchable other closed =>
    rintro (same | mentions)
    · exact other same
    · exact closed mentions.searchable
  | uncompared silent => exact silent
  | unlowered silent => exact silent

/-- A message in which something can be looked for baffles only as a compound, or with one as code. -/
theorem Baffles.of_searchable (baffles : Baffles code message failure)
    (searchable : IsSearchable message) :
    IsCompound code ∨ (IsCompound message ∧ ∀ name ∈ imageCodes, code ≠ .str name) := by
  cases baffles with
  | unsearchable _ closed => exact absurd searchable closed
  | uncompared _ _ compound => exact .inl compound
  | unlowered _ _ other compound => exact .inr ⟨compound, other⟩

theorem Baffles.unique {other : Failure} (baffles : Baffles code message failure)
    (again : Baffles code message other) : failure = other := by
  cases baffles with
  | unsearchable _ closed =>
    cases again with
    | unlowered _ _ _ compound => exact absurd compound.searchable closed
    | _ => rfl
  | uncompared _ _ compound =>
    cases again with
    | unlowered _ plain => exact absurd compound plain
    | _ => rfl
  | unlowered _ plain _ compound =>
    cases again with
    | unsearchable _ closed => exact absurd compound.searchable closed
    | uncompared _ _ compound => exact absurd compound plain
    | unlowered => rfl

/-! ## What each search does -/

theorem str?_eq_some_iff {value : Json} {s : String} : value.str? = some s ↔ value = .str s := by
  cases value <;> simp [Json.str?]

/-- A text can be looked for in searchable values only. -/
theorem holds_cases (part : String) (value : Json) :
    (IsSearchable value ∧ ∃ found, holds part value = .ok found ∧ (found = true ↔ Mentions part value)) ∨
      (¬ IsSearchable value ∧ holds part value = .error .unsupported) := by
  cases value with
  | str s => exact .inl ⟨trivial, _, rfl, Iff.rfl⟩
  | arr items =>
    refine .inl ⟨trivial, _, rfl, ?_⟩
    simp [Mentions, str?_eq_some_iff]
  | obj members =>
    refine .inl ⟨trivial, _, rfl, ?_⟩
    simp [Mentions, Table.has, Table.names]
  | _ => exact .inr ⟨id, rfl⟩

/-- Only a value that is no compound can be looked up. -/
theorem isOneOf_cases (texts : List String) (value : Json) :
    (IsCompound value ∧ isOneOf texts value = .error .unsupported) ∨
      (¬ IsCompound value ∧ ∃ found, isOneOf texts value = .ok found ∧
        (found = true ↔ ∃ name ∈ texts, value = .str name)) := by
  cases value with
  | arr items => exact .inl ⟨trivial, rfl⟩
  | obj members => exact .inl ⟨trivial, rfl⟩
  | str s =>
    refine .inr ⟨id, _, rfl, ?_⟩
    simp
  | _ => exact .inr ⟨id, false, rfl, by simp⟩

/-- Of the searchable values only a text has a lower case. -/
theorem holdsLowered_cases (part : String) {value : Json} (searchable : IsSearchable value) :
    (IsCompound value ∧ holdsLowered part value = .error .noSuchMember) ∨
      (¬ IsCompound value ∧ ∃ found, holdsLowered part value = .ok found) := by
  cases value with
  | arr items => exact .inl ⟨trivial, rfl⟩
  | obj members => exact .inl ⟨trivial, rfl⟩
  | str s => exact .inr ⟨id, _, rfl⟩
  | _ => cases searchable

/-! ## The classification -/

/-- A result is a failure exactly if a code and a message lead to it. -/
def Judged {α : Type} (code message : Json) : Except Failure α → Prop
  | .ok _ => ∀ failure, ¬ Baffles code message failure
  | .error failure => Baffles code message failure

theorem judged_of_sku {α : Type} (speaks : SpeaksOfSku code message) (value : α) :
    Judged code message (.ok value) :=
  fun _ baffles => baffles.silent speaks

/-- The members of a body are classified unless they cannot be. -/
theorem classOfMembers_judged (members : Table Json) :
    Judged (member members "code") (member members "message") (classOfMembers members) := by
  unfold classOfMembers
  simp only [bind, Except.bind, pure, Except.pure]
  generalize ofCode : (Json.getD members "code").orElse (.str "") = code
  generalize ofMessage : (Json.getD members "message").orElse (.str "") = message
  unfold member
  rw [ofCode, ofMessage]
  by_cases sku : code = .str "product_invalid_sku"
  · rw [if_pos (by rw [sku]; rfl)]
    exact judged_of_sku (.inl sku) _
  rw [if_neg (by simpa [str?_eq_some_iff] using sku)]
  rcases holds_cases "SKU" message with ⟨searchable, found, search, mentions⟩ | ⟨closed, search⟩
  case inr =>
    rw [search]
    exact .unsearchable sku closed
  rw [search]
  cases found with
  | true => exact judged_of_sku (.inr (mentions.mp rfl)) _
  | false =>
    have silent : ¬ SpeaksOfSku code message :=
      not_or.mpr ⟨sku, fun said => nomatch mentions.mpr said⟩
    rcases isOneOf_cases imageCodes code with ⟨compound, look⟩ | ⟨plain, found, look, among⟩
    case inl =>
      simp only [look]
      exact .uncompared silent searchable compound
    simp only [look]
    cases found with
    | true =>
      intro failure baffles
      obtain ⟨name, member, same⟩ := among.mp rfl
      obtain compound | ⟨-, other⟩ := baffles.of_searchable searchable
      · exact plain compound
      · exact other name member same
    | false =>
      rcases holdsLowered_cases "image" searchable with ⟨compound, search⟩ | ⟨simple, found, search⟩
      · simp only [search]
        exact .unlowered silent plain (fun name member same => nomatch among.mpr ⟨name, member, same⟩)
          compound
      · have clear : ∀ failure, ¬ Baffles code message failure := by
          intro failure baffles
          obtain compound | ⟨compound, -⟩ := baffles.of_searchable searchable
          · exact plain compound
          · exact simple compound
        rcases isOneOf_cases invalidDataCodes code with ⟨compound, -⟩ | ⟨-, listed, look, -⟩
        · exact absurd compound plain
        · simp only [search, look]
          cases found <;> cases listed <;> exact clear

theorem classOfBody_obj (status : Int) (members : Table Json) :
    classOfBody status (some (.obj members)) = (classOfMembers members).map fun said =>
      said.getD (if status = 400 then .invalidData else .unknown) := by
  unfold classOfBody
  dsimp only
  cases classOfMembers members <;> rfl

theorem classOfBody_other {status : Int} {body : Option Json}
    (other : ∀ members, body ≠ some (.obj members)) : ∃ code, classOfBody status body = .ok code := by
  cases body with
  | none => exact ⟨_, rfl⟩
  | some value =>
    cases value with
    | obj members => exact absurd rfl (other members)
    | _ => exact ⟨_, rfl⟩

/-- A body fails to be classified exactly if it is an object whose members cannot be. -/
theorem classOfBody_error_iff {status : Int} {body : Option Json} :
    classOfBody status body = .error failure ↔ ∃ members, body = some (.obj members) ∧
      Baffles (member members "code") (member members "message") failure := by
  by_cases object : ∃ members, body = some (.obj members)
  · obtain ⟨members, rfl⟩ := object
    have judged := classOfMembers_judged members
    rw [classOfBody_obj]
    cases classed : classOfMembers members with
    | error other =>
      rw [classed] at judged
      constructor
      · intro failed
        cases failed
        exact ⟨members, rfl, judged⟩
      · rintro ⟨_, same, baffles⟩
        cases same
        exact congrArg _ (judged.unique baffles)
    | ok said =>
      rw [classed] at judged
      constructor
      · intro failed
        cases failed
      · rintro ⟨_, same, baffles⟩
        cases same
        exact absurd baffles (judged failure)
  · obtain ⟨code, classed⟩ : ∃ code, classOfBody status body = .ok code :=
      classOfBody_other fun members same => object ⟨members, same⟩
    rw [classed]
    constructor
    · intro failed
      cases failed
    · rintro ⟨members, same, -⟩
      exact absurd ⟨members, same⟩ object

/-- A refused request fails to be classified exactly if its status leaves the class to a body that cannot
be. -/
theorem classify_error_iff {status : Int} {body : List Char} :
    classify status body = .error failure ↔ Baffling status body failure := by
  unfold classify
  constructor
  · intro failed
    split at failed
    · cases failed
    split at failed
    · cases failed
    split at failed
    · cases failed
    split at failed
    · cases failed
    exact ⟨⟨by assumption, by assumption, by assumption, by omega⟩, classOfBody_error_iff.mp failed⟩
  · rintro ⟨⟨unauthorized, forbidden, notFound, below⟩, baffles⟩
    rw [if_neg unauthorized, if_neg forbidden, if_neg notFound, if_neg (Int.not_le.mpr below)]
    exact classOfBody_error_iff.mpr baffles

/-- What a refused request was refused for is not known exactly if it cannot be classified. -/
theorem refusal_error_iff {status : Int} {body : List Char} {operation : String} :
    refusal status body operation = .error failure ↔ Baffling status body failure := by
  rw [← classify_error_iff]
  unfold refusal
  cases classify status body with
  | error other =>
    constructor <;> intro failed <;> cases failed <;> rfl
  | ok code =>
    constructor <;> intro failed <;> cases failed

theorem Baffling.ne_catalog {status : Int} {body : List Char} (baffling : Baffling status body failure)
    (text : String) (answered : Option Int) (code : CatalogCode) :
    failure ≠ .catalog text answered code := by
  obtain ⟨-, members, -, baffles⟩ := baffling
  rintro rfl
  cases baffles

end Storekeeper.Catalog

/-! ## What comes of a request -/

namespace Storekeeper

variable {σ : Type}

namespace Network

/-- Whatever goes wrong in sending a call lies in sending it. -/
def FailsInTransport (network : Network σ) : Prop :=
  ∀ call s cause, (network.send call s).1 = .fault cause → cause.isTransport = true

/-- An outcome comes of a call if it is sent at some time. -/
def Gives (network : Network σ) (call : Call) (outcome : Outcome) : Prop :=
  ∃ s, (network.send call s).1 = outcome

end Network

namespace Breaker

variable {network : Network σ} {call : Call} {outcome : Outcome}

theorem send_gives {b : Breaker} {s : σ} (sent : (b.send network call s).1 = .sent outcome) :
    network.Gives call outcome := by
  unfold send at sent
  split at sent
  · cases sent
  · cases sent
    exact ⟨s, rfl⟩

/-- What comes of a call that is sent patiently came of sending it. -/
theorem sendPatiently_gives {waits : List Nat} {b : Breaker} {s : σ}
    (sent : (sendPatiently network call waits b s).1 = .sent outcome) : network.Gives call outcome := by
  induction waits generalizing b s with
  | nil => exact send_gives sent
  | cons wait waits ih =>
    unfold sendPatiently at sent
    dsimp only at sent
    split at sent
    · exact ih sent
    · exact send_gives sent

end Breaker

namespace Catalog.Client

/-- A response that does not refuse a request is understood as the value in it. -/
theorem understand_of_read (client : Client) (operation : Operation) {status : Int} {body : Text.Bytes} {value : Json}
    (fine : status < refusedStatus) (read : Json.readBody body = .ok value) :
    (client.understand operation status body).1 = .ok value := by
  unfold understand
  rw [if_neg (Int.not_le.mpr fine), read]

/-- A refusal that cannot be classified ends a request in the failure that it leads to. -/
theorem conclude_baffling (client : Client) (operation : Operation) {status : Int} {body : Text.Bytes}
    {failure : Failure} (refused : refusedStatus ≤ status) (baffling : Baffling status (Text.utf8Lossy body) failure) :
    (client.conclude operation (.sent (.response status body))).1 = .error failure := by
  have failed : refusal status (Text.utf8Lossy body) operation.phrase = .error failure :=
    refusal_error_iff.mpr baffling
  change (client.understand operation status body).1 = _
  unfold understand
  rw [if_pos refused, failed]

/-- How a request ends: with the value of a response, in a failure of the catalog, or in the failure that
a baffling refusal leads to. -/
theorem conclude_ends (client : Client) (operation : Operation) {result : Guarded}
    (transport : ∀ cause, result = .sent (.fault cause) → cause.isTransport = true) :
    (∃ value status body, (client.conclude operation result).1 = .ok value ∧
      result = .sent (.response status body) ∧ status < refusedStatus ∧ Json.readBody body = .ok value) ∨
    (∃ text answered code, (client.conclude operation result).1 = .error (.catalog text answered code)) ∨
    (∃ failure status body, (client.conclude operation result).1 = .error failure ∧
      result = .sent (.response status body) ∧ refusedStatus ≤ status ∧
      Baffling status (Text.utf8Lossy body) failure) := by
  cases result with
  | refused => exact .inr (.inl ⟨_, _, _, rfl⟩)
  | sent outcome =>
    cases outcome with
    | fault cause =>
      refine .inr (.inl ⟨"Network error while " ++ operation.phrase, none, .networkError, ?_⟩)
      unfold conclude
      simp only [transport cause rfl]
      rfl
    | response status body =>
      by_cases refused : refusedStatus ≤ status
      · cases known : refusal status (Text.utf8Lossy body) operation.phrase with
        | error failure =>
          have baffling := refusal_error_iff.mp known
          exact .inr (.inr ⟨failure, status, body, conclude_baffling client operation refused baffling, rfl,
            refused, baffling⟩)
        | ok refusal =>
          refine .inr (.inl ⟨refusal.message, some status, refusal.code, ?_⟩)
          change (client.understand operation status body).1 = _
          unfold understand
          rw [if_pos refused, known]
          rfl
      · cases read : Json.readBody body with
        | error cause =>
          refine .inr (.inl ⟨"Failed to parse WooCommerce response", none, .unknown, ?_⟩)
          change (client.understand operation status body).1 = _
          unfold understand
          rw [if_neg refused, read]
          rfl
        | ok value =>
          have fine : status < refusedStatus := Int.not_le.mp refused
          exact .inl ⟨value, status, body, understand_of_read client operation fine read, rfl, fine, read⟩

/-- **Every failure of a request is classified, unless a refusal cannot be.**  This is said of every
network that fails in transport only, whatever it answers, and of every breaker.  A request ends with the
JSON value of a response that does not refuse it, or in a failure of the catalog with one of the codes, or
the refusal that came was baffling; and one that does come ends the request in the failure it leads to.
What is baffling is exactly what cannot be classified: the status leaves the class to the body, and the
body is an object whose code and message are not kinds of values that can be searched. -/
theorem request_classified (network : Network σ) (transport : network.FailsInTransport) (client : Client)
    (operation : Operation) (call : Call) (s : σ) :
    let answer := (client.request network operation call s).1
    ((∃ value status body, answer = .ok value ∧ network.Gives call (.response status body) ∧
        status < refusedStatus ∧ Json.readBody body = .ok value) ∨
      (∃ text answered code, answer = .error (.catalog text answered code) ∧
        code.name ∈ CatalogCode.names.map Prod.snd) ∨
      (∃ failure status body, answer = .error failure ∧ network.Gives call (.response status body) ∧
        refusedStatus ≤ status ∧ Baffling status (Text.utf8Lossy body) failure)) ∧
    (∀ failure status body, (client.send network call s).1 = .sent (.response status body) →
      refusedStatus ≤ status → Baffling status (Text.utf8Lossy body) failure →
      answer = .error failure ∧ ∀ text answered code, failure ≠ .catalog text answered code) ∧
    ∀ failure status body, (classify status body = .error failure ↔ Baffling status body failure) ∧
      ∀ phrase, refusal status body phrase = .error failure ↔ Baffling status body failure := by
  intro answer
  have came : ∀ outcome, (client.send network call s).1 = .sent outcome →
      network.Gives call outcome := fun _ sent => Breaker.sendPatiently_gives sent
  refine ⟨?ends, fun failure status body sent refused baffling => ⟨?baffled, baffling.ne_catalog⟩,
    fun failure status body => ⟨classify_error_iff, fun phrase => refusal_error_iff⟩⟩
  case ends =>
    have faults : ∀ cause, (client.send network call s).1 = .sent (.fault cause) →
        cause.isTransport = true := by
      intro cause sent
      obtain ⟨s, gives⟩ := came _ sent
      exact transport call s cause gives
    rcases conclude_ends (client.send network call s).2.1 operation faults with
      ⟨value, status, body, read, sent, fine, same⟩ | ⟨text, answered, code, failed⟩ |
      ⟨failure, status, body, failed, sent, refused, baffling⟩
    · exact .inl ⟨value, status, body, read, came _ sent, fine, same⟩
    · exact .inr (.inl ⟨text, answered, code, failed, by cases code <;> decide⟩)
    · exact .inr (.inr ⟨failure, status, body, failed, came _ sent, refused, baffling⟩)
  case baffled =>
    have failed := conclude_baffling (client.send network call s).2.1 operation refused baffling
    rw [← sent] at failed
    exact failed

/-- A server that cannot be reached at first, and then refuses with a body. -/
def hesitant (status : Int) (body : Text.Bytes) : Network Nat where
  send _ tries := (if tries = 0 then .fault .connectError else .response status body, tries + 1)
  pause _ tries := tries
  close := id
  seconds tries := .ofInt (tries + 1)

theorem hesitant_failsInTransport (status : Int) (body : Text.Bytes) :
    (hesitant status body).FailsInTransport := by
  intro call tries cause sent
  change (if tries = 0 then _ else _) = _ at sent
  split at sent
  · cases sent
    rfl
  · cases sent

/-- A body whose message is a number. -/
def numbered : List Char :=
  ['\x7b', '"', 'm', 'e', 's', 's', 'a', 'g', 'e', '"', ':', '5', '\x7d']

theorem bodyValue?_numbered : bodyValue? numbered = some (.obj [("message", .int 5)]) :=
  rfl

theorem baffling_numbered : Baffling 400 numbered .unsupported := by
  refine ⟨by decide, _, bodyValue?_numbered, .unsearchable ?_ id⟩
  have code : member [("message", .int 5)] "code" = .str "" := rfl
  rw [code]
  simp

/-- The products are asked for twice, and the refusal that comes at last has a number for its message. -/
theorem request_classified_number :
    let network := hesitant 400 (Text.utf8Bytes (String.ofList numbered))
    let client : Client := .new "https://shop.example.com" "user" "secret"
    network.FailsInTransport ∧
      (client.request network .list (client.call .get "/products") 0).1 = .error .unsupported := by
  intro network client
  have transport : network.FailsInTransport := hesitant_failsInTransport _ _
  have sent : (client.send network (client.call .get "/products") 0).1 =
      .sent (.response 400 (Text.utf8Bytes (String.ofList numbered))) := by
    simp [Client.send, Client.call, Client.new, retryWaits, Breaker.sendPatiently, Breaker.send,
      Breaker.standard, Breaker.new, Breaker.begin, Breaker.complete, Breaker.fail,
      Guarded.isRetried, Outcome.completion, NetworkFault.isTransport, NetworkFault.isA,
      NetworkFault.isWithin, NetworkFault.parent?, network, hesitant, client]
  have text : Text.utf8Lossy (Text.utf8Bytes (String.ofList numbered)) = numbered := by decide +kernel
  have baffling : Baffling 400 (Text.utf8Lossy (Text.utf8Bytes (String.ofList numbered)))
      .unsupported := by
    rw [text]
    exact baffling_numbered
  obtain ⟨-, baffled, -⟩ := request_classified network transport client .list _ 0
  exact ⟨transport, (baffled .unsupported 400 _ sent (by decide) baffling).1⟩

/-- A refusal whose message is a number is not classified, though it would be without a body. -/
theorem refusal_unclassified :
    classify 400 [] = .ok .invalidData ∧ classify 400 numbered = .error .unsupported ∧
      refusal 400 numbered "creating product" = .error .unsupported := by
  exact ⟨rfl, classify_error_iff.mpr baffling_numbered, refusal_error_iff.mpr baffling_numbered⟩

end Catalog.Client

end Storekeeper
