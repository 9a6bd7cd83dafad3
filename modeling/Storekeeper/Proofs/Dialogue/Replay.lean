import Storekeeper.Proofs.Dialogue.Isolation

/-!
# Turns replayed from their records

All that a turn meets of the world are two readings of the clock and the answers to its requests, in
their order.  `Desk.serve` runs a turn again from a record of these; the clock stands still but for the
two readings, and nothing else happens meanwhile.

* `Turn.Goes.replayed`: a turn whose requests are answered as on one of its courses takes this course.
* `Turn.advance?` is one deed of a turn, given the answer to its request, and `Turn.outcome_advance` says
  that the rest of the turn ends as the whole does.
* `Desk.turn_eq_serve`: a turn in any world is the one served from its own record.
-/

namespace Storekeeper

/-- What the world answers to a request of a turn. -/
inductive Returned where
  | products (answer : Except Failure (List Product))
  | product (answer : Except Failure Product)
  | sku (sku : String)

/-- The answer that a deed has got, if it was a request. -/
def Deed.returned? : Deed → Option Returned
  | listed _ answer => some (.products answer)
  | created _ answer => some (.product answer)
  | identified sku => some (.sku sku)
  | _ => none

/-- The world that gives prepared answers.  One that does not fit what is asked stays, and the request
fails or gets an empty text. -/
def Surroundings.replay : Surroundings (List Returned) where
  listProducts := fun
    | _, .products answer :: rest => (answer, rest)
    | _, rest => (.error .outOfRange, rest)
  createProduct := fun
    | _, .product answer :: rest => (answer, rest)
    | _, rest => (.error .outOfRange, rest)
  identifier := fun
    | .sku sku :: rest => (sku, rest)
    | rest => ("", rest)

namespace Turn

variable {α σ : Type} (world : Surroundings σ) (s : σ)

/-- A turn that is answered as on one of its courses takes this course. -/
theorem Goes.replayed {turn : Turn α} {deeds : List Deed} {out : Except Failure α}
    (course : turn.Goes deeds out) (more : List Returned) :
    turn.outcome .replay (deeds.filterMap Deed.returned? ++ more) = out ∧
      turn.deeds .replay (deeds.filterMap Deed.returned? ++ more) = deeds := by
  induction course with
  | done value => exact ⟨rfl, rfl⟩
  | fail failure => exact ⟨rfl, rfl⟩
  | list rest ih => exact ⟨ih.1, congrArg _ ih.2⟩
  | create rest ih => exact ⟨ih.1, congrArg _ ih.2⟩
  | identify rest ih => exact ⟨ih.1, congrArg _ ih.2⟩
  | @note run next deeds out rest ih =>
    simp only [List.filterMap_cons, Deed.returned?, outcome_note]
    exact ⟨ih.1, congrArg _ ih.2⟩
  | @warn alarm next deeds out rest ih =>
    simp only [List.filterMap_cons, Deed.returned?, outcome_warn]
    exact ⟨ih.1, congrArg _ ih.2⟩

/-- The next deed of a turn and the rest of it: the answer must fit what is asked, and there must be
none if nothing is. -/
def advance? : Turn α → Option Returned → Option (Deed × Turn α)
  | list limit next, some (.products answer) => some (.listed limit answer, next answer)
  | create product next, some (.product answer) => some (.created product answer, next answer)
  | identify next, some (.sku sku) => some (.identified sku, next sku)
  | note run next, none => some (.counted run, next)
  | warn alarm next, none => some (.warned alarm, next)
  | _, _ => none

/-- How a turn ends that has nothing left to do. -/
def ended? : Turn α → Option (Except Failure α)
  | done value => some (.ok value)
  | fail failure => some (.error failure)
  | _ => none

variable {world s} {turn next : Turn α} {answer : Option Returned} {deed : Deed}

/-- The rest of a turn ends as the turn does. -/
theorem outcome_advance (advance : turn.advance? answer = some (deed, next)) (more : List Returned) :
    turn.outcome .replay (answer.toList ++ more) = next.outcome .replay more := by
  cases turn with
  | done value => cases answer <;> cases advance
  | fail failure => cases answer <;> cases advance
  | list limit next =>
    rcases answer with _ | ⟨_ | _ | _⟩ <;> cases advance
    rfl
  | create product next =>
    rcases answer with _ | ⟨_ | _ | _⟩ <;> cases advance
    rfl
  | identify next =>
    rcases answer with _ | ⟨_ | _ | _⟩ <;> cases advance
    rfl
  | note run next =>
    cases answer <;> cases advance
    exact outcome_note ..
  | warn alarm next =>
    cases answer <;> cases advance
    exact outcome_warn ..

theorem outcome_of_ended {out : Except Failure α} (ended : turn.ended? = some out) :
    turn.outcome world s = out := by
  cases turn with
  | done value => cases ended; rfl
  | fail failure => cases ended; rfl
  | _ => cases ended

/-- A course is its deeds one by one, and then its end. -/
theorem Goes.advances {deeds : List Deed} {out : Except Failure α}
    (course : turn.Goes (deed :: deeds) out) :
    ∃ next, turn.advance? deed.returned? = some (deed, next) ∧ next.Goes deeds out := by
  cases course with
  | list rest => exact ⟨_, rfl, rest⟩
  | create rest => exact ⟨_, rfl, rest⟩
  | identify rest => exact ⟨_, rfl, rest⟩
  | note rest => exact ⟨_, rfl, rest⟩
  | warn rest => exact ⟨_, rfl, rest⟩

theorem Goes.ended {out : Except Failure α} (course : turn.Goes [] out) :
    turn.ended? = some out := by
  cases course with
  | done value => rfl
  | fail failure => rfl

end Turn

/-- A turn that is over: what was said in which chat, the readings of the clock when its session was
taken and when its decision was carried out, and what the world answered between them. -/
structure Served where
  chat : String
  content : Inbound
  began : Time
  answers : List Returned
  ended : Time

namespace Desk

/-- What has been decided is carried out; what cannot be stays undone. -/
def conclude (desk : Desk) (now : Time) (kind : String) (out : Except Failure Decision) :
    Except Failure Reply × Desk :=
  match out.bind (desk.finish now kind) with
  | .ok (reply, desk) => (.ok reply, desk)
  | .error failure => (.error failure, desk)

/-- A turn is run in one go from its record. -/
def serve (a : Assistant) (desk : Desk) (served : Served) : Except Failure Reply × Desk :=
  let (begun, desk) := desk.begin a served.began served.chat served.content
  let (out, ledger, _) := begun.turn.run .replay (desk.toLedger, served.answers)
  { desk with toLedger := ledger }.conclude served.ended begun.kind out

/-- Turns are run from their records, one after the other. -/
def serveAll (a : Assistant) (desk : Desk) : List Served → List (Except Failure Reply) × Desk
  | [] => ([], desk)
  | served :: rest =>
    let (reply, desk) := desk.serve a served
    let (replies, desk) := serveAll a desk rest
    (reply :: replies, desk)

variable {σ : Type} (a : Assistant) (desk : Desk)

theorem serveAll_concat (past : List Served) (last : Served) :
    desk.serveAll a (past ++ [last]) =
      ((desk.serveAll a past).1 ++ [((desk.serveAll a past).2.serve a last).1],
        ((desk.serveAll a past).2.serve a last).2) := by
  induction past generalizing desk with
  | nil => rfl
  | cons first rest ih => simp only [List.cons_append, serveAll, ih]

theorem conclude_ends (now : Time) (kind : String) (out : Except Failure Decision) :
    desk.store.Ends now out (desk.conclude now kind out).1 (desk.conclude now kind out).2.store := by
  cases out with
  | error failure => exact .failed failure
  | ok decision =>
    simp only [conclude, Except.bind, finish]
    generalize committing : Store.commit _ _ decision.write = committed
    cases committed with
    | error failure => exact .unstored committing
    | ok store => exact .carriedOut committing

theorem conclude_locks (now : Time) (kind : String) (out : Except Failure Decision) :
    (desk.conclude now kind out).2.locks = desk.locks := by
  cases out with
  | error failure => rfl
  | ok decision =>
    simp only [conclude, Except.bind, finish]
    generalize Store.commit _ _ decision.write = committed
    cases committed with
    | error failure => rfl
    | ok store => rfl

/-- The desk at the end of a turn, when its decision is still to be carried out: the session has been
taken and the deeds are written down. -/
def atEnd (desk : Desk) (began : Time) (chat : String) (deeds : List Deed) : Desk :=
  { desk with
    toLedger := desk.toLedger.enter deeds
    store := (desk.store.get began chat).2 }

theorem serve_eq (served : Served) :
    let asked := desk.response a served.began served.chat served.content
    desk.serve a served =
      (desk.atEnd served.began served.chat (asked.deeds .replay served.answers)).conclude
        served.ended (a.answeringKind (desk.live served.began served.chat))
        (asked.outcome .replay served.answers) := by
  unfold serve Desk.begin
  simp only [Turn.run_eq]
  rfl

theorem serve_ends (served : Served) :
    (desk.store.get served.began served.chat).2.Ends served.ended
      ((desk.response a served.began served.chat served.content).outcome .replay served.answers)
      (desk.serve a served).1 (desk.serve a served).2.store := by
  rw [serve_eq]
  exact conclude_ends (desk.atEnd served.began served.chat _) ..

theorem turn_eq {σ : Type} (world : World σ) (chat : String) (content : Inbound) (s : σ) :
    let concluded := (desk.atEnd (world.now s) chat (desk.deeds world a chat content s)).conclude
      (desk.finished world a chat content s) (a.answeringKind (desk.live (world.now s) chat))
      (desk.decision world a chat content s)
    desk.turn world a chat content s = (concluded.1, concluded.2,
      (desk.response a (world.now s) chat content).final world.toSurroundings s) := by
  unfold turn Desk.begin conclude
  simp only [Turn.run_eq]
  unfold decision deeds finished atEnd response opening live Store.live
  simp only
  cases Except.bind _ _ with
  | error failure => rfl
  | ok result => rfl

/-- A turn in any world is the one that is served from its record. -/
theorem turn_eq_serve {σ : Type} (world : World σ) (chat : String) (content : Inbound) (s : σ) :
    let served : Served :=
      ⟨chat, content, world.now s, (desk.deeds world a chat content s).filterMap Deed.returned?,
        desk.finished world a chat content s⟩
    (desk.turn world a chat content s).1 = (desk.serve a served).1 ∧
      (desk.turn world a chat content s).2.1 = (desk.serve a served).2 := by
  intro served
  have course := Turn.goes_deeds world.toSurroundings (desk.response a (world.now s) chat content) s
  have replayed := course.replayed []
  rw [List.append_nil] at replayed
  have decided : (desk.response a served.began served.chat served.content).outcome .replay
      served.answers = desk.decision world a chat content s := replayed.1
  have done : (desk.response a served.began served.chat served.content).deeds .replay
      served.answers = desk.deeds world a chat content s := replayed.2
  have again := desk.serve_eq a served
  simp only [decided, done] at again
  rw [again, turn_eq]
  exact ⟨rfl, rfl⟩

end Desk

end Storekeeper
