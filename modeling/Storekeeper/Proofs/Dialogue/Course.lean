import Storekeeper.Dialogue.Turn

/-!
# Courses of a turn

A turn asks the world, counts actions and raises alarms before it ends.  `Turn.Goes` says which
deeds in a row, with which answers, lead to which end, for whatever the world may answer; it is what
a proof about a turn speaks of.

* `Turn.goes_bind` takes a course of two turns in a row apart into a course of each.
* `Turn.run_eq` says that a run is such a course: `Turn.deeds` are its deeds, the ledger is the one
  before with these deeds written down, and the end does not depend on the ledger.
-/

namespace Storekeeper

/-- Something that a turn does on its way: it asks and is answered, or it writes something down. -/
inductive Deed where
  | listed (limit : Int) (answer : Except Failure (List Product))
  | created (product : NewProduct) (answer : Except Failure Product)
  | identified (sku : String)
  | counted (run : ActionRun)
  | warned (alarm : Alarm)

/-- A product that the catalog has been asked to create, and its answer. -/
structure Creation where
  product : NewProduct
  answer : Except Failure Product

namespace Deed

/-- The ledger with a deed written down. -/
def enter (ledger : Ledger) : Deed → Ledger
  | counted run => ledger.count run
  | warned alarm => ledger.warn alarm
  | _ => ledger

/-- The alarm that a deed raises. -/
def alarm? : Deed → Option Alarm
  | warned alarm => some alarm
  | _ => none

/-- The action that a deed counts. -/
def run? : Deed → Option ActionRun
  | counted run => some run
  | _ => none

/-- The creation that a deed asks for. -/
def creation? : Deed → Option Creation
  | created product answer => some ⟨product, answer⟩
  | _ => none

end Deed

/-- The ledger with deeds written down, in their order. -/
def Ledger.enter (ledger : Ledger) (deeds : List Deed) : Ledger :=
  deeds.foldl Deed.enter ledger

/-- The alarms of deeds stand behind those that are in the ledger. -/
theorem Ledger.enter_alarms (ledger : Ledger) (deeds : List Deed) :
    (ledger.enter deeds).alarms = ledger.alarms ++ deeds.filterMap Deed.alarm? := by
  induction deeds generalizing ledger with
  | nil => simp [Ledger.enter]
  | cons deed deeds ih =>
    have later := ih (deed.enter ledger)
    cases deed <;>
      simpa [Ledger.enter, Deed.enter, Deed.alarm?, Ledger.warn, Ledger.count,
        List.filterMap_cons] using later

/-- Each counted action adds one to the number of counts in the ledger. -/
theorem Ledger.total_enter (ledger : Ledger) (deeds : List Deed) :
    Tally.total (ledger.enter deeds).actions =
      Tally.total ledger.actions + (deeds.filterMap Deed.run?).length := by
  induction deeds generalizing ledger with
  | nil => simp [Ledger.enter]
  | cons deed deeds ih =>
    have later := ih (deed.enter ledger)
    cases deed with
    | counted run =>
      have once : Tally.total (ledger.count run).actions = Tally.total ledger.actions + 1 :=
        Tally.total_count ledger.actions run
      simp only [Deed.enter, once] at later
      simp only [Deed.run?, List.filterMap_cons, List.length_cons]
      exact later.trans (by omega)
    | _ =>
      simpa [Ledger.enter, Deed.enter, Deed.run?, Ledger.warn, List.filterMap_cons] using later

namespace Turn

variable {α β σ : Type}

/-- `turn.Goes deeds out`: if the world answers as the deeds say, the turn does them in this order
and ends with `out`. -/
inductive Goes : Turn α → List Deed → Except Failure α → Prop
  | done (value : α) : Goes (.done value) [] (.ok value)
  | fail (failure : Failure) : Goes (.fail failure) [] (.error failure)
  | list {limit : Int} {next : Except Failure (List Product) → Turn α}
    {answer : Except Failure (List Product)} {deeds : List Deed} {out : Except Failure α} :
    Goes (next answer) deeds out → Goes (.list limit next) (.listed limit answer :: deeds) out
  | create {product : NewProduct} {next : Except Failure Product → Turn α}
    {answer : Except Failure Product} {deeds : List Deed} {out : Except Failure α} :
    Goes (next answer) deeds out →
    Goes (.create product next) (.created product answer :: deeds) out
  | identify {next : String → Turn α} {sku : String} {deeds : List Deed} {out : Except Failure α} :
    Goes (next sku) deeds out → Goes (.identify next) (.identified sku :: deeds) out
  | note {run : ActionRun} {next : Turn α} {deeds : List Deed} {out : Except Failure α} :
    Goes next deeds out → Goes (.note run next) (.counted run :: deeds) out
  | warn {alarm : Alarm} {next : Turn α} {deeds : List Deed} {out : Except Failure α} :
    Goes next deeds out → Goes (.warn alarm next) (.warned alarm :: deeds) out

/-- A course of one turn after another is a course of the first that fails, or a course of the
first followed by one of the second. -/
theorem goes_bind {turn : Turn α} {rest : α → Turn β} {deeds : List Deed} {out : Except Failure β}
    (course : (turn.bind rest).Goes deeds out) :
    (∃ failure, turn.Goes deeds (.error failure) ∧ out = .error failure) ∨
      ∃ value first second, turn.Goes first (.ok value) ∧ (rest value).Goes second out ∧
        deeds = first ++ second := by
  induction turn generalizing deeds with
  | done value => exact .inr ⟨value, [], deeds, .done value, course, rfl⟩
  | fail failure =>
    cases course
    exact .inl ⟨failure, .fail failure, rfl⟩
  | list limit next ih =>
    cases course with
    | list course =>
      rcases ih _ course with ⟨failure, failed, same⟩ | ⟨value, first, second, left, right, rfl⟩
      · exact .inl ⟨failure, .list failed, same⟩
      · exact .inr ⟨value, _, second, .list left, right, rfl⟩
  | create product next ih =>
    cases course with
    | create course =>
      rcases ih _ course with ⟨failure, failed, same⟩ | ⟨value, first, second, left, right, rfl⟩
      · exact .inl ⟨failure, .create failed, same⟩
      · exact .inr ⟨value, _, second, .create left, right, rfl⟩
  | identify next ih =>
    cases course with
    | identify course =>
      rcases ih _ course with ⟨failure, failed, same⟩ | ⟨value, first, second, left, right, rfl⟩
      · exact .inl ⟨failure, .identify failed, same⟩
      · exact .inr ⟨value, _, second, .identify left, right, rfl⟩
  | note run next ih =>
    cases course with
    | note course =>
      rcases ih course with ⟨failure, failed, same⟩ | ⟨value, first, second, left, right, rfl⟩
      · exact .inl ⟨failure, .note failed, same⟩
      · exact .inr ⟨value, _, second, .note left, right, rfl⟩
  | warn alarm next ih =>
    cases course with
    | warn course =>
      rcases ih course with ⟨failure, failed, same⟩ | ⟨value, first, second, left, right, rfl⟩
      · exact .inl ⟨failure, .warn failed, same⟩
      · exact .inr ⟨value, _, second, .warn left, right, rfl⟩

/-- The deeds of a turn that is run in one go. -/
def deeds (world : Surroundings σ) : Turn α → σ → List Deed
  | done _, _ => []
  | fail _, _ => []
  | list limit next, s =>
    let (answer, s) := world.listProducts limit s
    .listed limit answer :: deeds world (next answer) s
  | create product next, s =>
    let (answer, s) := world.createProduct product s
    .created product answer :: deeds world (next answer) s
  | identify next, s =>
    let (sku, s) := world.identifier s
    .identified sku :: deeds world (next sku) s
  | note counted next, s => .counted counted :: deeds world next s
  | warn alarm next, s => .warned alarm :: deeds world next s

/-- What a turn that is run in one go ends with. -/
def outcome (world : Surroundings σ) (turn : Turn α) (s : σ) : Except Failure α :=
  (turn.run world (.empty, s)).1

/-- The world after a turn that is run in one go. -/
def final (world : Surroundings σ) (turn : Turn α) (s : σ) : σ :=
  (turn.run world (.empty, s)).2.2

/-- A run from any ledger ends alike, and its deeds are written into the ledger. -/
theorem run_eq (world : Surroundings σ) (turn : Turn α) (ledger : Ledger) (s : σ) :
    turn.run world (ledger, s) =
      (turn.outcome world s, ledger.enter (turn.deeds world s), turn.final world s) := by
  suffices same : ∀ other : Ledger, turn.run world (ledger, s) =
      ((turn.run world (other, s)).1, ledger.enter (turn.deeds world s),
        (turn.run world (other, s)).2.2) from same .empty
  induction turn generalizing ledger s with
  | done value => intro other; rfl
  | fail failure => intro other; rfl
  | list limit next ih => intro other; exact ih _ ledger _ other
  | create product next ih => intro other; exact ih _ ledger _ other
  | identify next ih => intro other; exact ih _ ledger _ other
  | note counted next ih => intro other; exact ih (ledger.count counted) s (other.count counted)
  | warn alarm next ih => intro other; exact ih (ledger.warn alarm) s (other.warn alarm)

theorem goes_deeds (world : Surroundings σ) (turn : Turn α) (s : σ) :
    turn.Goes (turn.deeds world s) (turn.outcome world s) := by
  suffices every : ∀ ledger : Ledger,
      turn.Goes (turn.deeds world s) (turn.run world (ledger, s)).1 from every .empty
  induction turn generalizing s with
  | done value => intro ledger; exact .done value
  | fail failure => intro ledger; exact .fail failure
  | list limit next ih => intro ledger; exact .list (ih _ _ ledger)
  | create product next ih => intro ledger; exact .create (ih _ _ ledger)
  | identify next ih => intro ledger; exact .identify (ih _ _ ledger)
  | note counted next ih => intro ledger; exact .note (ih s (ledger.count counted))
  | warn alarm next ih => intro ledger; exact .warn (ih s (ledger.warn alarm))

variable (world : Surroundings σ) (s : σ)

@[simp]
theorem outcome_done (value : α) : (done value).outcome world s = .ok value :=
  rfl

@[simp]
theorem outcome_fail (failure : Failure) : (fail failure : Turn α).outcome world s = .error failure :=
  rfl

@[simp]
theorem outcome_note (run : ActionRun) (next : Turn α) :
    (note run next).outcome world s = next.outcome world s := by
  have counted := run_eq world next (Ledger.empty.count run) s
  change (next.run world (Ledger.empty.count run, s)).1 = _
  rw [counted]

@[simp]
theorem outcome_warn (alarm : Alarm) (next : Turn α) :
    (warn alarm next).outcome world s = next.outcome world s := by
  have warned := run_eq world next (Ledger.empty.warn alarm) s
  change (next.run world (Ledger.empty.warn alarm, s)).1 = _
  rw [warned]

variable {world s} {turn : Turn α}

/-- A turn that comes to a value is followed by the turn that depends on it. -/
theorem bind_of_ok {value : α} (came : turn.outcome world s = .ok value) (rest : α → Turn β) :
    (turn.bind rest).outcome world s = (rest value).outcome world (turn.final world s) ∧
      (turn.bind rest).final world s = (rest value).final world (turn.final world s) := by
  have both := run_bind world turn rest (.empty, s)
  rw [run_eq world turn, came] at both
  simp only [run_eq, Prod.mk.injEq] at both
  exact ⟨both.1, both.2.2⟩

theorem bind_of_error {failure : Failure} (failed : turn.outcome world s = .error failure)
    (rest : α → Turn β) : (turn.bind rest).outcome world s = .error failure ∧
      (turn.bind rest).final world s = turn.final world s := by
  have both := run_bind world turn rest (.empty, s)
  rw [run_eq world turn, failed] at both
  simp only [run_eq, Prod.mk.injEq] at both
  exact ⟨both.1, both.2.2⟩

end Turn

end Storekeeper
