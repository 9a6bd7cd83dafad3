import Storekeeper.Flow.Basic
import Storekeeper.Product.Basic
import Storekeeper.Failure
import Storekeeper.Tally

/-!
# Turns that ask the world

Between receiving a message and answering it the assistant may ask for products, have a product
created and need a fresh identifier.  A `Turn` says what is asked next and how to go on with the
answer, so that a turn is a value that can be run in one go, or step by step between the steps of
other turns.  Every turn asks finitely often.
-/

namespace Storekeeper

/-- How an action of a flow ended. -/
inductive ActionStatus where
  | notConfigured
  | incomplete
  | error
  | success
  deriving DecidableEq, Repr

/-- The name of a status. -/
def ActionStatus.name : ActionStatus → String
  | notConfigured => "not_configured"
  | incomplete => "incomplete"
  | error => "error"
  | success => "success"

/-- An action that was run, and how it ended. -/
structure ActionRun where
  action : Action
  status : ActionStatus
  deriving DecidableEq, Repr

/-- What the assistant reports to those who run it, since it should not happen or is worth knowing:
each alarm names the chat and what it is about. -/
inductive Alarm where
  /-- A conversation stands at no step of the flow. -/
  | unknownStep (chat step : String)
  /-- The flow does not start at a trigger. -/
  | noTrigger (chat step : String)
  /-- A choice of a menu leads nowhere. -/
  | noTransition (chat step choice : String)
  /-- There is no menu to which a cancelled question could return. -/
  | noRecoveryStep (chat : String)
  /-- A step that is to be entered is no step of the flow. -/
  | noTarget (chat step : String)
  /-- An action is not run, since enough have been run in a row. -/
  | hopLimit (chat step : String)
  deriving DecidableEq, Repr

/-- What is written down while turns run: the actions that have been counted, and the alarms. -/
structure Ledger where
  actions : Tally ActionRun
  alarms : List Alarm

namespace Ledger

/-- The ledger before the first turn. -/
def empty : Ledger :=
  ⟨[], []⟩

/-- The ledger with one more action. -/
def count (ledger : Ledger) (run : ActionRun) : Ledger :=
  { ledger with actions := ledger.actions.count run }

/-- The ledger with one more alarm, at the end. -/
def warn (ledger : Ledger) (alarm : Alarm) : Ledger :=
  { ledger with alarms := ledger.alarms ++ [alarm] }

end Ledger

/-- A turn that ends with a value: what it asks next, and how it goes on. -/
inductive Turn (α : Type) where
  /-- The turn is over. -/
  | done (value : α)
  /-- The turn cannot be finished. -/
  | fail (failure : Failure)
  /-- The first products of the catalog are asked for. -/
  | list (limit : Int) (next : Except Failure (List Product) → Turn α)
  /-- A product is to be created. -/
  | create (product : NewProduct) (next : Except Failure Product → Turn α)
  /-- A fresh identifier is needed. -/
  | identify (next : String → Turn α)
  /-- An action has been run and is counted. -/
  | note (run : ActionRun) (next : Turn α)
  /-- An alarm is raised. -/
  | warn (alarm : Alarm) (next : Turn α)

namespace Turn

variable {α β σ : Type}

/-- A turn followed by another one that depends on its value. -/
def bind : Turn α → (α → Turn β) → Turn β
  | done value, rest => rest value
  | fail failure, _ => fail failure
  | list limit next, rest => list limit fun answer => (next answer).bind rest
  | create product next, rest => create product fun answer => (next answer).bind rest
  | identify next, rest => identify fun answer => (next answer).bind rest
  | note run next, rest => note run (next.bind rest)
  | warn alarm next, rest => warn alarm (next.bind rest)

instance : Monad Turn where
  pure := done
  bind := bind

/-- A turn followed by what it ends with is the turn itself. -/
theorem bind_done (turn : Turn α) : turn.bind done = turn := by
  induction turn with
  | done value => rfl
  | fail failure => rfl
  | list limit next ih => simp only [bind, ih]
  | create product next ih => simp only [bind, ih]
  | identify next ih => simp only [bind, ih]
  | note run next ih => simp only [bind, ih]
  | warn alarm next ih => simp only [bind, ih]

/-- Turns that follow each other may be grouped in either way. -/
theorem bind_assoc {γ : Type} (turn : Turn α) (second : α → Turn β) (third : β → Turn γ) :
    (turn.bind second).bind third = turn.bind fun value => (second value).bind third := by
  induction turn with
  | done value => rfl
  | fail failure => rfl
  | list limit next ih => simp only [bind, ih]
  | create product next ih => simp only [bind, ih]
  | identify next ih => simp only [bind, ih]
  | note run next ih => simp only [bind, ih]
  | warn alarm next ih => simp only [bind, ih]

/-- The turn that only has a result, or only a failure. -/
def ofExcept : Except Failure α → Turn α
  | .ok value => done value
  | .error failure => fail failure

/-- Asks for the first products of the catalog. -/
def askProducts (limit : Int) : Turn (Except Failure (List Product)) :=
  list limit done

/-- Asks for a product to be created. -/
def askCreation (product : NewProduct) : Turn (Except Failure Product) :=
  create product done

/-- Asks for a fresh identifier. -/
def askIdentifier : Turn String :=
  identify done

/-- Counts an action. -/
def count (action : Action) (status : ActionStatus) : Turn Unit :=
  note ⟨action, status⟩ (done ())

/-- Raises an alarm. -/
def raise (alarm : Alarm) : Turn Unit :=
  warn alarm (done ())

end Turn

/-- The world as turns and answers meet it: each member may change its state. -/
structure Surroundings (σ : Type) where
  listProducts : Int → σ → Except Failure (List Product) × σ
  createProduct : NewProduct → σ → Except Failure Product × σ
  identifier : σ → String × σ

namespace Turn

variable {α σ : Type}

/-- A turn run in one go: what it ends with, the ledger, and the world afterwards. -/
def run (world : Surroundings σ) : Turn α → Ledger × σ → Except Failure α × Ledger × σ
  | done value, (ledger, s) => (.ok value, ledger, s)
  | fail failure, (ledger, s) => (.error failure, ledger, s)
  | list limit next, (ledger, s) =>
    let (answer, s) := world.listProducts limit s
    run world (next answer) (ledger, s)
  | create product next, (ledger, s) =>
    let (answer, s) := world.createProduct product s
    run world (next answer) (ledger, s)
  | identify next, (ledger, s) =>
    let (answer, s) := world.identifier s
    run world (next answer) (ledger, s)
  | note counted next, (ledger, s) => run world next (ledger.count counted, s)
  | warn alarm next, (ledger, s) => run world next (ledger.warn alarm, s)

/-- A run of one turn after another is a run of the first and then, unless it fails, of the
second. -/
theorem run_bind {β : Type} (world : Surroundings σ) (turn : Turn α) (rest : α → Turn β)
    (state : Ledger × σ) :
    (turn.bind rest).run world state =
      match turn.run world state with
      | (.ok value, state) => (rest value).run world state
      | (.error failure, state) => (.error failure, state) := by
  induction turn generalizing state with
  | done value => rfl
  | fail failure => rfl
  | list limit next ih => exact ih _ _
  | create product next ih => exact ih _ _
  | identify next ih => exact ih _ _
  | note run next ih => exact ih _
  | warn alarm next ih => exact ih _

end Turn

end Storekeeper
