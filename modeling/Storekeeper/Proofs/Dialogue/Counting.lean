import Storekeeper.Proofs.Dialogue.Chaining

/-!
# What is counted at a desk

Turns are counted when they return, actions when they are run, and the number of stored sessions is reported by every
turn that returns and by every sweep.  After any events the counts should agree with what has happened.

* `Performance` is an action that has been run with what was done for it; `Desk.Performed` are those of all turns over
  some events, one for each step of the chains that are run.
* `Desk.Performed.counts`: each of them is counted once, with how it has ended, whatever becomes of its turn.
* `Desk.afterAll_turns` and `Desk.afterAll_gauge` say the same of the turns and of the number of sessions, by what one
  event does to them.
* `Desk.metrics_agree` puts all this together.  The number of sessions is wrong after a turn that fails when an expired
  session has been removed, until the next report.
-/

namespace Storekeeper

/-- The catalog has done what it was asked for. -/
def Deed.isGranted : Deed → Bool
  | listed _ (.ok _) => true
  | created _ (.ok _) => true
  | _ => false

/-- An action that has been run, with all that was done for it. -/
structure Performance where
  action : Action
  deeds : List Deed

/-- A performance is counted once: with its action, and as a success just if the catalog has done what it was asked
for. -/
structure Performance.CountsAs (p : Performance) (run : ActionRun) : Prop where
  once : p.deeds.filterMap Deed.run? = [run]
  action : run.action = p.action
  success : run.status = .success ↔ p.deeds.any Deed.isGranted = true

theorem countsAs_runs {performances : List Performance} {runs : List ActionRun}
    (counted : List.Forall₂ Performance.CountsAs performances runs) :
    (performances.flatMap Performance.deeds).filterMap Deed.run? = runs := by
  induction counted with
  | nil => rfl
  | cons counts _ ih => rw [List.flatMap_cons, List.filterMap_append, counts.once, ih, List.singleton_append]

/-- Alarms count for no action. -/
theorem errands_runs (deeds : List Deed) : (errands deeds).filterMap Deed.run? = deeds.filterMap Deed.run? := by
  unfold errands
  rw [List.filterMap_filter]
  refine List.filterMap_congr fun deed _ => ?_
  cases deed <;> rfl

/-- What is counted in the ledger are the actions that are counted on the way. -/
theorem Ledger.enter_counts {ledger : Ledger} {runs : List ActionRun} (counts : ledger.actions.Counts runs)
    (deeds : List Deed) : (ledger.enter deeds).actions.Counts (runs ++ deeds.filterMap Deed.run?) := by
  induction deeds generalizing ledger runs with
  | nil => simpa [Ledger.enter] using counts
  | cons deed deeds ih =>
    cases deed with
    | counted run =>
      have later : ((ledger.count run).enter deeds).actions.Counts
          (runs ++ [run] ++ deeds.filterMap Deed.run?) := ih (counts.count run)
      rwa [List.append_assoc] at later
    | _ => exact ih counts

namespace Assistant

variable {a : Assistant} {context after : Table Json} {deeds : List Deed} {names : List String}

/-- A performance is a course of the action of a step. -/
inductive Performs (a : Assistant) : String → Performance → Prop
  | of {name : String} {step : ActionStep} {context : Table Json} {deeds : List Deed} {result : Table Json × String}
    (found : a.flow.step? name = some (.action step)) (acts : a.Acts context step.action deeds (.ok result)) :
    Performs a name ⟨step.action, deeds⟩

/-- An action that does not fail is counted with how it has ended. -/
theorem Acts.countsAs {action : Action} {result : Table Json × String}
    (acts : a.Acts context action deeds (.ok result)) : ∃ run, Performance.CountsAs ⟨action, deeds⟩ run := by
  cases acts with
  | lists lists => cases lists <;> exact ⟨_, rfl, rfl, by simp [Deed.isGranted]⟩
  | adds adds => cases adds <;> exact ⟨_, rfl, rfl, by simp [Deed.isGranted]⟩

theorem Performs.countsAs {name : String} {p : Performance} (performs : a.Performs name p) :
    ∃ run, p.CountsAs run := by
  cases performs with
  | of _ acts => exact acts.countsAs

/-- Running some steps is one performance for each of them. -/
theorem Runs.performs (runs : a.Runs names context deeds after) :
    ∃ performances, List.Forall₂ a.Performs names performances ∧
      performances.flatMap Performance.deeds = deeds := by
  induction runs with
  | nil => exact ⟨[], .nil, rfl⟩
  | cons found acts _ ih =>
    obtain ⟨performances, performed, rfl⟩ := ih
    exact ⟨_, .cons (.of found acts) performed, rfl⟩

theorem countsAs_of_performs {performances : List Performance}
    (performed : List.Forall₂ a.Performs names performances) :
    ∃ runs, List.Forall₂ Performance.CountsAs performances runs := by
  induction performed with
  | nil => exact ⟨[], .nil⟩
  | cons performs _ ih =>
    obtain ⟨run, counts⟩ := performs.countsAs
    obtain ⟨runs, counted⟩ := ih
    exact ⟨run :: runs, .cons counts counted⟩

end Assistant

namespace Desk

variable {σ : Type} {world : World σ} {a : Assistant} {desk : Desk} {chat : String} {content : Inbound} {s : σ}
  {performances : List Performance} {events : List (Event σ)}

/-! ## Actions -/

/-- The steps whose actions a turn runs: the chain of the step to which the message leads, as far as so many actions
go. -/
inductive StepsRun (world : World σ) (a : Assistant) (desk : Desk) (chat : String) (content : Inbound) (s : σ) :
    List String → Prop
  | led {name : String} {arrival : Arrival} (leads : desk.Leads world a chat content s name arrival) :
    StepsRun world a desk chat content s (a.flow.chain a.maxHops.toNat name)
  | quiet (nowhere : ∀ name arrival, ¬desk.Leads world a chat content s name arrival) :
    StepsRun world a desk chat content s []

/-- The performances of a turn: one for each of the steps that it runs, and nothing else is done for actions. -/
structure Performs (world : World σ) (a : Assistant) (desk : Desk) (chat : String) (content : Inbound) (s : σ)
    (performances : List Performance) : Prop where
  steps : ∃ names, desk.StepsRun world a chat content s names ∧ List.Forall₂ a.Performs names performances
  deeds : performances.flatMap Performance.deeds = errands (desk.deeds world a chat content s)

/-- The performances of all turns over some events, one turn after the other. -/
inductive Performed (world : World σ) (a : Assistant) : Desk → List (Event σ) → List Performance → Prop
  | nil {desk : Desk} : Performed world a desk [] []
  | message {desk : Desk} {chat : String} {content : Inbound} {s : σ} {events : List (Event σ)}
    {performances more : List Performance} (performs : desk.Performs world a chat content s performances)
    (later : Performed world a (desk.after world a (.message chat content s)) events more) :
    Performed world a desk (.message chat content s :: events) (performances ++ more)
  | sweep {desk : Desk} {s : σ} {events : List (Event σ)} {performances : List Performance}
    (later : Performed world a (desk.after world a (.sweep s)) events performances) :
    Performed world a desk (.sweep s :: events) performances

theorem exists_performs (sound : a.flow.Sound) (readable : desk.IsReadable) (chat : String) (content : Inbound)
    (s : σ) : ∃ performances, desk.Performs world a chat content s performances := by
  by_cases led : ∃ name arrival, desk.Leads world a chat content s name arrival
  · obtain ⟨name, arrival, leads⟩ := led
    have follows := leads.follows sound readable
    generalize done : desk.deeds world a chat content s = deeds at follows
    generalize desk.decision world a chat content s = out at follows
    cases follows with
    | @of run rest after reply write run rests =>
      obtain ⟨performances, performed, same⟩ := run.performs
      refine ⟨performances, ⟨_, .led leads, performed⟩, ?_⟩
      rw [done, errands_append, run.errands, rests.errands, List.append_nil, same]
  · have nowhere : ∀ name arrival, ¬desk.Leads world a chat content s name arrival :=
      fun name arrival leads => led ⟨name, arrival, leads⟩
    have idle := (process_answers world a desk chat content s).errands_nil
      (.inr fun name arrival leads => absurd leads (nowhere name arrival))
    exact ⟨[], ⟨[], .quiet nowhere, .nil⟩, idle.symm⟩

/-- Whatever happens, there are performances of it. -/
theorem exists_performed (sound : a.flow.Sound) (filed : desk.store.Filed) (readable : desk.IsReadable)
    (events : List (Event σ)) : ∃ performances, Performed world a desk events performances := by
  induction events generalizing desk with
  | nil => exact ⟨[], .nil⟩
  | cons event events ih =>
    obtain ⟨more, later⟩ := ih (after_filed filed event) (after_readable filed readable event)
    cases event with
    | message chat content s =>
      obtain ⟨performances, performs⟩ := exists_performs sound readable chat content s
      exact ⟨_, .message performs later⟩
    | sweep s => exact ⟨more, .sweep later⟩

/-- Each performance of a turn is counted once, also if the turn fails. -/
theorem Performs.counts (performs : desk.Performs world a chat content s performances) {before : List ActionRun}
    (counts : desk.actions.Counts before) :
    ∃ runs, List.Forall₂ Performance.CountsAs performances runs ∧
      (desk.after world a (.message chat content s)).actions.Counts (before ++ runs) := by
  obtain ⟨names, -, performed⟩ := performs.steps
  obtain ⟨runs, counted⟩ := Assistant.countsAs_of_performs performed
  have entered := Ledger.enter_counts counts (desk.deeds world a chat content s)
  rw [← errands_runs, ← performs.deeds, countsAs_runs counted, ← process_ledger] at entered
  exact ⟨runs, counted, entered⟩

/-- Each performance over some events is counted once. -/
theorem Performed.counts (performed : Performed world a desk events performances) {before : List ActionRun}
    (counts : desk.actions.Counts before) :
    ∃ runs, List.Forall₂ Performance.CountsAs performances runs ∧
      (desk.afterAll world a events).actions.Counts (before ++ runs) := by
  induction performed generalizing before with
  | nil => exact ⟨[], .nil, by rwa [List.append_nil]⟩
  | message performs _ ih =>
    obtain ⟨runs, counted, now⟩ := performs.counts counts
    obtain ⟨more, further, last⟩ := ih now
    rw [List.append_assoc] at last
    exact ⟨runs ++ more, List.rel_append counted further, last⟩
  | sweep _ ih => exact ih counts

/-! ## Turns and sessions -/

/-- The turn of an event, as it is to be counted, if it has returned. -/
def returnedBy (world : World σ) (a : Assistant) (desk : Desk) : Event σ → Option TurnKind
  | .message chat content s => (desk.process world a chat content s).1.toOption.map fun reply =>
    ⟨a.answeringKind (desk.live (world.now s) chat), reply.handled⟩
  | .sweep _ => none

/-- The turns that have returned over some events. -/
def returned (world : World σ) (a : Assistant) : Desk → List (Event σ) → List TurnKind
  | _, [] => []
  | desk, event :: events =>
    (desk.returnedBy world a event).toList ++ returned world a (desk.after world a event) events

/-- The number of sessions is reported with an event. -/
def reports (world : World σ) (a : Assistant) (desk : Desk) : Event σ → Bool
  | .message chat content s => (desk.process world a chat content s).1.isOk
  | .sweep _ => true

/-- A turn fails that has found the session of its chat expired. -/
def sheds (world : World σ) (a : Assistant) (desk : Desk) : Event σ → Bool
  | .message chat content s =>
    !(desk.process world a chat content s).1.isOk &&
      (desk.store.sessions.get? chat).any fun session => session.isExpired (world.now s)
  | .sweep _ => false

/-- How many such turns there have been since the last report, after so many of them. -/
def unreported (world : World σ) (a : Assistant) : Nat → Desk → List (Event σ) → Nat
  | n, _, [] => n
  | n, desk, event :: events =>
    let n := if desk.reports world a event then 0 else if desk.sheds world a event then n + 1 else n
    unreported world a n (desk.after world a event) events

/-- A turn that returns is counted and reports the number of sessions, and one that fails does neither. -/
theorem process_counts (world : World σ) (a : Assistant) (desk : Desk) (chat : String) (content : Inbound) (s : σ) :
    let next := (desk.process world a chat content s).2.1
    (∃ reply, (desk.process world a chat content s).1 = .ok reply ∧ next.gauge = next.store.size ∧
      next.turns = desk.turns.count ⟨a.answeringKind (desk.live (world.now s) chat), reply.handled⟩) ∨
    ∃ failure, (desk.process world a chat content s).1 = .error failure ∧ next.gauge = desk.gauge ∧
      next.turns = desk.turns := by
  unfold process turn Desk.begin
  simp only [Turn.run_eq]
  generalize Turn.outcome world.toSurroundings _ s = out
  cases out with
  | error failure => exact .inr ⟨failure, rfl, rfl, rfl⟩
  | ok decision =>
    simp only [Except.bind, finish]
    generalize Store.commit _ _ decision.write = committed
    cases committed with
    | error failure => exact .inr ⟨failure, rfl, rfl, rfl⟩
    | ok store => exact .inl ⟨decision.reply, rfl, rfl, rfl⟩

theorem after_turns (world : World σ) (a : Assistant) {desk : Desk} {before : List TurnKind}
    (counts : desk.turns.Counts before) (event : Event σ) :
    (desk.after world a event).turns.Counts (before ++ (desk.returnedBy world a event).toList) := by
  cases event with
  | message chat content s =>
    rw [after, returnedBy]
    rcases process_counts world a desk chat content s with ⟨reply, replied, -, turns⟩ | ⟨failure, failed, -, turns⟩
    · rw [turns, replied]
      exact counts.count _
    · rw [turns, failed, Except.toOption, Option.map_none, Option.toList_none, List.append_nil]
      exact counts
  | sweep s =>
    rw [returnedBy, Option.toList_none, List.append_nil]
    exact counts

/-- The turns that have been counted are those that have returned. -/
theorem afterAll_turns (world : World σ) (a : Assistant) {desk : Desk} {before : List TurnKind}
    (counts : desk.turns.Counts before) (events : List (Event σ)) :
    (desk.afterAll world a events).turns.Counts (before ++ desk.returned world a events) := by
  induction events generalizing desk before with
  | nil =>
    rw [returned, List.append_nil]
    exact counts
  | cons event events ih =>
    have later := ih (after_turns world a counts event)
    rwa [List.append_assoc] at later

theorem after_gauge (filed : desk.store.Filed) {n : Nat} (gauge : desk.gauge = desk.store.size + n)
    (event : Event σ) :
    (desk.after world a event).gauge = (desk.after world a event).store.size +
      if desk.reports world a event then 0 else if desk.sheds world a event then n + 1 else n := by
  cases event with
  | message chat content s =>
    rcases process_counts world a desk chat content s with ⟨reply, replied, gauged, -⟩ | ⟨failure, failed, same, -⟩
    · have reported : desk.reports world a (.message chat content s) = true := by
        rw [reports, replied]
        rfl
      rw [if_pos reported]
      exact gauged
    · have silent : desk.reports world a (.message chat content s) = false := by
        rw [reports, failed]
        rfl
      have expired : desk.sheds world a (.message chat content s) =
          (desk.store.sessions.get? chat).any fun session => session.isExpired (world.now s) := by
        rw [sheds, failed]
        rfl
      have fewer := Store.size_get filed.distinct (world.now s) chat
      rw [silent, expired, after, same, process_store_of_error failed, gauge, fewer, if_neg Bool.false_ne_true]
      split <;> omega
  | sweep s => rfl

/-- What is reported is the number of stored sessions and of those that have been removed since. -/
theorem afterAll_gauge (filed : desk.store.Filed) {n : Nat} (gauge : desk.gauge = desk.store.size + n)
    (events : List (Event σ)) :
    (desk.afterAll world a events).gauge =
      (desk.afterAll world a events).store.size + unreported world a n desk events := by
  induction events generalizing desk n with
  | nil => exact gauge
  | cons event events ih => exact ih (after_filed filed event) (after_gauge filed gauge event)

/-- A turn that fails after an expired session has been removed fails because another cannot be stored. -/
theorem beyond_of_sheds (readable : desk.IsReadable)
    (sheds : desk.sheds world a (.message chat content s) = true) :
    (desk.process world a chat content s).1 = .error .outOfRange ∧
      (desk.store.horizon < world.now s + desk.store.timeout ∨
        desk.store.horizon < desk.finished world a chat content s + desk.store.timeout) := by
  obtain ⟨failing, expired⟩ := Bool.and_eq_true_iff.mp sheds
  cases replied : (desk.process world a chat content s).1 with
  | ok reply =>
    rw [replied] at failing
    cases failing
  | error failure =>
    have gone : desk.live (world.now s) chat = none := by
      unfold live
      rw [Store.live_eq]
      cases found : desk.store.sessions.get? chat with
      | none => rfl
      | some session =>
        rw [found] at expired
        simp only [Option.any_some] at expired
        simp [expired]
    rcases process_error.mp replied with undecided | ⟨rfl, -, beyond⟩
    · rcases (decision_error readable).mp undecided with ⟨-, ⟨session, step, fields, found, -⟩⟩ | ⟨rfl, -, beyond⟩
      · cases gone.symm.trans found
      · exact ⟨rfl, .inl beyond⟩
    · exact ⟨rfl, .inr beyond⟩

/-- **The counts agree with what has happened**, but for the number of sessions after some failing turns.  Over a flow
that has been built, after any events at a new desk, in any world, also if turns fail:

* the turns that have been counted are those that have returned, with whether they have handled the message;
* each performance of an action has been counted once, as a success just if the catalog has done what it was asked for,
  and the performances are those of the steps that the turns have run;
* the number of sessions that is reported is too great by those that were found expired in turns that failed since the
  last report.  Such a turn fails only because a session cannot be stored beyond the horizon. -/
theorem metrics_agree {document : Json} (built : Flow.build document = .ok a.flow) (world : World σ)
    (timeout horizon : Time) (events : List (Event σ)) :
    let start := Desk.new ⟨timeout, horizon, []⟩
    let desk := start.afterAll world a events
    desk.turns.Counts (start.returned world a events) ∧
    ((∃ performances, Performed world a start events performances) ∧
      ∀ performances, Performed world a start events performances →
        Tally.total desk.actions = performances.length ∧
        ∃ runs, List.Forall₂ Performance.CountsAs performances runs ∧ desk.actions.Counts runs) ∧
    desk.gauge = desk.store.size + unreported world a 0 start events ∧
    ∀ chat content s, desk.sheds world a (.message chat content s) = true →
      (desk.process world a chat content s).1 = .error .outOfRange ∧
        (horizon < world.now s + timeout ∨ horizon < desk.finished world a chat content s + timeout) := by
  intro start desk
  have sound : a.flow.Sound := Flow.sound_of_build built
  have filed : start.store.Filed := .empty timeout horizon
  have readable : start.IsReadable := fun chat session found => by cases found
  refine ⟨?turns, ⟨exists_performed sound filed readable events, fun performances performed => ?actions⟩,
    afterAll_gauge filed rfl events, fun chat content s sheds => ?cause⟩
  case turns =>
    have none : start.turns.Counts [] := Tally.counts_nil
    exact afterAll_turns world a none events
  case actions =>
    obtain ⟨runs, counted, counts⟩ := performed.counts Tally.counts_nil
    exact ⟨by rw [counts.all, List.nil_append, counted.length_eq], runs, counted, counts⟩
  case cause =>
    obtain ⟨timeouts, horizons⟩ := afterAll_timeout world a start events
    have beyond := beyond_of_sheds (afterAll_readable filed readable events) sheds
    rwa [horizons, timeouts] at beyond

/-- Two turns return and three actions are performed; the one session that is stored is reported. -/
theorem metrics_agree_relay :
    let a : Assistant := ⟨relay, defaultMessages, none, true, 3, 5⟩
    let start := Desk.new ⟨10, 1000, []⟩
    let events : List (Event Time) := [.message "c" (.text "hi") 0, .message "c" (.text "go") 1]
    let desk := start.afterAll .bare a events
    Flow.build relay.toJson = .ok relay ∧ desk.turns.of ⟨"choice", true⟩ = 1 ∧ Tally.total desk.turns = 2 ∧
      (∃ performances, Performed .bare a start events performances ∧ performances.length = 3) ∧
      desk.actions.of ⟨.listProducts, .success⟩ = 2 ∧ desk.gauge = desk.store.size := by
  intro a start events desk
  have built : Flow.build relay.toJson = .ok relay := by rfl
  obtain ⟨turns, ⟨⟨performances, performed⟩, actions⟩, gauge, -⟩ := metrics_agree (a := a) built .bare 10 1000 events
  have three : performances.length = 3 := by
    rw [← (actions performances performed).1]
    decide +kernel
  refine ⟨built, ?choices, ?turns, ⟨performances, performed, three⟩, by decide +kernel, ?sessions⟩
  case choices =>
    rw [turns.each]
    decide +kernel
  case turns =>
    rw [turns.all]
    decide +kernel
  case sessions =>
    rw [gauge]
    decide +kernel

/-- Sessions live for five thousand years.  The second message comes five hundred years after the first session has
expired, and a session of its own would live too long: the turn fails when the expired one has been removed, and one
session is still reported. -/
theorem sessions_misreported :
    let a : Assistant := ⟨.builtin, defaultMessages, none, true, 3, 10⟩
    let desk := (Desk.new ⟨157680000000 * Store.second, Store.calendarEnd, []⟩).afterAll .bare a
      [.message "c" (.text "hi") 0, .message "c" (.text "hi") (173448000000 * Store.second)]
    desk.gauge = 1 ∧ desk.store.size = 0 := by
  decide +kernel

end Desk

end Storekeeper
