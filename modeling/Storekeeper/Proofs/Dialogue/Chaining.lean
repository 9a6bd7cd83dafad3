import Storekeeper.Proofs.Dialogue.Aborting
import Storekeeper.Proofs.Dialogue.Ordering
import Storekeeper.Proofs.Dialogue.Renewing

/-!
# Chains of actions

Actions that follow each other in a flow are run in one go, up to a number of them that is set.  A chain may
be longer, or lead back into itself; the conversation then waits at the next action, which the next message
finds.

* `Flow.chain` are the actions that follow each other from a step on, and `Flow.chainEnd` is the step to
  which they lead, so that a chain of `m + n` actions is one of `m` and then one of `n`.
* `Assistant.Enters.follows`: entering a step runs its chain, as far as actions may be run, and then rests
  where the chain has led.
* `Desk.Resumes.runs`: what the turns of a chat run that find it in the middle of a chain is the chain, cut
  into parts.
* `Desk.chains_resume` puts this together for every reachable desk.  What keeps a turn from leaving its
  session at the next action is `Desk.Overruns` alone.
-/

namespace Storekeeper

namespace Flow

/-- A step of the flow is an action. -/
def IsAction (flow : Flow) (name : String) : Prop :=
  ∃ step, flow.step? name = some (.action step)

/-- The actions that follow each other from a step on, no more than so many. -/
def chain (flow : Flow) : Nat → String → List String
  | 0, _ => []
  | n + 1, name =>
    match flow.step? name with
    | some (.action step) => name :: chain flow n step.next
    | _ => []

/-- The step to which the actions lead that follow each other from a step on, no more than so many. -/
def chainEnd (flow : Flow) : Nat → String → String
  | 0, name => name
  | n + 1, name =>
    match flow.step? name with
    | some (.action step) => chainEnd flow n step.next
    | _ => name

variable {flow : Flow} {name : String} {step : ActionStep}

theorem chain_succ (n : Nat) (found : flow.step? name = some (.action step)) :
    flow.chain (n + 1) name = name :: flow.chain n step.next := by
  simp only [chain, found]

theorem chainEnd_succ (n : Nat) (found : flow.step? name = some (.action step)) :
    flow.chainEnd (n + 1) name = flow.chainEnd n step.next := by
  simp only [chainEnd, found]

theorem chain_of_not (n : Nat) (rests : ¬flow.IsAction name) : flow.chain n name = [] := by
  cases n with
  | zero => rfl
  | succ n =>
    unfold chain
    split
    · rename_i step found
      exact absurd ⟨step, found⟩ rests
    · rfl

theorem chainEnd_of_not (n : Nat) (rests : ¬flow.IsAction name) : flow.chainEnd n name = name := by
  cases n with
  | zero => rfl
  | succ n =>
    unfold chainEnd
    split
    · rename_i step found
      exact absurd ⟨step, found⟩ rests
    · rfl

/-- A chain goes on where it has been cut. -/
theorem chain_add (flow : Flow) (m n : Nat) (name : String) :
    flow.chain (m + n) name = flow.chain m name ++ flow.chain n (flow.chainEnd m name) := by
  induction m generalizing name with
  | zero => rw [Nat.zero_add]; rfl
  | succ m ih =>
    rw [Nat.add_right_comm]
    by_cases acts : flow.IsAction name
    · obtain ⟨step, found⟩ := acts
      rw [chain_succ _ found, chain_succ _ found, chainEnd_succ _ found, ih, List.cons_append]
    · rw [chain_of_not _ acts, chain_of_not _ acts, chainEnd_of_not _ acts, chain_of_not _ acts]
      rfl

theorem chainEnd_add (flow : Flow) (m n : Nat) (name : String) :
    flow.chainEnd (m + n) name = flow.chainEnd n (flow.chainEnd m name) := by
  induction m generalizing name with
  | zero => rw [Nat.zero_add]; rfl
  | succ m ih =>
    rw [Nat.add_right_comm]
    by_cases acts : flow.IsAction name
    · obtain ⟨step, found⟩ := acts
      rw [chainEnd_succ _ found, chainEnd_succ _ found, ih]
    · rw [chainEnd_of_not _ acts, chainEnd_of_not _ acts, chainEnd_of_not _ acts]

/-- A chain has as many actions as are asked for, unless it comes to an end before. -/
theorem chain_length (flow : Flow) (n : Nat) (name : String) :
    (flow.chain n name).length ≤ n ∧
      ((flow.chain n name).length < n → ¬flow.IsAction (flow.chainEnd n name)) := by
  induction n generalizing name with
  | zero => exact ⟨Nat.le_refl 0, fun short => absurd short (Nat.lt_irrefl 0)⟩
  | succ n ih =>
    by_cases acts : flow.IsAction name
    · obtain ⟨step, found⟩ := acts
      obtain ⟨bounded, ends⟩ := ih step.next
      rw [chain_succ _ found, chainEnd_succ _ found, List.length_cons]
      exact ⟨Nat.succ_le_succ bounded, fun short => ends (Nat.lt_of_succ_lt_succ short)⟩
    · rw [chain_of_not _ acts, chainEnd_of_not _ acts]
      exact ⟨Nat.zero_le _, fun _ => acts⟩

end Flow

/-- What is done to carry out actions: all deeds but the alarms. -/
def errands (deeds : List Deed) : List Deed :=
  deeds.filter fun deed => deed.alarm?.isNone

theorem errands_append (first second : List Deed) :
    errands (first ++ second) = errands first ++ errands second :=
  List.filter_append ..

theorem errands_of_quiet {deeds : List Deed} (quiet : deeds.filterMap Deed.alarm? = []) :
    errands deeds = deeds := by
  rw [List.filterMap_eq_nil_iff] at quiet
  exact List.filter_eq_self.mpr fun deed member => by rw [quiet deed member]; rfl

namespace Assistant

variable {a : Assistant} {opened : Except Failure Session} {chat name : String} {hops : Nat}
  {session? : Option Session} {content : Inbound} {arrival : Arrival} {deeds : List Deed}
  {out : Except Failure Decision} {context after : Table Json} {names : List String}

/-- The actions of some steps are run one after the other, from one context to another, and these are the
deeds of it. -/
inductive Runs (a : Assistant) : List String → Table Json → List Deed → Table Json → Prop
  | nil {context : Table Json} : Runs a [] context [] context
  | cons {name text : String} {names : List String} {step : ActionStep}
    {context between after : Table Json} {first second : List Deed} :
    a.flow.step? name = some (.action step) →
    a.Acts context step.action first (.ok (between, text)) → Runs a names between second after →
    Runs a (name :: names) context (first ++ second) after

theorem Runs.append {more : List String} {first second : List Deed} {between : Table Json}
    (runs : a.Runs names context first between) (later : a.Runs more between second after) :
    a.Runs (names ++ more) context (first ++ second) after := by
  induction runs with
  | nil => exact later
  | cons found acts _ ih =>
    rw [List.append_assoc]
    exact .cons found acts (ih later)

/-- Running actions raises no alarm. -/
theorem Runs.errands (runs : a.Runs names context deeds after) : errands deeds = deeds := by
  induction runs with
  | nil => rfl
  | cons found acts _ ih => rw [errands_append, errands_of_quiet acts.alarms, ih]

/-- Each action that is run is counted once. -/
theorem Runs.counted (runs : a.Runs names context deeds after) :
    (deeds.filterMap Deed.run?).length = names.length := by
  induction runs with
  | nil => rfl
  | cons found acts _ ih =>
    rw [List.filterMap_append, List.length_append, acts.counted_once, ih, List.length_cons]
    omega

/-- Running a chain counts as many actions as may be run, unless the chain comes to an end. -/
theorem Runs.counted_chain {n : Nat} (runs : a.Runs (a.flow.chain n name) context deeds after)
    (goesOn : a.flow.IsAction (a.flow.chainEnd n name)) :
    (deeds.filterMap Deed.run?).length = n := by
  obtain ⟨bounded, ends⟩ := a.flow.chain_length n name
  rw [runs.counted]
  exact Nat.le_antisymm bounded (Nat.le_of_not_lt fun short => ends short goesOn)

/-- What comes after a chain of actions at the step to which it has led, and what becomes of the session: at
a further action the conversation waits and an alarm tells so, any other step is shown, and a terminal one
ends it. -/
inductive Rests (a : Assistant) (session : Session) : List Deed → Write → Prop
  | cut {step : ActionStep} : a.flow.step? session.step = some (.action step) →
    Rests a session [.warned (.hopLimit session.chat session.step)] (.keep session)
  | waits {step : Step} : a.flow.step? session.step = some step → step.goesOn = false →
    Rests a session [] (.keep session)
  | ends {step : TerminalStep} : a.flow.step? session.step = some (.terminal step) →
    Rests a session [] (.drop session.chat)

/-- The chain of a step is run, as far as so many actions go, and then the conversation rests where the
chain has led. -/
inductive Follows (a : Assistant) (hops : Nat) (name : String) (session : Session) :
    List Deed → Except Failure Decision → Prop
  | of {run rest : List Deed} {after : Table Json} {reply : Reply} {write : Write} :
    a.Runs (a.flow.chain hops name) session.context run after →
    a.Rests { session with step := a.flow.chainEnd hops name, context := after } rest write →
    Follows a hops name session (run ++ rest) (.ok ⟨reply, write⟩)

/-- A step that is no action is shown at once. -/
theorem Follows.of_rests {reply : Reply} {write : Write} {session : Session}
    (shown : ¬a.flow.IsAction name) (rests : a.Rests { session with step := name } deeds write) :
    a.Follows hops name session deeds (.ok ⟨reply, write⟩) := by
  have run : a.Runs (a.flow.chain hops name) session.context [] session.context := by
    rw [Flow.chain_of_not _ shown]
    exact .nil
  have rest : a.flow.chainEnd hops name = name := Flow.chainEnd_of_not hops shown
  rw [← rest] at rests
  exact .of run rests

theorem not_isAction {step : Step} (found : a.flow.step? name = some step)
    (other : ∀ action, step ≠ .action action) : ¬a.flow.IsAction name := by
  rintro ⟨action, acts⟩
  rw [found] at acts
  exact other action (Option.some.inj acts)

/-- Entering a step of a sound flow with a readable session runs the chain of the step. -/
theorem Enters.follows (sound : a.flow.Sound) (enters : a.Enters hops name arrival deeds out)
    (target : ∃ step, a.flow.step? name = some step) (readable : Readable arrival.session.context) :
    a.Follows hops name arrival.session deeds out := by
  induction enters with
  | missing absent =>
    obtain ⟨step, found⟩ := target
    rw [absent] at found
    cases found
  | ended found => exact .of_rests (not_isAction found nofun) (.ends found)
  | menu found => exact .of_rests (not_isAction found nofun) (.waits found rfl)
  | prompt found prompted =>
    rename_i step
    have waits : step.goesOn = false := by cases step <;> first | rfl | cases prompted
    refine .of_rests (not_isAction found ?_) (.waits found waits)
    rintro action rfl
    cases prompted
  | @limit name arrival step found =>
    have run : a.Runs (a.flow.chain 0 name) arrival.session.context [] arrival.session.context := .nil
    exact .of run (.cut found)
  | failed found acts =>
    obtain ⟨between, text, impossible, -⟩ := acts.readable readable
    cases impossible
  | onward found acts _ ih =>
    obtain ⟨between, text, same, reads⟩ := acts.readable readable
    cases same
    cases ih (sound.actionNext found) reads with
    | of run rests =>
      rw [← List.append_assoc]
      rw [← Flow.chainEnd_succ _ found] at rests
      refine .of ?_ rests
      rw [Flow.chain_succ _ found]
      exact .cons found acts run

/-- A message that leads to a step is answered by entering it. -/
theorem Leads.respond_eq (leads : a.Leads opened session? content name arrival) (chat : String) :
    a.respond opened session? chat content = a.enterWithin a.maxHops.toNat name arrival := by
  cases leads with
  | opened trigger triggered opens =>
    subst opens
    cases trigger with
    | start found => simp only [respond, start, found, atTrigger, triggered]; rfl
    | parked found => simp only [respond, found, atStep, atTrigger, triggered]; rfl
  | chosen found meant led => simp only [respond, found, atStep, atChoice, meant, led]; rfl
  | cancelled asks cancels menu =>
    cases asks with
    | input found => simp only [respond, found, atStep, atInput, cancels, cancel, menu]; rfl
    | image found => simp only [respond, found, atStep, atImage, cancels, cancel, menu]; rfl
  | answered found goesOn key => simp only [respond, found, atStep, atInput, goesOn, key]; rfl
  | @completed session step _ fields existing merged gives held merging clean complete =>
    obtain ⟨found, key, ⟨text, rfl, rfl⟩, goesOn⟩ := gives
    simp only [respond, found, atStep, atInput, goesOn, key, atProductInput, held]
    change (Turn.ofExcept (mergeFields a.messages existing (parseFields text))).bind _ = _
    rw [merging]
    change (if (merged.errors.isEmpty && merged.product.isComplete) = true then _ else _) = _
    rw [clean, complete]
    rfl
  | pictured found => simp only [respond, found, atStep, atImage, Inbound.isCancel]; rfl
  | skipped found goesOn skips =>
    simp only [respond, found, atStep, atImage, goesOn, skips, skipImage_eq]
    rfl
  | @resumed session step _ found goesOn =>
    cases step with
    | action step => simp only [respond, found, atStep]; rfl
    | terminal step => simp only [respond, found, atStep]; rfl
    | _ => cases goesOn

theorem Rests.errands {session : Session} {write : Write} (rests : a.Rests session deeds write) :
    errands deeds = [] := by
  cases rests <;> rfl

/-- An answer runs an action only where actions may be run and it leads to one. -/
theorem Answers.errands_nil (answers : a.Answers opened chat session? content deeds out)
    (idle : a.maxHops ≤ 0 ∨
      ∀ name arrival, a.Leads opened session? content name arrival → ¬a.flow.IsAction name) :
    errands deeds = [] := by
  rcases answers with settles | ⟨name, arrival, leads, enters⟩
  · cases settles <;> rfl
  · rcases idle with none | idle
    · rw [Int.toNat_of_nonpos none] at enters
      cases enters <;> rfl
    · have shown := idle name arrival leads
      generalize a.maxHops.toNat = hops at enters
      cases enters with
      | failed found _ => exact absurd ⟨_, found⟩ shown
      | onward found _ _ => exact absurd ⟨_, found⟩ shown
      | _ => rfl

end Assistant

namespace Desk

variable {σ : Type} {world : World σ} {a : Assistant} {desk : Desk} {chat name : String}
  {content : Inbound} {s : σ} {arrival : Arrival} {context : Table Json} {session : Session}

/-- All that is done in the turns of a chat over some events. -/
def recordOf (world : World σ) (a : Assistant) (chat : String) : Desk → List (Event σ) → List Deed
  | _, [] => []
  | desk, event :: events =>
    (if event.isOf chat then desk.doings world a event else []) ++
      recordOf world a chat (desk.after world a event) events

/-- If a session is stored for a chat, it stands at a step with a context. -/
def Awaits (desk : Desk) (chat name : String) (context : Table Json) : Prop :=
  ∀ session, desk.store.sessions.get? chat = some session →
    session.step = name ∧ session.context = context

/-- The message leads to a step at the desk. -/
def Leads (world : World σ) (a : Assistant) (desk : Desk) (chat : String) (content : Inbound) (s : σ)
    (name : String) (arrival : Arrival) : Prop :=
  a.Leads (desk.opening a (world.now s) chat) (desk.live (world.now s) chat) content name arrival

/-- So many messages of a chat find its conversation in the middle of a chain, beginning at a step: each of
them finds a session, the chain goes on, and the session can be stored at the end of the turn. -/
inductive Resumes (world : World σ) (a : Assistant) (chat : String) :
    Desk → String → Nat → List (Event σ) → Prop
  | nil {desk : Desk} {name : String} : Resumes world a chat desk name 0 []
  | aside {desk : Desk} {name : String} {turns : Nat} {event : Event σ} {events : List (Event σ)} :
    event.isOf chat = false → Resumes world a chat (desk.after world a event) name turns events →
    Resumes world a chat desk name turns (event :: events)
  | turn {desk : Desk} {name : String} {turns : Nat} {content : Inbound} {s : σ}
    {events : List (Event σ)} :
    (∃ session, desk.live (world.now s) chat = some session) → a.flow.IsAction name →
    ¬desk.Overruns world a chat content s →
    Resumes world a chat (desk.after world a (.message chat content s))
      (a.flow.chainEnd a.maxHops.toNat name) turns events →
    Resumes world a chat desk name (turns + 1) (.message chat content s :: events)

/-- A turn that leads to a step is a course of entering it. -/
theorem Leads.enters (leads : desk.Leads world a chat content s name arrival) :
    a.Enters a.maxHops.toNat name arrival (desk.deeds world a chat content s)
      (desk.decision world a chat content s) := by
  have same : desk.response a (world.now s) chat content =
      a.enterWithin a.maxHops.toNat name arrival := Assistant.Leads.respond_eq leads chat
  unfold deeds decision
  rw [same]
  exact Assistant.enters_of_goes (Turn.goes_deeds world.toSurroundings
    (a.enterWithin a.maxHops.toNat name arrival) s)

/-- A message that leads to a step of a sound flow runs the chain of this step. -/
theorem Leads.follows (leads : desk.Leads world a chat content s name arrival) (sound : a.flow.Sound)
    (readable : desk.IsReadable) :
    a.Follows a.maxHops.toNat name arrival.session (desk.deeds world a chat content s)
      (desk.decision world a chat content s) := by
  have reads : Readable arrival.session.context :=
    Assistant.Leads.readable leads (Holds.live readable (world.now s) chat)
      fun _ opens => opening_context opens
  exact leads.enters.follows sound (Assistant.Leads.target sound leads) reads

/-- Such a turn fails only if its session cannot be stored. -/
theorem Leads.fails_iff (leads : desk.Leads world a chat content s name arrival)
    (sound : a.flow.Sound) (readable : desk.IsReadable) {failure : Failure} :
    (desk.process world a chat content s).1 = .error failure ↔
      failure = .outOfRange ∧ desk.Overruns world a chat content s := by
  have follows := leads.follows sound readable
  obtain ⟨decision, decided⟩ : ∃ decision, desk.decision world a chat content s = .ok decision := by
    generalize desk.deeds world a chat content s = deeds at follows
    generalize desk.decision world a chat content s = out at follows ⊢
    cases follows
    exact ⟨_, rfl⟩
  exact fails_iff_overruns decided failure

/-- Such a turn runs the chain, and its session awaits what is said next where the chain has led; if this is
a further action, a session is stored there. -/
theorem Leads.runs (leads : desk.Leads world a chat content s name arrival) (sound : a.flow.Sound)
    (filed : desk.store.Filed) (readable : desk.IsReadable)
    (fits : ¬desk.Overruns world a chat content s) :
    ∃ after, a.Runs (a.flow.chain a.maxHops.toNat name) arrival.session.context
        (errands (desk.deeds world a chat content s)) after ∧
      (desk.process world a chat content s).2.1.Awaits chat (a.flow.chainEnd a.maxHops.toNat name)
        after ∧
      (a.flow.IsAction (a.flow.chainEnd a.maxHops.toNat name) →
        (desk.process world a chat content s).2.1.IsWrittenAt chat
          (desk.finished world a chat content s)) := by
  have follows := leads.follows sound readable
  have replies : ∀ failure, (desk.process world a chat content s).1 ≠ .error failure :=
    fun failure failed => fits ((leads.fails_iff sound readable).mp failed).2
  generalize done : desk.deeds world a chat content s = deeds at follows ⊢
  generalize decided : desk.decision world a chat content s = out at follows
  cases follows with
  | @of run rest after reply write run rests =>
    refine ⟨after, ?_, fun session found => ?_, fun cut => ?_⟩
    · rw [errands_append, run.errands, rests.errands, List.append_nil]
      exact run
    · rcases process_stored filed found with
        ⟨-, failure, failed⟩ | ⟨-, other, -, left⟩ | ⟨other, kept, -, keeps, rfl⟩
      · exact absurd failed (replies failure)
      · cases decided.symm.trans left
        cases rests
      · cases decided.symm.trans keeps
        cases rests with
        | cut _ => exact ⟨rfl, rfl⟩
        | waits _ _ => exact ⟨rfl, rfl⟩
    · obtain ⟨action, acts⟩ := cut
      cases replied : (desk.process world a chat content s).1 with
      | error failure => exact absurd replied (replies failure)
      | ok other =>
        obtain ⟨write, same⟩ := decision_of_reply replied
        cases decided.symm.trans same
        cases rests with
        | cut found =>
          refine ⟨_, process_of_keep filed replied decided, rfl, ?_⟩
          rw [process_timeout.1]
        | waits found shown =>
          cases acts.symm.trans found
          cases shown
        | ends found => cases acts.symm.trans found

/-- What is not a message of the chat leaves its session, if it does not remove it. -/
theorem Awaits.aside {event : Event σ} (awaits : desk.Awaits chat name context)
    (filed : desk.store.Filed) (aside : event.isOf chat = false) :
    (desk.after world a event).Awaits chat name context := by
  intro session found
  exact awaits session (stored_of_aside filed aside found)

theorem after_readable (filed : desk.store.Filed) (readable : desk.IsReadable) (event : Event σ) :
    (desk.after world a event).IsReadable :=
  afterAll_readable filed readable [event]

/-- Turns that find the conversation of a chat in the middle of a chain run the chain from there on, each of
them its part. -/
theorem Resumes.runs {turns : Nat} {events : List (Event σ)}
    (resumes : Resumes world a chat desk name turns events) (sound : a.flow.Sound)
    (filed : desk.store.Filed) (readable : desk.IsReadable)
    (awaits : desk.Awaits chat name context) :
    ∃ after, a.Runs (a.flow.chain (turns * a.maxHops.toNat) name) context
        (errands (desk.recordOf world a chat events)) after ∧
      (desk.afterAll world a events).Awaits chat
        (a.flow.chainEnd (turns * a.maxHops.toNat) name) after := by
  induction resumes generalizing context with
  | nil =>
    rw [Nat.zero_mul]
    exact ⟨context, .nil, awaits⟩
  | @aside desk name turns event events other _ ih =>
    have record : desk.recordOf world a chat (event :: events) =
        (desk.after world a event).recordOf world a chat events := by
      simp [recordOf, other]
    rw [record]
    exact ih (after_filed filed event) (after_readable filed readable event)
      (awaits.aside filed other)
  | @turn desk name turns content s events alive action fits _ ih =>
    obtain ⟨session, alive⟩ := alive
    obtain ⟨rfl, rfl⟩ := awaits session (Store.stored_of_live alive)
    obtain ⟨step, found⟩ := action
    have leads : desk.Leads world a chat content s session.step ⟨session, none, none⟩ := by
      unfold Desk.Leads
      rw [alive]
      exact .resumed found rfl
    obtain ⟨between, first, parked, -⟩ := leads.runs sound filed readable fits
    obtain ⟨after, later, rests⟩ := ih (process_filed filed)
      (after_readable filed readable (.message chat content s)) parked
    have record : desk.recordOf world a chat (.message chat content s :: events) =
        desk.deeds world a chat content s ++
          (desk.after world a (.message chat content s)).recordOf world a chat events := by
      simp [recordOf, Event.isOf, doings]
    refine ⟨after, ?_, ?_⟩
    · rw [record, errands_append, Nat.succ_mul, Nat.add_comm, Flow.chain_add]
      exact first.append later
    · rw [Nat.succ_mul, Nat.add_comm, Flow.chainEnd_add]
      exact rests

/-- A flow in which a choice leads to two actions that follow upon each other. -/
def relay : Flow where
  id := "relay"
  initialStep := "start"
  timeoutSeconds := 300
  steps :=
    [("start", .trigger { onMatch := { next := "menu", message := none }, otherwiseHandled := true }),
     ("menu",
      .choice
        { message := "intent_prompt"
          choices := [{ id := "go", label := "Go", aliases := [] }]
          transitions := [("go", { next := "first", message := none })]
          invalidMessage := "invalid_choice"
          invalidNext := "menu" }),
     ("first", .action { action := .listProducts, next := "second" }),
     ("second", .action { action := .addProduct, next := "first" })]

/-- **Chains of actions.**  Over a flow that has been built, after any events at a new desk: a turn runs an
action only if it leads to one and actions may be run.  A turn that leads to a step runs the chain of this
step, as far as so many actions go, and comes to rest where the chain has led; it fails only if the session
cannot be stored then, which stays as it was.  If it can, a session is stored where the chain goes on; and
when the messages that follow find it there, what all these turns run is the chain, each action once and in
order, as far as the actions of all of them go. -/
theorem chains_resume {document : Json} (built : Flow.build document = .ok a.flow) (world : World σ)
    (timeout horizon : Time) (events : List (Event σ)) (chat : String) (content : Inbound) (s : σ) :
    let desk := (Desk.new ⟨timeout, horizon, []⟩).afterAll world a events
    let next := desk.after world a (.message chat content s)
    let hops := a.maxHops.toNat
    ((a.maxHops ≤ 0 ∨ ∀ name arrival,
        desk.Leads world a chat content s name arrival → ¬a.flow.IsAction name) →
      errands (desk.deeds world a chat content s) = []) ∧
    ∀ name arrival, desk.Leads world a chat content s name arrival →
      a.Follows hops name arrival.session (desk.deeds world a chat content s)
        (desk.decision world a chat content s) ∧
      (∀ failure, (desk.process world a chat content s).1 = .error failure ↔
        failure = .outOfRange ∧ desk.Overruns world a chat content s) ∧
      (desk.Overruns world a chat content s → ∀ session,
        desk.live (world.now s) chat = some session →
          next.store.sessions.get? chat = some session) ∧
      (¬desk.Overruns world a chat content s →
        (a.flow.IsAction (a.flow.chainEnd hops name) →
          next.IsWrittenAt chat (desk.finished world a chat content s)) ∧
        ∀ turns more, Resumes world a chat next (a.flow.chainEnd hops name) turns more →
          ∃ after, a.Runs (a.flow.chain ((turns + 1) * hops) name) arrival.session.context
              (errands (desk.deeds world a chat content s ++ next.recordOf world a chat more)) after ∧
            (next.afterAll world a more).Awaits chat
              (a.flow.chainEnd ((turns + 1) * hops) name) after) := by
  intro desk next hops
  have sound : a.flow.Sound := Flow.sound_of_build built
  have filed : desk.store.Filed := afterAll_filed (.empty timeout horizon) events
  have readable : desk.IsReadable :=
    afterAll_readable (.empty timeout horizon) (fun chat session found => by cases found) events
  refine ⟨(process_answers world a desk chat content s).errands_nil, fun name arrival leads => ?_⟩
  refine ⟨leads.follows sound readable, fun failure => leads.fails_iff sound readable,
    fun overruns session alive => ?_, fun fits => ?_⟩
  · have failed := (leads.fails_iff sound readable).mpr ⟨rfl, overruns⟩
    have same : next.store = (desk.store.get (world.now s) chat).2 := process_store_of_error failed
    rw [same]
    exact Store.get_of_live alive
  · obtain ⟨between, first, awaits, written⟩ := leads.runs sound filed readable fits
    refine ⟨written, fun turns more resumes => ?_⟩
    obtain ⟨after, later, rests⟩ := resumes.runs sound (process_filed filed)
      (after_readable filed readable (.message chat content s)) awaits
    refine ⟨after, ?_, ?_⟩
    · rw [errands_append, Nat.succ_mul, Nat.add_comm, Flow.chain_add]
      exact first.append later
    · rw [Nat.succ_mul, Nat.add_comm, Flow.chainEnd_add]
      exact rests

/-- Three turns of a chat run three actions each of a chain without an end, whatever the chat writes and
whatever else happens. -/
theorem chains_resume_relay :
    let a : Assistant := ⟨relay, defaultMessages, none, true, 3, 5⟩
    let desk := (Desk.new ⟨10, 1000, []⟩).afterAll .bare a [.message "c" (.text "hi") 0]
    let next := desk.after .bare a (.message "c" (.text "go") 1)
    let more : List (Event Time) :=
      [.message "d" (.text "hi") 2, .message "c" (.image "https://example.org/lamp.png" none) 3,
       .sweep 12, .message "c" (.text "stop") 13]
    let done := errands (desk.deeds .bare a "c" (.text "go") 1 ++ next.recordOf .bare a "c" more)
    Flow.build relay.toJson = .ok relay ∧
      (∃ after, a.Runs ["first", "second", "first", "second", "first", "second", "first", "second",
        "first"] [] done after ∧ (next.afterAll .bare a more).Awaits "c" "second" after) ∧
      (done.filterMap Deed.run?).length = 9 := by
  intro a desk next more done
  have built : Flow.build relay.toJson = .ok relay := by rfl
  have isAction : a.flow.IsAction "second" ∧ a.flow.IsAction "first" := ⟨⟨_, rfl⟩, ⟨_, rfl⟩⟩
  have fits : ∀ {desk : Desk} {content : Inbound} {s : Time},
      ¬desk.store.horizon < desk.finished .bare a "c" content s + desk.store.timeout →
      ¬desk.Overruns .bare a "c" content s := fun room overruns => room overruns.beyond
  obtain ⟨session, menu, alive, fresh, found, meant, led⟩ : ∃ session menu,
      desk.live (World.bare.now 1) "c" = some session ∧ session.context = [] ∧
        a.flow.step? session.step = some (.choice menu) ∧ menu.meant? (.text "go") = some "go" ∧
        menu.transitions.get? "go" = some ⟨"first", none⟩ :=
    ⟨_, _, rfl, rfl, rfl, by decide +kernel, rfl⟩
  have leads : desk.Leads .bare a "c" (.text "go") 1 "first" ⟨session, none, none⟩ := by
    unfold Desk.Leads
    rw [alive]
    exact .chosen found meant led
  have resumes : Resumes .bare a "c" next (a.flow.chainEnd a.maxHops.toNat "first") 2 more := by
    refine .aside rfl (.turn (Option.isSome_iff_exists.mp (by decide +kernel)) isAction.1
      (fits (by decide +kernel)) (.aside rfl ?_))
    exact .turn (Option.isSome_iff_exists.mp (by decide +kernel)) isAction.2
      (fits (by decide +kernel)) .nil
  obtain ⟨-, -, -, runs⟩ := (chains_resume built .bare 10 1000 _ "c" (.text "go") 1).2 _ _ leads
  obtain ⟨after, run, awaits⟩ := (runs (fits (by decide +kernel))).2 2 more resumes
  have path : a.flow.chain ((2 + 1) * a.maxHops.toNat) "first" = ["first", "second", "first",
      "second", "first", "second", "first", "second", "first"] := by decide +kernel
  have rests : a.flow.chainEnd ((2 + 1) * a.maxHops.toNat) "first" = "second" := by decide +kernel
  have nine := run.counted_chain (by rw [rests]; exact isAction.1)
  rw [rests] at awaits
  rw [path, fresh] at run
  exact ⟨built, ⟨after, run, awaits⟩, nine⟩

/-- Sessions live for five thousand years, and after three thousand five hundred of them the products are
listed by a turn that may run one action; the next message has them listed again, and not the product added
that is next. -/
theorem chains_repeat_relay :
    let a : Assistant := ⟨relay, defaultMessages, none, true, 1, 10⟩
    let desk := (Desk.new ⟨157680000000 * Store.second, Store.calendarEnd, []⟩).afterAll .bare a
      [.message "c" (.text "hi") 0]
    let late : Time := 110376000000 * Store.second
    let next := desk.after .bare a (.message "c" (.text "go") late)
    a.flow.chain 2 "first" = ["first", "second"] ∧
      (desk.deeds .bare a "c" (.text "go") late).filterMap Deed.run? = [⟨.listProducts, .success⟩] ∧
      (next.live late "c").map Session.step = some "menu" ∧
      (next.deeds .bare a "c" (.text "go") late).filterMap Deed.run? =
        [⟨.listProducts, .success⟩] := by
  decide +kernel

end Desk

end Storekeeper
