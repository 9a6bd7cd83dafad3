import Storekeeper.Flow.Basic

/-!
# Valid flows

A flow is valid when it starts at a trigger, when every reference of a step names a step, and when
every menu has choices with different identifiers.  `Flow.defect?` reports the first violation, in
this order of the rules and, within a rule, in the order of the steps and of their references.
-/

namespace Storekeeper

/-- One reference of a step: the member that makes it and the step it names. -/
structure Reference where
  place : String
  target : String
  deriving DecidableEq, Repr

/-- The references of a step, in order. -/
def Step.references : Step → List Reference
  | trigger step => [⟨"on_match.next_step", step.onMatch.next⟩]
  | choice step =>
    (step.transitions.map fun (id, transition) =>
      ⟨"transitions." ++ id ++ ".next_step", transition.next⟩) ++
      [⟨"on_invalid.next_step", step.invalidNext⟩]
  | input step => [⟨"next_step", step.next⟩]
  | image step => [⟨"next_step", step.next⟩]
  | action step => [⟨"next_step", step.next⟩]
  | terminal _ => []

/-- What makes a flow invalid. -/
inductive Defect where
  | emptyInitialStep
  | unknownInitialStep (step flow : String)
  | initialStepNotTrigger (step kind : String)
  | danglingReference (step : String) (reference : Reference)
  | noChoices (step : String)
  | duplicateChoice (step : String)
  deriving DecidableEq, Repr

namespace Defect

/-- The short name of a defect. -/
def code : Defect → String
  | emptyInitialStep => "EMPTY_INITIAL_STEP"
  | unknownInitialStep .. => "UNKNOWN_INITIAL_STEP"
  | initialStepNotTrigger .. => "INITIAL_STEP_NOT_TRIGGER"
  | danglingReference .. => "DANGLING_STEP_REFERENCE"
  | noChoices _ => "EMPTY_OPTIONS"
  | duplicateChoice _ => "DUPLICATE_OPTION"

/-- The sentence that says what is wrong. -/
def message : Defect → String
  | emptyInitialStep => "Initial step cannot be empty"
  | unknownInitialStep step flow =>
    "Initial step '" ++ step ++ "' is not defined in flow '" ++ flow ++ "'"
  | initialStepNotTrigger step kind =>
    "Initial step '" ++ step ++ "' must be a trigger step, got '" ++ kind ++ "'"
  | danglingReference step reference =>
    "Step '" ++ step ++ "' " ++ reference.place ++ " references unknown step '" ++
      reference.target ++ "'"
  | noChoices step => "Choice step '" ++ step ++ "' declares no options"
  | duplicateChoice step => "Choice step '" ++ step ++ "' declares duplicate option ids"

/-- The step that is at fault, if one is. -/
def step? : Defect → Option String
  | emptyInitialStep => none
  | unknownInitialStep step _ => some step
  | initialStepNotTrigger step _ => some step
  | danglingReference step _ => some step
  | noChoices step => some step
  | duplicateChoice step => some step

end Defect

/-- Whether a list has an item twice. -/
def hasDuplicate : List String → Bool
  | [] => false
  | item :: items => items.contains item || hasDuplicate items

namespace Flow

/-- What is wrong with the step that the flow starts at. -/
def initialDefect? (flow : Flow) : Option Defect :=
  if flow.initialStep = "" then some .emptyInitialStep
  else
    match flow.step? flow.initialStep with
    | none => some (.unknownInitialStep flow.initialStep flow.id)
    | some step =>
      if step.isTrigger then none
      else some (.initialStepNotTrigger flow.initialStep step.kind)

/-- The first reference that names no step. -/
def referenceDefect? (flow : Flow) : Option Defect :=
  flow.steps.findSome? fun (name, step) =>
    (step.references.find? fun reference => !flow.steps.has reference.target).map
      (.danglingReference name)

/-- The first menu without choices or with two of one identifier. -/
def choiceDefect? (flow : Flow) : Option Defect :=
  flow.steps.findSome? fun (name, step) =>
    match step with
    | .choice menu =>
      if menu.choices.isEmpty then some (.noChoices name)
      else if hasDuplicate (menu.choices.map Choice.id) then some (.duplicateChoice name)
      else none
    | _ => none

/-- The first defect of a flow. -/
def defect? (flow : Flow) : Option Defect :=
  flow.initialDefect? <|> flow.referenceDefect? <|> flow.choiceDefect?

end Flow

end Storekeeper
