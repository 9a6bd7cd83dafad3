import Storekeeper.Table

/-!
# Conversation flows

A flow is a graph of named steps.  A conversation starts at a trigger, moves through menus and
questions, runs catalog actions on the way and ends at a terminal step.
-/

namespace Storekeeper

/-- Where to go next, and the message that is said on the way. -/
structure Transition where
  next : String
  message : Option String
  deriving DecidableEq, Repr

/-- One choice of a menu: its identifier, the label on its button, and other words for it. -/
structure Choice where
  id : String
  label : String
  aliases : List String
  deriving DecidableEq, Repr

/-- What the assistant does in the catalog without waiting for the user. -/
inductive Action where
  | listProducts
  | addProduct
  deriving DecidableEq, Repr

/-- The name of an action. -/
def Action.name : Action → String
  | listProducts => "list_products"
  | addProduct => "add_product"

/-- The entry to a conversation: where a match leads and whether other texts count as handled. -/
structure TriggerStep where
  onMatch : Transition
  otherwiseHandled : Bool
  deriving DecidableEq, Repr

/-- A menu of choices, each of which should have a transition. -/
structure ChoiceStep where
  message : String
  choices : List Choice
  transitions : Table Transition
  invalidMessage : String
  invalidNext : String
  deriving DecidableEq, Repr

/-- A question whose answer is kept under a name. -/
structure InputStep where
  message : String
  contextKey : String
  next : String
  deriving DecidableEq, Repr

/-- A request for an image, kept under a name; it may be possible to skip it. -/
structure ImageStep where
  message : String
  contextKey : String
  next : String
  optional : Bool
  skipKeyword : Option String
  deriving DecidableEq, Repr

/-- An action and the step after it. -/
structure ActionStep where
  action : Action
  next : String
  deriving DecidableEq, Repr

/-- The end of a conversation. -/
structure TerminalStep where
  message : Option String
  deriving DecidableEq, Repr

/-- A step of a flow. -/
inductive Step where
  | trigger (step : TriggerStep)
  | choice (step : ChoiceStep)
  | input (step : InputStep)
  | image (step : ImageStep)
  | action (step : ActionStep)
  | terminal (step : TerminalStep)
  deriving DecidableEq, Repr

namespace Step

/-- The name of a step's kind. -/
def kind : Step → String
  | trigger _ => "trigger"
  | choice _ => "choice"
  | input _ => "input"
  | image _ => "image_input"
  | action _ => "action"
  | terminal _ => "terminal"

/-- Whether the step is a trigger. -/
def isTrigger : Step → Bool
  | trigger _ => true
  | _ => false

/-- The key of the message with which a step that waits for an answer asks for it. -/
def prompt : Step → Option String
  | input step => some step.message
  | image step => some step.message
  | _ => none

end Step

/-- A flow: its steps by name, where it starts, and how many seconds a silent conversation lives. -/
structure Flow where
  id : String
  initialStep : String
  timeoutSeconds : Int
  steps : Table Step
  deriving DecidableEq, Repr

/-- The step of a name. -/
def Flow.step? (flow : Flow) (name : String) : Option Step :=
  flow.steps.get? name

end Storekeeper
