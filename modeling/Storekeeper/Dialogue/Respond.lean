import Storekeeper.Dialogue.Enter
import Storekeeper.Product.Fields
import Storekeeper.Flow.Builtin

/-!
# Responding to a message

A message is answered by the step at which its conversation stands; without a conversation, the
flow's trigger decides whether one begins.
-/

namespace Storekeeper.Assistant

/-- The end of a turn after which everything is as before. -/
def still (reply : Reply) : Turn Decision :=
  return ⟨reply, .leave⟩

/-- Only says something. -/
def say (text : String) : Turn Decision :=
  still { handled := true, response := some text }

/-- The answer of a trigger: a text that starts a conversation opens the given new session. -/
def atTrigger (a : Assistant) (opened : Except Failure Session) (step : TriggerStep)
    (message : Inbound) : Turn Decision :=
  if a.isTriggered message then do
    let session ← Turn.ofExcept opened
    a.enter session step.onMatch.next (a.said step.onMatch.message) none
  else still { handled := step.otherwiseHandled }

/-- The answer to a chat without a conversation. -/
def start (a : Assistant) (opened : Except Failure Session) (chat : String) (message : Inbound) :
    Turn Decision :=
  match a.flow.step? a.flow.initialStep with
  | some (.trigger step) => a.atTrigger opened step message
  | _ => do
    Turn.raise (.noTrigger chat a.flow.initialStep)
    still { handled := false }

/-- The answer of a menu to a message that means none of its choices. -/
def atUnknownChoice (a : Assistant) (session : Session) (step : ChoiceStep) : Turn Decision :=
  let text := a.messages.get step.invalidMessage
  let moved := { session with step := step.invalidNext }
  match a.flow.step? step.invalidNext with
  | some (.choice target) =>
    return ⟨{ handled := true, buttons := some (a.menu target (some text)) }, .keep moved⟩
  | some _ => return ⟨{ handled := true, response := some text }, .keep moved⟩
  | none => say text

/-- The answer of a menu. -/
def atChoice (a : Assistant) (session : Session) (step : ChoiceStep) (message : Inbound) :
    Turn Decision :=
  match step.meant? message with
  | none => a.atUnknownChoice session step
  | some choice =>
    match step.transitions.get? choice with
    | none => do
      Turn.raise (.noTransition session.chat session.step choice)
      say (a.messages.get step.invalidMessage)
    | some transition => a.enter session transition.next (a.said transition.message) none

/-- Forgets the product and what the cancelled question has collected, and returns to the menu of
the flow; without one, the conversation ends. -/
def cancel (a : Assistant) (session : Session) (contextKey : String) : Turn Decision :=
  let context := ((session.context.erase productKey).erase imageKey).erase contextKey
  let text := a.messages.get "add_product_cancelled"
  match a.flow.step? Flow.recoveryStep with
  | none => do
    Turn.raise (.noRecoveryStep session.chat)
    return ⟨{ handled := true, response := some text, sessionEnded := true }, .drop session.chat⟩
  | some _ => a.enter { session with context } Flow.recoveryStep (some text) none

/-- The answer of a question for the fields of a product: they are merged into what is known. -/
def atProductInput (a : Assistant) (session : Session) (step : InputStep) (content : String) :
    Turn Decision := do
  let existing ← Turn.ofExcept (StagedProduct.ofContext (session.context.get? productKey))
  let merged ← Turn.ofExcept (mergeFields a.messages existing (parseFields content))
  let context := session.context.put productKey merged.product.toContext
  let session := { session with context }
  if merged.errors.isEmpty && merged.product.isComplete then a.enter session step.next none none
  else
    return ⟨{ handled := true
              response := some (merged.product.prompt merged.errors a.messages) }, .keep session⟩

/-- The answer of a question. -/
def atInput (a : Assistant) (session : Session) (step : InputStep) (message : Inbound) :
    Turn Decision :=
  if message.isCancel then a.cancel session step.contextKey
  else
    match message with
    | .image _ _ => say (a.messages.get step.message)
    | .text content =>
      if step.contextKey = productInputKey then a.atProductInput session step content
      else
        a.enter { session with context := session.context.put step.contextKey (.str content) }
          step.next none none

/-- The answer of a request for an image that is skipped; an action speaks for itself. -/
def skipImage (a : Assistant) (session : Session) (step : ImageStep) : Turn Decision :=
  match a.flow.step? step.next with
  | some (.action _) => a.enter session step.next none none
  | _ => a.enter session step.next none (some (a.messages.get "add_product_image_skipped"))

/-- The answer of a request for an image. -/
def atImage (a : Assistant) (session : Session) (step : ImageStep) (message : Inbound) :
    Turn Decision :=
  if message.isCancel then a.cancel session step.contextKey
  else
    match message with
    | .image url mimeType =>
      let image : StagedImage := { url, mimeType }
      let context := session.context.put step.contextKey image.toContext
      a.enter { session with context } step.next none
        (some (a.messages.get "add_product_image_received"))
    | .text content =>
      if step.isSkippedBy content then a.skipImage session step
      else say (a.messages.get "add_product_image_invalid")

/-- The answer of the step at which a conversation stands. -/
def atStep (a : Assistant) (opened : Except Failure Session) (session : Session) (step : Step)
    (message : Inbound) : Turn Decision :=
  match step with
  | .trigger step => a.atTrigger opened step message
  | .choice step => a.atChoice session step message
  | .input step => a.atInput session step message
  | .image step => a.atImage session step message
  | .action _ | .terminal _ => a.enter session session.step none none

/-- The answer to a message in a chat with its session, or without one.  If the session stands at
no step of the flow it is removed. -/
def respond (a : Assistant) (opened : Except Failure Session) (session? : Option Session)
    (chat : String) (message : Inbound) : Turn Decision :=
  match session? with
  | none => a.start opened chat message
  | some session =>
    match a.flow.step? session.step with
    | none => do
      Turn.raise (.unknownStep chat session.step)
      return ⟨{ handled := false }, .drop chat⟩
    | some step => a.atStep opened session step message

/-- The kind of step by which a message is answered. -/
def answeringKind (a : Assistant) : Option Session → String
  | none => "trigger"
  | some session => ((a.flow.step? session.step).map Step.kind).getD "unknown"

end Storekeeper.Assistant
