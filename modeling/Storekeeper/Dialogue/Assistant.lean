import Storekeeper.Dialogue.Turn
import Storekeeper.Message.Basic
import Storekeeper.Messages.Basic
import Storekeeper.Session.Basic
import Storekeeper.Text.Blank
import Storekeeper.Text.Case

/-!
# The assistant and what it says

An assistant follows one flow with one set of messages.  This module says how what a user writes is
compared with what a flow expects, and how the parts of an answer are put together.
-/

namespace Storekeeper

/-- What an assistant works with: the flow, its messages, the text that starts a conversation, the
number of actions in a row and of products in a list, and whether there is a catalog. -/
structure Assistant where
  flow : Flow
  messages : Messages
  trigger : Option String
  hasCatalog : Bool
  maxHops : Int
  listLimit : Int

/-- What is left of a text without the blanks at its ends, in lower case. -/
def normalized (content : String) : String :=
  Text.lower (Text.strip content)

/-- The text that starts a conversation, if a text that is not blank has been set. -/
def triggerCode (code : Option String) : Option String :=
  (code.map Text.strip).filter (!·.isEmpty)

/-- The parts that are there and not empty, divided by blank lines; none if no part is left. -/
def paragraphs (parts : List (Option String)) : Option String :=
  match parts.filterMap fun part => part.filter (!·.isEmpty) with
  | [] => none
  | present => some ("\n\n".intercalate present)

namespace Assistant

/-- The message of a key, if a key is given that is not empty. -/
def said (a : Assistant) (key : Option String) : Option String :=
  (key.filter (!·.isEmpty)).map a.messages.get

/-- The menu of a choice, under a line. -/
def menu (a : Assistant) (step : ChoiceStep) (header : Option String) : Menu where
  body := a.messages.get step.message
  options := step.choices.map fun choice => ⟨choice.id, choice.label⟩
  header := header
  footer := none

/-- Whether a message starts a conversation: the set text does, or any text if none is set. -/
def isTriggered (a : Assistant) : Inbound → Bool
  | .image _ _ => false
  | .text content =>
    match triggerCode a.trigger with
    | none => true
    | some code => normalized content == Text.lower code

end Assistant

/-- Whether a choice is meant by a text that has been normalized. -/
def Choice.isMeantBy (choice : Choice) (content : String) : Bool :=
  content == Text.lower choice.id || choice.aliases.any fun word => content == Text.lower word

/-- The first choice of a menu that a message means. -/
def ChoiceStep.meant? (step : ChoiceStep) : Inbound → Option String
  | .image _ _ => none
  | .text content =>
    (step.choices.find? fun choice => choice.isMeantBy (normalized content)).map Choice.id

/-- The text that cancels a question. -/
def cancelWord : String :=
  "stop"

/-- Whether a message cancels a question. -/
def Inbound.isCancel : Inbound → Bool
  | .text content => normalized content == cancelWord
  | .image _ _ => false

/-- Whether a text skips a request for an image, which must be optional and name a word for it. -/
def ImageStep.isSkippedBy (step : ImageStep) (content : String) : Bool :=
  let word := normalized (step.skipKeyword.getD "")
  step.optional && !word.isEmpty && normalized content == word

end Storekeeper
