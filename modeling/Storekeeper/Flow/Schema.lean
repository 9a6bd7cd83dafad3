import Storekeeper.Flow.Basic
import Storekeeper.Checked.Scalar
import Storekeeper.Checked.Record

/-!
# The flow format

Reading a flow from a document and writing it back.  The name of a member has two spellings, words
joined by underscores or by capitals; the second counts when both are there.  At the top level no
other members are allowed.  `Flow.toJson` writes every member, with defaults filled in.
-/

namespace Storekeeper

open Checked

/-- The two spellings of a member's name, the one that is reported first. -/
structure Spelling where
  joined : String
  underscored : String

namespace Spelling

/-- The spellings, in the order in which they are looked for. -/
def names (s : Spelling) : List String :=
  [s.joined, s.underscored]

/-- A name of one word. -/
def single (name : String) : Spelling :=
  ⟨name, name⟩

/-- The step at which a flow starts. -/
def initialStep : Spelling := ⟨"initialStep", "initial_step"⟩

/-- How long a silent conversation lives. -/
def sessionTimeoutSeconds : Spelling := ⟨"sessionTimeoutSeconds", "session_timeout_seconds"⟩

/-- Where a trigger leads. -/
def onMatch : Spelling := ⟨"onMatch", "on_match"⟩

/-- What a trigger does about other texts. -/
def onNoMatch : Spelling := ⟨"onNoMatch", "on_no_match"⟩

/-- What a menu does about an answer that is none of its choices. -/
def onInvalid : Spelling := ⟨"onInvalid", "on_invalid"⟩

/-- The step that follows. -/
def nextStep : Spelling := ⟨"nextStep", "next_step"⟩

/-- The key of a message. -/
def messageKey : Spelling := ⟨"messageKey", "message_key"⟩

/-- The name under which an answer is kept. -/
def contextKey : Spelling := ⟨"contextKey", "context_key"⟩

/-- The word with which a request is skipped. -/
def skipKeyword : Spelling := ⟨"skipKeyword", "skip_keyword"⟩

end Spelling

open Spelling (single)

/-- A transition. -/
def Transition.read : Json → Checked Transition :=
  record "StepTransition" fun members =>
    Transition.mk
      <$> required members Spelling.nextStep.names text
      <*> optionalMember members Spelling.messageKey.names none (nullable text)

/-- A choice of a menu. -/
def Choice.read : Json → Checked Choice :=
  record "StepOption" fun members =>
    Choice.mk
      <$> required members (single "id").names text
      <*> required members (single "label").names text
      <*> optionalMember members (single "aliases").names [] (list text)

/-- An action by its name. -/
def Action.read : Json → Checked Action
  | .str "list_products" => ok .listProducts
  | .str "add_product" => ok .addProduct
  | _ => fail .notChoice

/-- Whether texts that do not match count as handled. -/
def readNoMatch : Json → Checked Bool :=
  record "NoMatchBehaviour" fun members =>
    optionalMember members (single "handled").names false truth

/-- What is said to an invalid answer and where it leads. -/
def readInvalid : Json → Checked (String × String) :=
  record "InvalidChoice" fun members =>
    both (required members Spelling.messageKey.names text)
      (required members Spelling.nextStep.names text)

/-- A trigger. -/
def TriggerStep.read (members : Table Json) : Checked TriggerStep :=
  TriggerStep.mk
    <$> required members Spelling.onMatch.names Transition.read
    <*> optionalMember members Spelling.onNoMatch.names false readNoMatch

/-- A menu. -/
def ChoiceStep.read (members : Table Json) : Checked ChoiceStep :=
  (fun message choices transitions invalid =>
      ⟨message, choices, transitions, invalid.1, invalid.2⟩)
    <$> required members Spelling.messageKey.names text
    <*> required members (single "options").names (list Choice.read)
    <*> required members (single "transitions").names (mapping Transition.read)
    <*> required members Spelling.onInvalid.names readInvalid

/-- A question. -/
def InputStep.read (members : Table Json) : Checked InputStep :=
  InputStep.mk
    <$> required members Spelling.messageKey.names text
    <*> required members Spelling.contextKey.names text
    <*> required members Spelling.nextStep.names text

/-- A request for an image. -/
def ImageStep.read (members : Table Json) : Checked ImageStep :=
  ImageStep.mk
    <$> required members Spelling.messageKey.names text
    <*> required members Spelling.contextKey.names text
    <*> required members Spelling.nextStep.names text
    <*> optionalMember members (single "optional").names false truth
    <*> optionalMember members Spelling.skipKeyword.names none (nullable text)

/-- An action with its successor. -/
def ActionStep.read (members : Table Json) : Checked ActionStep :=
  ActionStep.mk
    <$> required members (single "action").names Action.read
    <*> required members Spelling.nextStep.names text

/-- An end. -/
def TerminalStep.read (members : Table Json) : Checked TerminalStep :=
  TerminalStep.mk <$> optionalMember members Spelling.messageKey.names none (nullable text)

/-- The readings of the kinds of steps, by the name of the kind. -/
def Step.readings : List (String × (Table Json → Checked Step)) :=
  [("trigger", fun members => Step.trigger <$> TriggerStep.read members),
   ("choice", fun members => Step.choice <$> ChoiceStep.read members),
   ("input", fun members => Step.input <$> InputStep.read members),
   ("image_input", fun members => Step.image <$> ImageStep.read members),
   ("action", fun members => Step.action <$> ActionStep.read members),
   ("terminal", fun members => Step.terminal <$> TerminalStep.read members)]

/-- A step: the member `type` says of which kind. -/
def Step.read : Json → Checked Step
  | .obj members =>
    match Table.get? members "type" with
    | none => fail .noTag
    | some (.str kind) =>
      match Step.readings.lookup kind with
      | some reading => (reading members).within (.key kind)
      | none => fail .unknownTag
    | some _ => fail .unknownTag
  | _ => fail .notTagged

/-- A number of seconds greater than zero. -/
def readTimeout (value : Json) : Checked Int :=
  (integer value).andThen fun n => if 0 < n then ok n else fail .notPositive

/-- The members of a flow, in the order of their flaws. -/
def Flow.spellings : List Spelling :=
  [single "id", .initialStep, .sessionTimeoutSeconds, single "steps"]

/-- The names in a flow's document that are not the ones its members are taken from. -/
def Flow.unknownNames (members : Table Json) : List String :=
  let used := Flow.spellings.filterMap fun s => (find? members s.names).map Prod.fst
  members.names.filter fun name => !used.contains name

/-- One flaw for each name that is unknown. -/
def refuseNames (names : List String) : Checked Unit :=
  if names.isEmpty then ok ()
  else flawed (names.map fun name => ⟨[.key name], .unknownMember⟩)

/-- A flow as its document describes it, its references not yet looked at. -/
def Flow.read : Json → Checked Flow :=
  record "FlowDefinition" fun members =>
    (fun id initialStep timeout steps _ => ⟨id, initialStep, timeout, steps⟩)
      <$> required members (single "id").names text
      <*> required members Spelling.initialStep.names text
      <*> optionalMember members Spelling.sessionTimeoutSeconds.names 300 readTimeout
      <*> required members (single "steps").names (mapping Step.read)
      <*> refuseNames (Flow.unknownNames members)

/-- A transition as a document. -/
def Transition.toJson (t : Transition) : Json :=
  .obj [("next_step", .str t.next), ("message_key", .ofOption t.message)]

/-- A choice as a document. -/
def Choice.toJson (c : Choice) : Json :=
  .obj [("id", .str c.id), ("label", .str c.label), ("aliases", .arr (c.aliases.map .str))]

/-- A step as a document. -/
def Step.toJson (step : Step) : Json :=
  .obj (("type", .str step.kind) ::
    match step with
    | .trigger s =>
      [("on_match", s.onMatch.toJson),
       ("on_no_match", .obj [("handled", .bool s.otherwiseHandled)])]
    | .choice s =>
      [("message_key", .str s.message), ("options", .arr (s.choices.map Choice.toJson)),
       ("transitions", .obj (s.transitions.map fun (id, t) => (id, t.toJson))),
       ("on_invalid",
        .obj [("message_key", .str s.invalidMessage), ("next_step", .str s.invalidNext)])]
    | .input s =>
      [("message_key", .str s.message), ("context_key", .str s.contextKey),
       ("next_step", .str s.next)]
    | .image s =>
      [("message_key", .str s.message), ("context_key", .str s.contextKey),
       ("next_step", .str s.next), ("optional", .bool s.optional),
       ("skip_keyword", .ofOption s.skipKeyword)]
    | .action s => [("action", .str s.action.name), ("next_step", .str s.next)]
    | .terminal s => [("message_key", .ofOption s.message)])

/-- A flow as a document, all its members written out. -/
def Flow.toJson (flow : Flow) : Json :=
  .obj
    [("id", .str flow.id), ("initial_step", .str flow.initialStep),
     ("session_timeout_seconds", .int flow.timeoutSeconds),
     ("steps", .obj (flow.steps.map fun (name, step) => (name, step.toJson)))]

end Storekeeper
