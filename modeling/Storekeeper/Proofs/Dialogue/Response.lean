import Storekeeper.Dialogue.Respond
import Storekeeper.Proofs.Dialogue.Entry
import Storekeeper.Proofs.Flow.Soundness

/-!
# Courses of a response

A message is answered either at once or by entering a step.

* `Assistant.Settles` lists the ways in which a message is answered at once, and what becomes of the
  session then.
* `Assistant.Leads` lists the ways in which a message leads to a step, and with which session, header
  and text before it the step is entered.
* `Assistant.respond_cases` says that every course of a response is one of these.
-/

namespace Storekeeper

open Turn

namespace Session

/-- The session with an entry in its context. -/
def keeping (session : Session) (key : String) (value : Json) : Session :=
  { session with context := session.context.put key value }

/-- The session without what a cancelled question forgets. -/
def forgetting (session : Session) (key : String) : Session :=
  { session with context := ((session.context.erase productKey).erase imageKey).erase key }

end Session

/-- Whether a conversation goes on from a step by itself, whatever is said to it. -/
def Step.goesOn : Step → Bool
  | .action _ => true
  | .terminal _ => true
  | _ => false

namespace Assistant

/-- The trigger that decides about a message: the start of the flow if there is no session, or the
trigger at which the session stands. -/
inductive AtTrigger (a : Assistant) : Option Session → TriggerStep → Prop
  | start {step : TriggerStep} : a.flow.step? a.flow.initialStep = some (.trigger step) →
    AtTrigger a none step
  | parked {session : Session} {step : TriggerStep} :
    a.flow.step? session.step = some (.trigger step) → AtTrigger a (some session) step

/-- The session stands at a question or a request for an image whose answer is kept under a key. -/
inductive AsksFor (a : Assistant) (session : Session) : String → Prop
  | input {step : InputStep} : a.flow.step? session.step = some (.input step) →
    AsksFor a session step.contextKey
  | image {step : ImageStep} : a.flow.step? session.step = some (.image step) →
    AsksFor a session step.contextKey

/-- The session stands at a question for the fields of a product, which the message gives: the product
collected so far and the message's fields. -/
structure GivesFields (a : Assistant) (session : Session) (message : Inbound) (step : InputStep)
    (fields : Table String) : Prop where
  found : a.flow.step? session.step = some (.input step)
  key : step.contextKey = productInputKey
  isText : ∃ content, message = .text content ∧ fields = parseFields content
  goesOn : message.isCancel = false

/-- What is said when an image is skipped, unless an action speaks for itself. -/
def skipNote (a : Assistant) (step : ImageStep) : Option String :=
  match a.flow.step? step.next with
  | some (.action _) => none
  | _ => some (a.messages.get "add_product_image_skipped")

theorem skipImage_eq (a : Assistant) (session : Session) (step : ImageStep) :
    a.skipImage session step = a.enter session step.next none (a.skipNote step) := by
  unfold skipImage skipNote
  rcases a.flow.step? step.next with _ | (_ | _ | _ | _ | _ | _) <;> rfl

/-- The ways in which a message leads to a step: its name, and how the conversation arrives there. -/
inductive Leads (a : Assistant) (opened : Except Failure Session) :
    Option Session → Inbound → String → Arrival → Prop
  | opened {session? : Option Session} {step : TriggerStep} {message : Inbound} {session : Session} :
    a.AtTrigger session? step → a.isTriggered message = true → opened = .ok session →
    Leads a opened session? message step.onMatch.next
      ⟨session, a.said step.onMatch.message, none⟩
  | chosen {session : Session} {step : ChoiceStep} {message : Inbound} {choice : String}
    {transition : Transition} :
    a.flow.step? session.step = some (.choice step) → step.meant? message = some choice →
    step.transitions.get? choice = some transition →
    Leads a opened (some session) message transition.next
      ⟨session, a.said transition.message, none⟩
  | cancelled {session : Session} {key : String} {message : Inbound} {recovery : Step} :
    a.AsksFor session key → message.isCancel = true →
    a.flow.step? Flow.recoveryStep = some recovery →
    Leads a opened (some session) message Flow.recoveryStep
      ⟨session.forgetting key, some (a.messages.get "add_product_cancelled"), none⟩
  | answered {session : Session} {step : InputStep} {content : String} :
    a.flow.step? session.step = some (.input step) → (Inbound.text content).isCancel = false →
    step.contextKey ≠ productInputKey →
    Leads a opened (some session) (.text content) step.next
      ⟨session.keeping step.contextKey (.str content), none, none⟩
  | completed {session : Session} {step : InputStep} {message : Inbound} {fields : Table String}
    {existing : StagedProduct} {merged : Merged} :
    a.GivesFields session message step fields →
    StagedProduct.ofContext (session.context.get? productKey) = .ok existing →
    mergeFields a.messages existing fields = .ok merged →
    merged.errors.isEmpty = true → merged.product.isComplete = true →
    Leads a opened (some session) message step.next
      ⟨session.keeping productKey merged.product.toContext, none, none⟩
  | pictured {session : Session} {step : ImageStep} {url : String} {mimeType : Option String} :
    a.flow.step? session.step = some (.image step) →
    Leads a opened (some session) (.image url mimeType) step.next
      ⟨session.keeping step.contextKey (StagedImage.toContext ⟨url, mimeType⟩), none,
        some (a.messages.get "add_product_image_received")⟩
  | skipped {session : Session} {step : ImageStep} {content : String} :
    a.flow.step? session.step = some (.image step) → (Inbound.text content).isCancel = false →
    step.isSkippedBy content = true →
    Leads a opened (some session) (.text content) step.next ⟨session, none, a.skipNote step⟩
  | resumed {session : Session} {step : Step} {message : Inbound} :
    a.flow.step? session.step = some step → step.goesOn = true →
    Leads a opened (some session) message session.step ⟨session, none, none⟩

/-- The ways in which a message is answered at once: the alarms raised, and the decision or the
failure. -/
inductive Settles (a : Assistant) (opened : Except Failure Session) (chat : String) :
    Option Session → Inbound → List Deed → Except Failure Decision → Prop
  | noTrigger {message : Inbound} :
    (∀ step, a.flow.step? a.flow.initialStep ≠ some (.trigger step)) →
    Settles a opened chat none message [.warned (.noTrigger chat a.flow.initialStep)]
      (.ok ⟨{ handled := false }, .leave⟩)
  | unmatched {session? : Option Session} {step : TriggerStep} {message : Inbound} :
    a.AtTrigger session? step → a.isTriggered message = false →
    Settles a opened chat session? message [] (.ok ⟨{ handled := step.otherwiseHandled }, .leave⟩)
  | unopened {session? : Option Session} {step : TriggerStep} {message : Inbound}
    {failure : Failure} :
    a.AtTrigger session? step → a.isTriggered message = true → opened = .error failure →
    Settles a opened chat session? message [] (.error failure)
  | unknownStep {session : Session} {message : Inbound} : a.flow.step? session.step = none →
    Settles a opened chat (some session) message [.warned (.unknownStep chat session.step)]
      (.ok ⟨{ handled := false }, .drop chat⟩)
  | toMenu {session : Session} {step target : ChoiceStep} {message : Inbound} :
    a.flow.step? session.step = some (.choice step) → step.meant? message = none →
    a.flow.step? step.invalidNext = some (.choice target) →
    Settles a opened chat (some session) message []
      (.ok ⟨{ handled := true
              buttons := some (a.menu target (some (a.messages.get step.invalidMessage))) },
        .keep { session with step := step.invalidNext }⟩)
  | toStep {session : Session} {step : ChoiceStep} {target : Step} {message : Inbound} :
    a.flow.step? session.step = some (.choice step) → step.meant? message = none →
    a.flow.step? step.invalidNext = some target →
    Settles a opened chat (some session) message []
      (.ok ⟨{ handled := true, response := some (a.messages.get step.invalidMessage) },
        .keep { session with step := step.invalidNext }⟩)
  | nowhere {session : Session} {step : ChoiceStep} {message : Inbound} :
    a.flow.step? session.step = some (.choice step) → step.meant? message = none →
    a.flow.step? step.invalidNext = none →
    Settles a opened chat (some session) message []
      (.ok ⟨{ handled := true, response := some (a.messages.get step.invalidMessage) }, .leave⟩)
  | noTransition {session : Session} {step : ChoiceStep} {message : Inbound} {choice : String} :
    a.flow.step? session.step = some (.choice step) → step.meant? message = some choice →
    step.transitions.get? choice = none →
    Settles a opened chat (some session) message
      [.warned (.noTransition session.chat session.step choice)]
      (.ok ⟨{ handled := true, response := some (a.messages.get step.invalidMessage) }, .leave⟩)
  | noRecovery {session : Session} {key : String} {message : Inbound} :
    a.AsksFor session key → message.isCancel = true →
    a.flow.step? Flow.recoveryStep = none →
    Settles a opened chat (some session) message [.warned (.noRecoveryStep session.chat)]
      (.ok ⟨{ handled := true, response := some (a.messages.get "add_product_cancelled")
              sessionEnded := true }, .drop session.chat⟩)
  | misplaced {session : Session} {step : InputStep} {url : String} {mimeType : Option String} :
    a.flow.step? session.step = some (.input step) →
    Settles a opened chat (some session) (.image url mimeType) []
      (.ok ⟨{ handled := true, response := some (a.messages.get step.message) }, .leave⟩)
  | unreadable {session : Session} {step : InputStep} {message : Inbound} {fields : Table String}
    {failure : Failure} :
    a.GivesFields session message step fields →
    StagedProduct.ofContext (session.context.get? productKey) = .error failure →
    Settles a opened chat (some session) message [] (.error failure)
  | unmerged {session : Session} {step : InputStep} {message : Inbound} {fields : Table String}
    {existing : StagedProduct} {failure : Failure} :
    a.GivesFields session message step fields →
    StagedProduct.ofContext (session.context.get? productKey) = .ok existing →
    mergeFields a.messages existing fields = .error failure →
    Settles a opened chat (some session) message [] (.error failure)
  | incomplete {session : Session} {step : InputStep} {message : Inbound} {fields : Table String}
    {existing : StagedProduct} {merged : Merged} :
    a.GivesFields session message step fields →
    StagedProduct.ofContext (session.context.get? productKey) = .ok existing →
    mergeFields a.messages existing fields = .ok merged →
    (merged.errors.isEmpty && merged.product.isComplete) = false →
    Settles a opened chat (some session) message []
      (.ok ⟨{ handled := true, response := some (merged.product.prompt merged.errors a.messages) },
        .keep (session.keeping productKey merged.product.toContext)⟩)
  | unskipped {session : Session} {step : ImageStep} {content : String} :
    a.flow.step? session.step = some (.image step) → (Inbound.text content).isCancel = false →
    step.isSkippedBy content = false →
    Settles a opened chat (some session) (.text content) []
      (.ok ⟨{ handled := true, response := some (a.messages.get "add_product_image_invalid") },
        .leave⟩)

/-- A message is answered at once, or by entering a step. -/
def Answers (a : Assistant) (opened : Except Failure Session) (chat : String)
    (session? : Option Session) (message : Inbound) (deeds : List Deed)
    (out : Except Failure Decision) : Prop :=
  a.Settles opened chat session? message deeds out ∨
    ∃ name arrival, a.Leads opened session? message name arrival ∧
      a.Enters a.maxHops.toNat name arrival deeds out

section Cases

variable {a : Assistant} {opened : Except Failure Session} {chat : String} {session : Session}
  {message : Inbound} {deeds : List Deed} {out : Except Failure Decision}

theorem trigger_cases {session? : Option Session} {step : TriggerStep}
    (at_ : a.AtTrigger session? step) (course : (a.atTrigger opened step message).Goes deeds out) :
    a.Answers opened chat session? message deeds out := by
  unfold atTrigger at course
  cases triggered : a.isTriggered message with
  | false =>
    simp only [triggered] at course
    cases course
    exact .inl (.unmatched at_ triggered)
  | true =>
    simp only [triggered, if_true] at course
    cases opening : opened with
    | error failure =>
      rw [opening] at course
      cases course
      exact .inl (.unopened at_ triggered rfl)
    | ok session =>
      rw [opening] at course
      exact .inr ⟨_, _, .opened at_ triggered rfl, enters_of_goes course⟩

theorem choice_cases {step : ChoiceStep} (found : a.flow.step? session.step = some (.choice step))
    (course : (a.atChoice session step message).Goes deeds out) :
    a.Answers opened chat (some session) message deeds out := by
  unfold atChoice at course
  cases meant : step.meant? message with
  | none =>
    rw [meant] at course
    unfold atUnknownChoice at course
    cases target : a.flow.step? step.invalidNext with
    | none =>
      simp only [target] at course
      cases course
      exact .inl (.nowhere found meant target)
    | some next =>
      simp only [target] at course
      cases next with
      | choice menu => cases course; exact .inl (.toMenu found meant target)
      | trigger _ => cases course; exact .inl (.toStep found meant target)
      | input _ => cases course; exact .inl (.toStep found meant target)
      | image _ => cases course; exact .inl (.toStep found meant target)
      | action _ => cases course; exact .inl (.toStep found meant target)
      | terminal _ => cases course; exact .inl (.toStep found meant target)
  | some choice =>
    simp only [meant] at course
    cases led : step.transitions.get? choice with
    | none =>
      simp only [led] at course
      cases course with
      | warn course =>
        cases course
        exact .inl (.noTransition found meant led)
    | some transition =>
      simp only [led] at course
      exact .inr ⟨_, _, .chosen found meant led, enters_of_goes course⟩

theorem cancel_cases {key : String} (asked : a.AsksFor session key)
    (cancels : message.isCancel = true) (course : (a.cancel session key).Goes deeds out) :
    a.Answers opened chat (some session) message deeds out := by
  unfold cancel at course
  cases menu : a.flow.step? Flow.recoveryStep with
  | none =>
    simp only [menu] at course
    cases course with
    | warn course =>
      cases course
      exact .inl (.noRecovery asked cancels menu)
  | some recovery =>
    simp only [menu] at course
    exact .inr ⟨_, _, .cancelled asked cancels menu, enters_of_goes course⟩

theorem productInput_cases {step : InputStep} {content : String}
    (gives : a.GivesFields session (.text content) step (parseFields content))
    (course : (a.atProductInput session step content).Goes deeds out) :
    a.Answers opened chat (some session) (.text content) deeds out := by
  unfold atProductInput at course
  cases kept : StagedProduct.ofContext (session.context.get? productKey) with
  | error failure =>
    rw [kept] at course
    cases course
    exact .inl (.unreadable gives kept)
  | ok existing =>
    rw [kept] at course
    change ((ofExcept (mergeFields a.messages existing (parseFields content))).bind _).Goes deeds
      out at course
    cases merging : mergeFields a.messages existing (parseFields content) with
    | error failure =>
      rw [merging] at course
      cases course
      exact .inl (.unmerged gives kept merging)
    | ok merged =>
      rw [merging] at course
      change Goes (if (merged.errors.isEmpty && merged.product.isComplete) = true then _ else _) deeds
        out at course
      cases done : merged.errors.isEmpty && merged.product.isComplete with
      | false =>
        simp only [done] at course
        cases course
        exact .inl (.incomplete gives kept merging done)
      | true =>
        simp only [done, if_true] at course
        rw [Bool.and_eq_true] at done
        exact .inr ⟨_, _, .completed gives kept merging done.1 done.2, enters_of_goes course⟩

theorem input_cases {step : InputStep} (found : a.flow.step? session.step = some (.input step))
    (course : (a.atInput session step message).Goes deeds out) :
    a.Answers opened chat (some session) message deeds out := by
  unfold atInput at course
  cases cancels : message.isCancel with
  | true =>
    simp only [cancels, if_true] at course
    exact cancel_cases (.input found) cancels course
  | false =>
    simp only [cancels] at course
    cases message with
    | image url mimeType => cases course; exact .inl (.misplaced found)
    | text content =>
      by_cases key : step.contextKey = productInputKey
      · simp only [key, if_true] at course
        exact productInput_cases ⟨found, key, ⟨content, rfl, rfl⟩, cancels⟩ course
      · simp only [key, if_false] at course
        exact .inr ⟨_, _, .answered found cancels key, enters_of_goes course⟩

theorem image_cases {step : ImageStep} (found : a.flow.step? session.step = some (.image step))
    (course : (a.atImage session step message).Goes deeds out) :
    a.Answers opened chat (some session) message deeds out := by
  unfold atImage at course
  cases cancels : message.isCancel with
  | true =>
    simp only [cancels, if_true] at course
    exact cancel_cases (.image found) cancels course
  | false =>
    simp only [cancels] at course
    cases message with
    | image url mimeType => exact .inr ⟨_, _, .pictured found, enters_of_goes course⟩
    | text content =>
      cases skips : step.isSkippedBy content with
      | false =>
        simp only [skips] at course
        cases course
        exact .inl (.unskipped found cancels skips)
      | true =>
        simp only [skips, if_true] at course
        rw [skipImage_eq] at course
        exact .inr ⟨_, _, .skipped found cancels skips, enters_of_goes course⟩

/-- Every course of a response is one of those listed. -/
theorem respond_cases {session? : Option Session}
    (course : (a.respond opened session? chat message).Goes deeds out) :
    a.Answers opened chat session? message deeds out := by
  cases session? with
  | none =>
    unfold respond start at course
    cases found : a.flow.step? a.flow.initialStep with
    | none =>
      simp only [found] at course
      cases course with
      | warn course =>
        cases course
        exact .inl (.noTrigger (by simp [found]))
    | some step =>
      simp only [found] at course
      cases step with
      | trigger step => exact trigger_cases (.start found) course
      | _ =>
        cases course with
        | warn course =>
          cases course
          exact .inl (.noTrigger (by simp [found]))
  | some session =>
    unfold respond at course
    cases found : a.flow.step? session.step with
    | none =>
      simp only [found] at course
      cases course with
      | warn course =>
        cases course
        exact .inl (.unknownStep found)
    | some step =>
      simp only [found] at course
      cases step with
      | trigger step => exact trigger_cases (.parked found) course
      | choice step => exact choice_cases found course
      | input step => exact input_cases found course
      | image step => exact image_cases found course
      | action step => exact .inr ⟨_, _, .resumed found rfl, enters_of_goes course⟩
      | terminal step => exact .inr ⟨_, _, .resumed found rfl, enters_of_goes course⟩

/-- Wherever a message leads in a sound flow, there is a step. -/
theorem Leads.target {session? : Option Session} {name : String} {arrival : Arrival}
    (sound : a.flow.Sound) (leads : a.Leads opened session? message name arrival) :
    ∃ step, a.flow.step? name = some step := by
  cases leads with
  | opened trigger _ _ =>
    cases trigger with
    | start found => exact sound.onMatch found
    | parked found => exact sound.onMatch found
  | chosen found _ led => exact sound.transition found led
  | cancelled _ _ menu => exact ⟨_, menu⟩
  | answered found _ _ => exact sound.inputNext found
  | completed gives _ _ _ _ => exact sound.inputNext gives.found
  | pictured found => exact sound.imageNext found
  | skipped found _ _ => exact sound.imageNext found
  | resumed found _ => exact ⟨_, found⟩

end Cases

end Assistant

end Storekeeper
