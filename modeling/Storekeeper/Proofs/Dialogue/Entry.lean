import Storekeeper.Dialogue.Enter
import Storekeeper.Proofs.Dialogue.Action

/-!
# Courses of entering a step

`Assistant.Enters` has one constructor for each way in which entering a step can go on: the step
ends the conversation, waits for an answer, is an action that is run and passed, or is an action at
which the conversation has to wait.  `Assistant.enters_of_goes` says that there is no other way, so
that a proof about a chain of actions is an induction on `Enters`.
-/

namespace Storekeeper

open Turn

/-- Whether a step is shown as a text with which it asks for an answer, if it asks at all. -/
def Step.isPrompted : Step → Bool
  | .trigger _ => true
  | .input _ => true
  | .image _ => true
  | _ => false

namespace Arrival

/-- The session at the step that is entered. -/
def standing (arrival : Arrival) (name : String) : Session :=
  { arrival.session with step := name }

/-- What has been said and stands above, in its order. -/
def said (arrival : Arrival) : List (Option String) :=
  [arrival.before, arrival.header]

/-- The arrival at the step after an action: its context is kept, and its text is the last thing
said before. -/
def onward (arrival : Arrival) (name : String) (context : Table Json) (text : String) : Arrival where
  session := { arrival.standing name with context }
  header := none
  before := paragraphs (arrival.said ++ [some text])

end Arrival

namespace Assistant

/-- The ways in which entering a step can go, when so many further actions may be run. -/
inductive Enters (a : Assistant) :
    Nat → String → Arrival → List Deed → Except Failure Decision → Prop
  | missing {hops : Nat} {name : String} {arrival : Arrival} :
    a.flow.step? name = none →
    Enters a hops name arrival [.warned (.noTarget arrival.session.chat name)]
      (.ok ⟨{ handled := true, response := paragraphs arrival.said }, .leave⟩)
  | ended {hops : Nat} {name : String} {arrival : Arrival} {step : TerminalStep} :
    a.flow.step? name = some (.terminal step) →
    Enters a hops name arrival []
      (.ok ⟨{ handled := true, response := paragraphs (arrival.said ++ [a.said step.message])
              sessionEnded := true }, .drop arrival.session.chat⟩)
  | menu {hops : Nat} {name : String} {arrival : Arrival} {step : ChoiceStep} :
    a.flow.step? name = some (.choice step) →
    Enters a hops name arrival []
      (.ok ⟨{ handled := true, preMessage := arrival.before
              buttons := some (a.menu step arrival.header) }, .keep (arrival.standing name)⟩)
  | prompt {hops : Nat} {name : String} {arrival : Arrival} {step : Step} :
    a.flow.step? name = some step → step.isPrompted = true →
    Enters a hops name arrival []
      (.ok ⟨{ handled := true, response := paragraphs (arrival.said ++ [a.said step.prompt]) },
        .keep (arrival.standing name)⟩)
  | limit {name : String} {arrival : Arrival} {step : ActionStep} :
    a.flow.step? name = some (.action step) →
    Enters a 0 name arrival [.warned (.hopLimit arrival.session.chat name)]
      (.ok ⟨{ handled := true, response := paragraphs arrival.said }, .keep (arrival.standing name)⟩)
  | failed {hops : Nat} {name : String} {arrival : Arrival} {step : ActionStep}
    {deeds : List Deed} {failure : Failure} :
    a.flow.step? name = some (.action step) →
    a.Acts arrival.session.context step.action deeds (.error failure) →
    Enters a (hops + 1) name arrival deeds (.error failure)
  | onward {hops : Nat} {name : String} {arrival : Arrival} {step : ActionStep}
    {first second : List Deed} {context : Table Json} {text : String}
    {out : Except Failure Decision} :
    a.flow.step? name = some (.action step) →
    a.Acts arrival.session.context step.action first (.ok (context, text)) →
    Enters a hops step.next (arrival.onward name context text) second out →
    Enters a (hops + 1) name arrival (first ++ second) out

/-- Every course of entering a step is one of these. -/
theorem enters_of_goes {a : Assistant} {hops : Nat} {name : String} {arrival : Arrival}
    {deeds : List Deed} {out : Except Failure Decision}
    (course : (a.enterWithin hops name arrival).Goes deeds out) :
    a.Enters hops name arrival deeds out := by
  -- Only an action leads on, with one hop less.
  induction hops using Nat.strongRecOn generalizing name arrival deeds out with
  | ind hops ih =>
    unfold enterWithin at course
    cases found : a.flow.step? name with
    | none =>
      rw [found] at course
      cases course with
      | warn course =>
        cases course
        exact .missing found
    | some step =>
      rw [found] at course
      cases step with
      | terminal step => cases course; exact .ended found
      | choice step => cases course; exact .menu found
      | trigger step => cases course; exact .prompt found rfl
      | input step => cases course; exact .prompt found rfl
      | image step => cases course; exact .prompt found rfl
      | action step =>
        cases hops with
        | zero =>
          cases course with
          | warn course =>
            cases course
            exact .limit found
        | succ hops =>
          rcases goes_bind course with
            ⟨failure, stopped, rfl⟩ | ⟨⟨context, text⟩, first, second, left, right, rfl⟩
          · exact .failed found (acts_of_goes stopped)
          · exact .onward found (acts_of_goes left) (ih hops (Nat.lt_succ_self hops) right)

end Assistant

end Storekeeper
