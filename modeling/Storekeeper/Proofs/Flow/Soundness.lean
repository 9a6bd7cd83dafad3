import Storekeeper.Flow.Load
import Storekeeper.Proofs.Flow.Diagnosis

/-!
# Sound flows

A flow that has been built from a document is sound: it starts at a trigger, and wherever a step can
lead there is a step.  The references that are checked when a flow is built are those that
`Step.references` lists, so soundness speaks of them.
-/

namespace Storekeeper

namespace Flow

/-- A flow that starts at a trigger and of which each reference names a step. -/
structure Sound (flow : Flow) : Prop where
  starts : ∃ step, flow.step? flow.initialStep = some (.trigger step)
  leads : ∀ {name step reference}, flow.step? name = some step → reference ∈ step.references →
    ∃ target, flow.step? reference.target = some target

variable {flow : Flow}

/-- A flow without a defect is sound. -/
theorem sound_of_defect? (whole : flow.defect? = none) : flow.Sound := by
  obtain ⟨starts, connects, -⟩ := defect?_eq_none_iff.mp whole
  refine ⟨starts.trigger, fun found member => ?_⟩
  exact connects _ (Table.mem_of_get? found) _ (Step.leadsTo_iff.mpr ⟨_, member, rfl⟩)

/-- A document is built into the flow that it describes, if that has no defect. -/
theorem build_eq_ok {document : Json} :
    build document = .ok flow ↔ Flow.read document = .ok flow ∧ flow.defect? = none := by
  unfold build
  cases reading : Flow.read document with
  | flawed flaws => simp
  | ok read =>
    simp only [Checked.ok.injEq]
    constructor
    · intro built
      cases whole : read.defect? with
      | some defect => simp [whole] at built
      | none =>
        simp only [whole, Except.ok.injEq] at built
        exact ⟨built, built ▸ whole⟩
    · rintro ⟨rfl, whole⟩
      simp only [whole]

/-- A flow that is built from a document is sound. -/
theorem sound_of_build {document : Json} (built : build document = .ok flow) : flow.Sound :=
  sound_of_defect? (build_eq_ok.mp built).2

namespace Sound

theorem onMatch (sound : flow.Sound) {name : String} {step : TriggerStep}
    (found : flow.step? name = some (.trigger step)) :
    ∃ target, flow.step? step.onMatch.next = some target :=
  sound.leads found (List.mem_singleton_self _)

theorem transition (sound : flow.Sound) {name choice : String} {step : ChoiceStep}
    {transition : Transition} (found : flow.step? name = some (.choice step))
    (led : step.transitions.get? choice = some transition) :
    ∃ target, flow.step? transition.next = some target :=
  sound.leads found
    (List.mem_append_left _ (List.mem_map_of_mem (Table.mem_of_get? led)))

theorem invalidNext (sound : flow.Sound) {name : String} {step : ChoiceStep}
    (found : flow.step? name = some (.choice step)) :
    ∃ target, flow.step? step.invalidNext = some target :=
  sound.leads found (List.mem_append_right _ (List.mem_singleton_self _))

theorem inputNext (sound : flow.Sound) {name : String} {step : InputStep}
    (found : flow.step? name = some (.input step)) :
    ∃ target, flow.step? step.next = some target :=
  sound.leads found (List.mem_singleton_self _)

theorem imageNext (sound : flow.Sound) {name : String} {step : ImageStep}
    (found : flow.step? name = some (.image step)) :
    ∃ target, flow.step? step.next = some target :=
  sound.leads found (List.mem_singleton_self _)

theorem actionNext (sound : flow.Sound) {name : String} {step : ActionStep}
    (found : flow.step? name = some (.action step)) :
    ∃ target, flow.step? step.next = some target :=
  sound.leads found (List.mem_singleton_self _)

end Sound

end Flow

end Storekeeper
