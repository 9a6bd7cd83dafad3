import Storekeeper.Flow.Validity
import Storekeeper.Proofs.Table

/-!
# What is wrong with a flow

A flow is checked against three rules, one after the other, and the first violation is reported.  The rules and the
report are said here without the check: `Flow.IsValid` for the rules, `Step.Dangles` for the first reference of a step
that leads nowhere, and `Flow.FirstViolation` for the report on a flow.

* `Step.leadsTo_iff`: the references of a step that are looked at are all there are.
* `initialDefect?_eq_none_iff`, `referenceDefect?_eq_none_iff`, `choiceDefect?_eq_none_iff`: each check finds nothing
  exactly if its rule is kept; the lemmas on `some` say what it finds otherwise.
* `defect?_diagnoses`: a flow without a defect is valid, and of any other the first violation is reported.
-/

namespace Storekeeper

theorem hasDuplicate_eq_false {items : List String} : hasDuplicate items = false ↔ items.Nodup := by
  induction items with
  | nil => simp [hasDuplicate]
  | cons item items ih => simp [hasDuplicate, ih]

/-! ## The rules -/

/-- Where a step can lead: on a match, by a transition, on an invalid answer, or after it is done. -/
inductive Step.LeadsTo : Step → String → Prop
  | onMatch (step : TriggerStep) : LeadsTo (.trigger step) step.onMatch.next
  | transition {menu : ChoiceStep} {id : String} {transition : Transition}
      (member : (id, transition) ∈ menu.transitions) : LeadsTo (.choice menu) transition.next
  | onInvalid (menu : ChoiceStep) : LeadsTo (.choice menu) menu.invalidNext
  | input (step : InputStep) : LeadsTo (.input step) step.next
  | image (step : ImageStep) : LeadsTo (.image step) step.next
  | action (step : ActionStep) : LeadsTo (.action step) step.next

/-- A menu has choices, and no two of them have one identifier. -/
structure ChoiceStep.IsDistinct (menu : ChoiceStep) : Prop where
  given : menu.choices ≠ []
  distinct : (menu.choices.map Choice.id).Nodup

/-- If the step is a menu, it has choices that can be told apart. -/
def Step.IsDistinct : Step → Prop
  | .choice menu => menu.IsDistinct
  | _ => True

namespace Flow

/-- There is a step of that name. -/
def Declares (flow : Flow) (name : String) : Prop :=
  ∃ step, flow.step? name = some step

/-- The flow starts at a step that is named and is a trigger. -/
structure Starts (flow : Flow) : Prop where
  given : flow.initialStep ≠ ""
  trigger : ∃ step, flow.step? flow.initialStep = some (.trigger step)

/-- Wherever the step leads there is a step of the flow. -/
def Connects (flow : Flow) (step : Step) : Prop :=
  ∀ target, step.LeadsTo target → flow.Declares target

/-- The flow keeps the three rules. -/
structure IsValid (flow : Flow) : Prop where
  starts : flow.Starts
  connects : ∀ entry ∈ flow.steps, flow.Connects entry.2
  distinct : ∀ entry ∈ flow.steps, entry.2.IsDistinct

end Flow

/-! ## The report -/

/-- The first reference of a step that leads nowhere: the transitions of a menu come in their order, and where it leads
on an invalid answer comes after them. -/
inductive Step.Dangles (declares : String → Prop) : Step → Reference → Prop
  | onMatch {step : TriggerStep} (unknown : ¬declares step.onMatch.next) :
      Dangles declares (.trigger step) ⟨"on_match.next_step", step.onMatch.next⟩
  | transition {menu : ChoiceStep} {before after : Table Transition} {id : String} {transition : Transition}
      (split : menu.transitions = before ++ (id, transition) :: after)
      (known : ∀ entry ∈ before, declares entry.2.next) (unknown : ¬declares transition.next) :
      Dangles declares (.choice menu) ⟨"transitions." ++ id ++ ".next_step", transition.next⟩
  | onInvalid {menu : ChoiceStep} (known : ∀ entry ∈ menu.transitions, declares entry.2.next)
      (unknown : ¬declares menu.invalidNext) :
      Dangles declares (.choice menu) ⟨"on_invalid.next_step", menu.invalidNext⟩
  | input {step : InputStep} (unknown : ¬declares step.next) :
      Dangles declares (.input step) ⟨"next_step", step.next⟩
  | image {step : ImageStep} (unknown : ¬declares step.next) :
      Dangles declares (.image step) ⟨"next_step", step.next⟩
  | action {step : ActionStep} (unknown : ¬declares step.next) :
      Dangles declares (.action step) ⟨"next_step", step.next⟩

/-- What is reported of a flow: the name of the violated rule, a sentence, and the step at fault. -/
structure Report where
  code : String
  message : String
  step? : Option String

/-- The report on a defect. -/
def Defect.report (defect : Defect) : Report :=
  ⟨defect.code, defect.message, defect.step?⟩

/-- The report on a flow that violates a rule while it keeps those before it.  Of the references and of the menus, it
is on the first step at fault. -/
inductive Flow.FirstViolation (flow : Flow) : Report → Prop
  | emptyInitialStep (empty : flow.initialStep = "") :
      FirstViolation flow ⟨"EMPTY_INITIAL_STEP", "Initial step cannot be empty", none⟩
  | unknownInitialStep (given : flow.initialStep ≠ "") (unknown : ¬flow.Declares flow.initialStep) :
      FirstViolation flow ⟨"UNKNOWN_INITIAL_STEP",
        "Initial step '" ++ flow.initialStep ++ "' is not defined in flow '" ++ flow.id ++ "'",
        some flow.initialStep⟩
  | initialStepNotTrigger {step : Step} (given : flow.initialStep ≠ "")
      (found : flow.step? flow.initialStep = some step) (other : ∀ trigger, step ≠ .trigger trigger) :
      FirstViolation flow ⟨"INITIAL_STEP_NOT_TRIGGER",
        "Initial step '" ++ flow.initialStep ++ "' must be a trigger step, got '" ++ step.kind ++ "'",
        some flow.initialStep⟩
  | danglingReference {before after : Table Step} {name : String} {step : Step} {reference : Reference}
      (starts : flow.Starts) (split : flow.steps = before ++ (name, step) :: after)
      (earlier : ∀ entry ∈ before, flow.Connects entry.2) (first : step.Dangles flow.Declares reference) :
      FirstViolation flow ⟨"DANGLING_STEP_REFERENCE",
        "Step '" ++ name ++ "' " ++ reference.place ++ " references unknown step '" ++ reference.target ++ "'",
        some name⟩
  | noChoices {before after : Table Step} {name : String} {menu : ChoiceStep} (starts : flow.Starts)
      (connects : ∀ entry ∈ flow.steps, flow.Connects entry.2)
      (split : flow.steps = before ++ (name, .choice menu) :: after)
      (earlier : ∀ entry ∈ before, entry.2.IsDistinct) (empty : menu.choices = []) :
      FirstViolation flow ⟨"EMPTY_OPTIONS", "Choice step '" ++ name ++ "' declares no options", some name⟩
  | duplicateChoice {before after : Table Step} {name : String} {menu : ChoiceStep} (starts : flow.Starts)
      (connects : ∀ entry ∈ flow.steps, flow.Connects entry.2)
      (split : flow.steps = before ++ (name, .choice menu) :: after)
      (earlier : ∀ entry ∈ before, entry.2.IsDistinct) (given : menu.choices ≠ [])
      (twice : ¬(menu.choices.map Choice.id).Nodup) :
      FirstViolation flow ⟨"DUPLICATE_OPTION", "Choice step '" ++ name ++ "' declares duplicate option ids",
        some name⟩

/-! ## The references of a step -/

/-- The references that are looked at are where the step can lead. -/
theorem Step.leadsTo_iff {step : Step} {target : String} :
    step.LeadsTo target ↔ ∃ reference ∈ step.references, reference.target = target := by
  constructor
  · intro leads
    cases leads with
    | @transition menu id transition member =>
      refine ⟨_, List.mem_append_left _ (List.mem_map_of_mem member), rfl⟩
    | onInvalid menu => exact ⟨_, List.mem_append_right _ (List.mem_singleton_self _), rfl⟩
    | _ => exact ⟨_, List.mem_singleton_self _, rfl⟩
  · rintro ⟨reference, member, rfl⟩
    cases step with
    | choice menu =>
      rcases List.mem_append.mp member with chosen | invalid
      · obtain ⟨⟨id, transition⟩, there, rfl⟩ := List.mem_map.mp chosen
        exact .transition there
      · rw [List.mem_singleton.mp invalid]
        exact .onInvalid menu
    | terminal step => cases member
    | trigger step => rw [List.mem_singleton.mp member]; exact .onMatch step
    | input step => rw [List.mem_singleton.mp member]; exact .input step
    | image step => rw [List.mem_singleton.mp member]; exact .image step
    | action step => rw [List.mem_singleton.mp member]; exact .action step

/-- The reference that is found is the first that leads nowhere. -/
theorem Step.find?_references_iff {step : Step} {known : String → Bool} {reference : Reference} :
    step.references.find? (fun reference => !known reference.target) = some reference ↔
      step.Dangles (fun name => known name = true) reference := by
  constructor
  · intro found
    cases step with
    | choice menu =>
      rw [references, List.find?_append, List.find?_map, Option.or_eq_some_iff] at found
      rcases found with chosen | ⟨none, invalid⟩
      · obtain ⟨⟨id, transition⟩, searched, rfl⟩ := Option.map_eq_some_iff.mp chosen
        obtain ⟨unknown, before, after, split, earlier⟩ := List.find?_eq_some_iff_append.mp searched
        exact .transition split (by simpa using earlier) (by simpa using unknown)
      · have chosen := List.find?_eq_none.mp (Option.map_eq_none_iff.mp none)
        obtain ⟨unknown, rfl⟩ := by simpa using invalid
        exact .onInvalid (by simpa using chosen) (by simp [unknown])
    | terminal step => cases found
    | trigger step =>
      obtain ⟨unknown, rfl⟩ := by simpa [references] using found
      exact .onMatch (by simp [unknown])
    | input step =>
      obtain ⟨unknown, rfl⟩ := by simpa [references] using found
      exact .input (by simp [unknown])
    | image step =>
      obtain ⟨unknown, rfl⟩ := by simpa [references] using found
      exact .image (by simp [unknown])
    | action step =>
      obtain ⟨unknown, rfl⟩ := by simpa [references] using found
      exact .action (by simp [unknown])
  · intro dangles
    cases dangles with
    | @transition menu before after id transition split earlier unknown =>
      have searched : menu.transitions.find? (fun entry => !known entry.2.next) = some (id, transition) :=
        List.find?_eq_some_iff_append.mpr ⟨by simpa using unknown, before, after, split, by simpa using earlier⟩
      rw [references, List.find?_append, List.find?_map, Option.or_eq_some_iff]
      exact .inl (Option.map_eq_some_iff.mpr ⟨_, searched, rfl⟩)
    | @onInvalid menu earlier unknown =>
      have searched : menu.transitions.find? (fun entry => !known entry.2.next) = none :=
        List.find?_eq_none.mpr (by simpa using earlier)
      rw [references, List.find?_append, List.find?_map, Option.or_eq_some_iff]
      exact .inr ⟨Option.map_eq_none_iff.mpr searched, by simp [unknown]⟩
    | onMatch unknown => simp [references, unknown]
    | input unknown => simp [references, unknown]
    | image unknown => simp [references, unknown]
    | action unknown => simp [references, unknown]

namespace Flow

variable {flow : Flow} {step : Step} {name : String} {reference : Reference} {defect : Defect}

/-! ## Each check -/

theorem has_iff_declares : flow.steps.has name = true ↔ flow.Declares name :=
  Table.has_iff

/-- No reference of a step is found exactly if all lead on. -/
theorem find?_eq_none_iff_connects :
    step.references.find? (fun reference => !flow.steps.has reference.target) = none ↔ flow.Connects step := by
  rw [List.find?_eq_none]
  constructor
  · intro known target leads
    obtain ⟨reference, member, rfl⟩ := Step.leadsTo_iff.mp leads
    exact has_iff_declares.mp (by simpa using known reference member)
  · intro connects reference member
    have declared := connects _ (Step.leadsTo_iff.mpr ⟨reference, member, rfl⟩)
    simp [has_iff_declares.mpr declared]

theorem find?_eq_some_iff_dangles :
    step.references.find? (fun reference => !flow.steps.has reference.target) = some reference ↔
      step.Dangles flow.Declares reference := by
  have same : (fun name => flow.steps.has name = true) = flow.Declares :=
    funext fun name => propext has_iff_declares
  rw [Step.find?_references_iff, same]

theorem initialDefect?_eq_none_iff : flow.initialDefect? = none ↔ flow.Starts := by
  unfold initialDefect?
  constructor
  · intro whole
    split at whole
    · cases whole
    · rename_i given
      cases found : flow.step? flow.initialStep with
      | none => simp [found] at whole
      | some step =>
        cases step with
        | trigger step => exact ⟨given, step, found⟩
        | _ => simp [found, Step.isTrigger] at whole
  · rintro ⟨given, step, found⟩
    simp [given, found, Step.isTrigger]

/-- What is found of the step that the flow starts at is what is wrong with it. -/
theorem initialDefect?_eq_some (found : flow.initialDefect? = some defect) :
    flow.FirstViolation defect.report := by
  unfold initialDefect? at found
  split at found
  · rename_i empty
    cases found
    exact .emptyInitialStep empty
  · rename_i given
    cases searched : flow.step? flow.initialStep with
    | none =>
      rw [searched] at found
      cases found
      refine .unknownInitialStep given ?_
      rintro ⟨step, there⟩
      rw [searched] at there
      cases there
    | some step =>
      cases isTrigger : step.isTrigger with
      | true => simp [searched, isTrigger] at found
      | false =>
        simp only [searched, isTrigger, Bool.false_eq_true, if_false, Option.some.injEq] at found
        subst found
        refine .initialStepNotTrigger given searched ?_
        rintro trigger rfl
        cases isTrigger

theorem referenceDefect?_eq_none_iff :
    flow.referenceDefect? = none ↔ ∀ entry ∈ flow.steps, flow.Connects entry.2 := by
  unfold referenceDefect?
  rw [List.findSome?_eq_none_iff]
  refine forall₂_congr fun entry _ => ?_
  rw [Option.map_eq_none_iff, find?_eq_none_iff_connects]

theorem referenceDefect?_eq_some_iff : flow.referenceDefect? = some defect ↔
    ∃ before name step after reference, flow.steps = before ++ (name, step) :: after ∧
      (∀ entry ∈ before, flow.Connects entry.2) ∧ step.Dangles flow.Declares reference ∧
      defect = .danglingReference name reference := by
  unfold referenceDefect?
  rw [List.findSome?_eq_some_iff]
  constructor
  · rintro ⟨before, ⟨name, step⟩, after, split, found, earlier⟩
    obtain ⟨reference, dangling, rfl⟩ := Option.map_eq_some_iff.mp found
    refine ⟨before, name, step, after, reference, split, fun entry member => ?_,
      find?_eq_some_iff_dangles.mp dangling, rfl⟩
    exact find?_eq_none_iff_connects.mp (Option.map_eq_none_iff.mp (earlier entry member))
  · rintro ⟨before, name, step, after, reference, split, earlier, dangles, rfl⟩
    refine ⟨before, (name, step), after, split, ?_, fun entry member => ?_⟩
    · exact Option.map_eq_some_iff.mpr ⟨reference, find?_eq_some_iff_dangles.mpr dangles, rfl⟩
    · exact Option.map_eq_none_iff.mpr (find?_eq_none_iff_connects.mpr (earlier entry member))

/-- What is wrong with the choices of a step. -/
def choiceDefectOf? (entry : String × Step) : Option Defect :=
  match entry.2 with
  | .choice menu =>
    if menu.choices.isEmpty then some (.noChoices entry.1)
    else if hasDuplicate (menu.choices.map Choice.id) then some (.duplicateChoice entry.1)
    else none
  | _ => none

theorem choiceDefect?_eq (flow : Flow) : flow.choiceDefect? = flow.steps.findSome? choiceDefectOf? :=
  rfl

theorem choiceDefectOf?_menu (name : String) (menu : ChoiceStep) : choiceDefectOf? (name, .choice menu) =
    if menu.choices = [] then some (.noChoices name)
    else if (menu.choices.map Choice.id).Nodup then none
    else some (.duplicateChoice name) := by
  unfold choiceDefectOf?
  simp only [List.isEmpty_iff, ← hasDuplicate_eq_false]
  cases hasDuplicate (menu.choices.map Choice.id) <;> rfl

theorem choiceDefectOf?_eq_none_iff {entry : String × Step} :
    choiceDefectOf? entry = none ↔ entry.2.IsDistinct := by
  obtain ⟨name, step⟩ := entry
  cases step with
  | choice menu =>
    rw [choiceDefectOf?_menu]
    constructor
    · intro whole
      split at whole
      · cases whole
      · rename_i given
        split at whole
        · rename_i distinct
          exact ⟨given, distinct⟩
        · cases whole
    · rintro ⟨given, distinct⟩
      rw [if_neg given, if_pos distinct]
  | _ => exact iff_of_true rfl trivial

theorem choiceDefect?_eq_none_iff :
    flow.choiceDefect? = none ↔ ∀ entry ∈ flow.steps, entry.2.IsDistinct := by
  rw [choiceDefect?_eq, List.findSome?_eq_none_iff]
  exact forall₂_congr fun entry _ => choiceDefectOf?_eq_none_iff

theorem choiceDefect?_eq_some_iff : flow.choiceDefect? = some defect ↔
    ∃ before name menu after, flow.steps = before ++ (name, .choice menu) :: after ∧
      (∀ entry ∈ before, entry.2.IsDistinct) ∧
      (menu.choices = [] ∧ defect = .noChoices name ∨
        menu.choices ≠ [] ∧ ¬(menu.choices.map Choice.id).Nodup ∧ defect = .duplicateChoice name) := by
  rw [choiceDefect?_eq, List.findSome?_eq_some_iff]
  constructor
  · rintro ⟨before, ⟨name, step⟩, after, split, found, earlier⟩
    have fine := fun entry member => choiceDefectOf?_eq_none_iff.mp (earlier entry member)
    cases step with
    | choice menu =>
      refine ⟨before, name, menu, after, split, fine, ?_⟩
      rw [choiceDefectOf?_menu] at found
      split at found
      · rename_i empty
        cases found
        exact .inl ⟨empty, rfl⟩
      · rename_i given
        split at found
        · cases found
        · rename_i twice
          cases found
          exact .inr ⟨given, twice, rfl⟩
    | _ => cases found
  · rintro ⟨before, name, menu, after, split, earlier, fault⟩
    refine ⟨before, (name, .choice menu), after, split, ?_,
      fun entry member => choiceDefectOf?_eq_none_iff.mpr (earlier entry member)⟩
    rw [choiceDefectOf?_menu]
    rcases fault with ⟨empty, rfl⟩ | ⟨given, twice, rfl⟩
    · rw [if_pos empty]
    · rw [if_neg given, if_neg twice]

/-! ## All checks -/

theorem defect?_eq_none_iff : flow.defect? = none ↔ flow.IsValid := by
  unfold defect?
  simp only [Option.orElse_eq_orElse, Option.orElse_eq_or, Option.or_eq_none_iff]
  rw [initialDefect?_eq_none_iff, referenceDefect?_eq_none_iff, choiceDefect?_eq_none_iff]
  exact ⟨fun ⟨starts, connects, distinct⟩ => ⟨starts, connects, distinct⟩,
    fun valid => ⟨valid.starts, valid.connects, valid.distinct⟩⟩

/-- The defect of a flow is what the first check finds that finds something. -/
theorem defect?_eq_some_iff : flow.defect? = some defect ↔
    flow.initialDefect? = some defect ∨
      flow.Starts ∧ (flow.referenceDefect? = some defect ∨
        (∀ entry ∈ flow.steps, flow.Connects entry.2) ∧ flow.choiceDefect? = some defect) := by
  unfold defect?
  simp only [Option.orElse_eq_orElse, Option.orElse_eq_or, Option.or_eq_some_iff]
  rw [initialDefect?_eq_none_iff, referenceDefect?_eq_none_iff]

/-- What is reported is the first violation. -/
theorem firstViolation_of_defect? (found : flow.defect? = some defect) :
    flow.FirstViolation defect.report := by
  rcases defect?_eq_some_iff.mp found with initial | ⟨starts, reference | ⟨connects, choice⟩⟩
  · exact initialDefect?_eq_some initial
  · obtain ⟨before, name, step, after, reference, split, earlier, dangles, rfl⟩ :=
      referenceDefect?_eq_some_iff.mp reference
    exact .danglingReference starts split earlier dangles
  · obtain ⟨before, name, menu, after, split, earlier, ⟨empty, rfl⟩ | ⟨given, twice, rfl⟩⟩ :=
      choiceDefect?_eq_some_iff.mp choice
    · exact .noChoices starts connects split earlier empty
    · exact .duplicateChoice starts connects split earlier given twice

/-- The first violation is reported. -/
theorem defect?_of_firstViolation {report : Report} (violation : flow.FirstViolation report) :
    ∃ defect, flow.defect? = some defect ∧ defect.report = report := by
  cases violation with
  | emptyInitialStep empty =>
    refine ⟨.emptyInitialStep, defect?_eq_some_iff.mpr (.inl ?_), rfl⟩
    unfold initialDefect?
    rw [if_pos empty]
  | unknownInitialStep given unknown =>
    have missing : flow.step? flow.initialStep = none :=
      Option.eq_none_iff_forall_ne_some.mpr fun step found => unknown ⟨step, found⟩
    refine ⟨.unknownInitialStep flow.initialStep flow.id, defect?_eq_some_iff.mpr (.inl ?_), rfl⟩
    unfold initialDefect?
    rw [if_neg given, missing]
  | @initialStepNotTrigger step given found other =>
    have no : step.isTrigger = false := by
      cases step with
      | trigger trigger => exact absurd rfl (other trigger)
      | _ => rfl
    refine ⟨.initialStepNotTrigger flow.initialStep step.kind, defect?_eq_some_iff.mpr (.inl ?_), rfl⟩
    unfold initialDefect?
    rw [if_neg given, found]
    simp [no]
  | danglingReference starts split earlier first =>
    exact ⟨_, defect?_eq_some_iff.mpr (.inr ⟨starts, .inl (referenceDefect?_eq_some_iff.mpr
      ⟨_, _, _, _, _, split, earlier, first, rfl⟩)⟩), rfl⟩
  | noChoices starts connects split earlier empty =>
    exact ⟨_, defect?_eq_some_iff.mpr (.inr ⟨starts, .inr ⟨connects, choiceDefect?_eq_some_iff.mpr
      ⟨_, _, _, _, split, earlier, .inl ⟨empty, rfl⟩⟩⟩⟩), rfl⟩
  | duplicateChoice starts connects split earlier given twice =>
    exact ⟨_, defect?_eq_some_iff.mpr (.inr ⟨starts, .inr ⟨connects, choiceDefect?_eq_some_iff.mpr
      ⟨_, _, _, _, split, earlier, .inr ⟨given, twice, rfl⟩⟩⟩⟩), rfl⟩

/-- **The check of a flow is sound, complete and precise.**  Nothing is reported exactly if the flow starts at a
trigger, all its references name steps, and all its menus have choices of different identifiers.  Otherwise the report
is on the first of these rules that is violated, and, within the rules on references and on menus, on the first step
at fault and its first reference that names no step. -/
theorem defect?_diagnoses (flow : Flow) :
    (flow.defect? = none ↔ flow.IsValid) ∧
      ∀ report, flow.defect?.map Defect.report = some report ↔ flow.FirstViolation report := by
  refine ⟨defect?_eq_none_iff, fun report => ?_⟩
  rw [Option.map_eq_some_iff]
  constructor
  · rintro ⟨defect, found, rfl⟩
    exact firstViolation_of_defect? found
  · exact defect?_of_firstViolation

end Flow

end Storekeeper
