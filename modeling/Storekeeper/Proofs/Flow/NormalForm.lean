import Storekeeper.Proofs.Checked.Reading
import Storekeeper.Proofs.Flow.Format
import Storekeeper.Proofs.Flow.Soundness

/-!
# The normal form of a flow's document

`Flow.toJson` writes every member of a flow, defaults included, under its name with underscores.
What it writes for a flow that was built from a document is built into the same flow again
(`Flow.build_toJson`): each reading of the format undoes the writing beside it, and the one bound on
a value, that of the timeout, is kept by whatever was read.
-/

namespace Storekeeper

open Checked Format

/-! ## What is written is in full -/

/-- A record of a kind is written in full if its kind comes first and its other members follow. -/
theorem Format.variant_full_of_kind {kinds : List (String × List Member)} {kind : String}
    {members : List Member} {rest : Table Json} (listed : kinds.lookup kind = some members)
    (full : (record members).Full (.obj rest)) :
    (variant kinds).Full (.obj (("type", .str kind) :: rest)) := by
  have members : membersByKind kinds (("type", .str kind) :: rest) = tag :: members := by
    simp [membersByKind, Table.get?_cons, listed]
  rw [variant_full, members]
  exact .cons ⟨rfl, trivial⟩ full

theorem Transition.full_toJson (t : Transition) : Transition.format.Full t.toJson := by
  simp [Transition.format, Transition.toJson, Spelling.nextStep, Spelling.messageKey]

theorem Choice.full_toJson (c : Choice) : Choice.format.Full c.toJson := by
  simp [Choice.format, Choice.toJson, Spelling.single]

theorem Step.full_toJson (step : Step) : Step.format.Full step.toJson := by
  cases step with
  | trigger step =>
    refine variant_full_of_kind rfl ?_
    simp [TriggerStep.members, noMatchFormat, step.onMatch.full_toJson, Spelling.single,
      Spelling.onMatch, Spelling.onNoMatch]
  | choice step =>
    refine variant_full_of_kind rfl ?_
    have transitions : (map Transition.format).Full
        (.obj (step.transitions.map fun entry => (entry.1, entry.2.toJson))) := by
      refine map_full.mpr fun entry member => ?_
      obtain ⟨transition, -, rfl⟩ := List.mem_map.mp member
      exact transition.2.full_toJson
    simp [ChoiceStep.members, invalidFormat, Choice.full_toJson, transitions, Spelling.single,
      Spelling.onInvalid, Spelling.messageKey, Spelling.nextStep]
  | input step =>
    refine variant_full_of_kind rfl ?_
    simp [InputStep.members, Spelling.messageKey, Spelling.contextKey, Spelling.nextStep]
  | image step =>
    refine variant_full_of_kind rfl ?_
    simp [ImageStep.members, Spelling.single, Spelling.messageKey, Spelling.contextKey,
      Spelling.nextStep, Spelling.skipKeyword]
  | action step =>
    refine variant_full_of_kind rfl ?_
    simp [ActionStep.members, Spelling.single, Spelling.nextStep]
  | terminal step =>
    refine variant_full_of_kind rfl ?_
    simp [TerminalStep.members, Spelling.messageKey]

theorem Flow.full_toJson (flow : Flow) : Flow.format.Full flow.toJson := by
  have steps : (map Step.format).Full
      (.obj (flow.steps.map fun entry => (entry.1, entry.2.toJson))) := by
    refine map_full.mpr fun entry member => ?_
    obtain ⟨step, -, rfl⟩ := List.mem_map.mp member
    exact step.2.full_toJson
  simp [Flow.format, Flow.members, Flow.toJson, steps, Spelling.single, Spelling.initialStep,
    Spelling.sessionTimeoutSeconds]

/-! ## What is written is read -/

theorem Transition.read_toJson (t : Transition) : Transition.read t.toJson = .ok t := by
  obtain ⟨next, message⟩ := t
  cases message <;> rfl

theorem Choice.read_toJson (c : Choice) : Choice.read c.toJson = .ok c := by
  have aliases : Checked.list text (.arr (c.aliases.map .str)) = .ok c.aliases :=
    list_written fun _ _ => rfl
  simp [Choice.read, Choice.toJson, Checked.record, required, optionalMember, find?, text, aliases,
    Table.get?_cons, Spelling.names, Spelling.single]

theorem Step.read_toJson (step : Step) : Step.read step.toJson = .ok step := by
  cases step with
  | trigger step =>
    obtain ⟨⟨next, message⟩, handled⟩ := step
    cases message <;> rfl
  | choice step =>
    have choices : Checked.list Choice.read (.arr (step.choices.map Choice.toJson)) =
        .ok step.choices :=
      list_written fun choice _ => choice.read_toJson
    have transitions : mapping Transition.read
        (.obj (step.transitions.map fun entry => (entry.1, entry.2.toJson))) = .ok step.transitions :=
      mapping_written fun entry _ => entry.2.read_toJson
    simp [Step.read, Step.toJson, Step.kind, Step.readings, ChoiceStep.read, readInvalid,
      Checked.record, required, find?, text, both, choices, transitions, Table.get?_cons,
      List.lookup_cons, Spelling.names, Spelling.single, Spelling.messageKey, Spelling.onInvalid,
      Spelling.nextStep]
  | input step => rfl
  | image step =>
    obtain ⟨message, context, next, optional, skip⟩ := step
    cases skip <;> rfl
  | action step =>
    obtain ⟨action, next⟩ := step
    cases action <;> rfl
  | terminal step =>
    obtain ⟨message⟩ := step
    cases message <;> rfl

namespace Flow

variable {document : Json} {flow : Flow}

theorem read_toJson (positive : 0 < flow.timeoutSeconds) : Flow.read flow.toJson = .ok flow := by
  have steps : mapping Step.read (.obj (flow.steps.map fun entry => (entry.1, entry.2.toJson))) =
      .ok flow.steps :=
    mapping_written fun entry _ => entry.2.read_toJson
  have timeout : readTimeout (.int flow.timeoutSeconds) = .ok flow.timeoutSeconds := by
    simp [readTimeout, integer, andThen, positive]
  simp [Flow.read, Flow.toJson, Checked.record, required, optionalMember, find?, text, steps, timeout,
    unknownNames, spellings, refuseNames, Table.get?_cons, Table.names, Spelling.names, Spelling.single,
    Spelling.initialStep, Spelling.sessionTimeoutSeconds]

/-! ## The bound on the timeout -/

theorem readTimeout_pos {value : Json} {n : Int} (read : readTimeout value = .ok n) : 0 < n := by
  unfold readTimeout at read
  cases given : integer value with
  | ok m =>
    rw [given, andThen] at read
    split at read
    · cases read
      assumption
    · cases read
  | flawed flaws =>
    rw [given] at read
    cases read

/-- Whatever a flow was read from, its timeout is positive; the one that is not given is. -/
theorem timeoutSeconds_pos (read : Flow.read document = .ok flow) : 0 < flow.timeoutSeconds := by
  cases document with
  | obj members =>
    -- the five readings side by side are taken apart from the last to the first
    obtain ⟨_, _, fourth, -, rfl⟩ := seq_ok read
    obtain ⟨_, _, third, -, rfl⟩ := seq_ok fourth
    obtain ⟨_, timeout, second, given, rfl⟩ := seq_ok third
    obtain ⟨_, _, first, -, rfl⟩ := seq_ok second
    obtain ⟨_, -, rfl⟩ := map_ok first
    change 0 < timeout
    unfold optionalMember at given
    split at given
    · exact readTimeout_pos (within_ok given)
    · cases given
      decide
  | _ => cases read

/-- A flow that was built from any document is written in full, and what is written is built into
the same flow. -/
theorem build_toJson (built : build document = .ok flow) :
    format.Full flow.toJson ∧ build flow.toJson = .ok flow := by
  obtain ⟨read, whole⟩ := build_eq_ok.mp built
  exact ⟨flow.full_toJson, build_eq_ok.mpr ⟨read_toJson (timeoutSeconds_pos read), whole⟩⟩

/-- A document with a number and a truth value given as each other, and nothing that may be left
out. -/
def terse : Json :=
  .obj
    [("id", .str "shop"), ("initialStep", .str "start"), ("sessionTimeoutSeconds", .bool true),
     ("steps",
       .obj
        [("start",
          .obj
            [("type", .str "trigger"), ("onMatch", .obj [("nextStep", .str "end")]),
             ("onNoMatch", .obj [("handled", .int 1)])]),
         ("end", .obj [("type", .str "terminal")])])]

/-- The flow that it describes. -/
def terseFlow : Flow where
  id := "shop"
  initialStep := "start"
  timeoutSeconds := 1
  steps := [("start", .trigger ⟨⟨"end", none⟩, true⟩), ("end", .terminal ⟨none⟩)]

theorem build_toJson_terse : build terse = .ok terseFlow ∧ format.Full terseFlow.toJson ∧
    build terseFlow.toJson = .ok terseFlow := by
  have built : build terse = .ok terseFlow := rfl
  exact ⟨built, build_toJson built⟩

end Flow

end Storekeeper
