import Mathlib.Data.List.Nodup
import Storekeeper.Proofs.Dialogue.Event
import Storekeeper.Proofs.Notification.Content
import Storekeeper.Proofs.Text.Lowering

/-!
# Choosing by a button

A menu is sent as buttons that carry the identifiers of its choices, and the press of a button comes back as
the text of its identifier.  This text is read like any other: without the blanks at its ends, up to case,
and as the first choice with such an identifier or such another word for it.

* `Text.lower_strip`: up to case a text is what is left of it without the blanks at its ends only if there
  are none.
* `ChoiceStep.meant?_eq_some_iff`: which choice is meant by a text, where no two have one identifier.
* `Desk.press_chooses`: what the press of a button comes to, in every session that stands at its menu.  It
  may be another choice than that of the button, or none (`Desk.press_chooses_another`).
-/

namespace Storekeeper

namespace Text

/-- Two texts are the same up to case. -/
def Alike (s t : String) : Prop :=
  lower s = lower t

instance (s t : String) : Decidable (Alike s t) :=
  inferInstanceAs (Decidable (lower s = lower t))

/-- The lower-case form of a text is as long as the forms of its characters together. -/
theorem length_lowerChars (cs : List Char) :
    (lowerChars cs).length = (cs.flatMap lowerChar).length := by
  suffices every : ∀ before, (lowerFrom before cs).length = (cs.flatMap lowerChar).length from every []
  have sigma : (lowerChar 'Σ').length = 1 := by decide
  induction cs with
  | nil => intro before; rfl
  | cons c rest ih =>
    intro before
    rw [lowerFrom, List.length_append, ih, List.flatMap_cons, List.length_append]
    split
    · rename_i same
      rw [same, sigma]
      split <;> rfl
    · rfl

/-- Where characters are taken out, the lower-case form becomes shorter by as many at least. -/
theorem length_lowerChars_of_sublist {part whole : List Char} (sublist : part.Sublist whole) :
    (lowerChars part).length + whole.length ≤ (lowerChars whole).length + part.length := by
  rw [length_lowerChars, length_lowerChars]
  induction sublist with
  | slnil => exact Nat.le_refl _
  | cons c _ ih =>
    have positive : 0 < (lowerChar c).length := List.length_pos_iff.mpr (isForm_lowerChar c).some
    rw [List.flatMap_cons, List.length_append, List.length_cons]
    omega
  | cons_cons c _ ih =>
    rw [List.flatMap_cons, List.flatMap_cons, List.length_append, List.length_append, List.length_cons,
      List.length_cons]
    omega

theorem trim_sublist (cs : List Char) : (trim cs).Sublist cs :=
  (dropEnd_front isBlank _).sublist.trans (List.dropWhile_sublist isBlank)

/-- Without the blanks at its ends a text is another one, even up to case, if there are any. -/
theorem lower_strip (s : String) : lower (strip s) = lower s ↔ strip s = s := by
  refine ⟨fun same => ?_, congrArg lower⟩
  have chars : lowerChars (trim s.toList) = lowerChars s.toList := by
    have lists := congrArg String.toList same
    simpa [lower, strip, String.toList_ofList] using lists
  have shorter := length_lowerChars_of_sublist (trim_sublist s.toList)
  rw [chars] at shorter
  have whole : trim s.toList = s.toList :=
    (trim_sublist s.toList).eq_of_length_le (by omega)
  rw [strip, whole, String.ofList_toList]

end Text

/-! ## What a text means at a menu -/

/-- A choice is called by a name, up to case: by its identifier or by another word for it. -/
def Choice.IsCalled (choice : Choice) (name : String) : Prop :=
  Text.Alike name choice.id ∨ ∃ word ∈ choice.aliases, Text.Alike name word

theorem Choice.isMeantBy_iff {choice : Choice} {content : String} :
    choice.isMeantBy (normalized content) = true ↔ choice.IsCalled (Text.strip content) := by
  simp [isMeantBy, IsCalled, Text.Alike, normalized]

/-- A choice is called by its own identifier without blanks at the ends only if there are none, or if
another word for the choice says so. -/
theorem Choice.isCalled_own {choice : Choice} :
    choice.IsCalled (Text.strip choice.id) ↔ Text.strip choice.id = choice.id ∨
      ∃ word ∈ choice.aliases, Text.Alike (Text.strip choice.id) word :=
  or_congr_left (Text.lower_strip choice.id)

/-- In a flow that has been built no two choices of a menu have one identifier. -/
theorem Flow.nodup_of_build {flow : Flow} {document : Json} (built : Flow.build document = .ok flow)
    {name : String} {step : ChoiceStep} (found : flow.step? name = some (.choice step)) :
    (step.choices.map Choice.id).Nodup := by
  have valid : flow.IsValid := Flow.defect?_eq_none_iff.mp (Flow.build_eq_ok.mp built).2
  have menu : step.IsDistinct := valid.distinct _ (Table.mem_of_get? found)
  exact menu.distinct

namespace ChoiceStep

variable {step : ChoiceStep} {content : String} {choice : Choice} {earlier later : List Choice}

/-- A text means a choice if the choice is called so, and none before it. -/
theorem meant?_eq_some_iff (distinct : (step.choices.map Choice.id).Nodup)
    (divided : step.choices = earlier ++ choice :: later) :
    step.meant? (.text content) = some choice.id ↔ choice.IsCalled (Text.strip content) ∧
      ∀ other ∈ earlier, ¬other.IsCalled (Text.strip content) := by
  rw [divided, List.map_append, List.map_cons] at distinct
  simp only [meant?, divided, List.find?_append]
  cases before : earlier.find? fun other => other.isMeantBy (normalized content) with
  | some other =>
    have member : other ∈ earlier := List.mem_of_find?_eq_some before
    have called : other.isMeantBy (normalized content) = true :=
      List.find?_some (p := fun other : Choice => other.isMeantBy (normalized content)) before
    have different : other.id ≠ choice.id := by
      intro same
      have apart := List.disjoint_of_nodup_append distinct (List.mem_map_of_mem member)
      exact apart (same ▸ List.mem_cons_self ..)
    refine iff_of_false (by simpa using different) fun ⟨_, clear⟩ => ?_
    exact clear other member (Choice.isMeantBy_iff.mp called)
  | none =>
    have clear : ∀ other ∈ earlier, ¬other.IsCalled (Text.strip content) := by
      intro other member called
      exact List.find?_eq_none.mp before other member (Choice.isMeantBy_iff.mpr called)
    rw [Option.none_or, and_iff_left clear, ← Choice.isMeantBy_iff, List.find?_cons]
    have last : choice.id ∉ later.map Choice.id :=
      (List.nodup_cons.mp (List.nodup_append.mp distinct).2.1).1
    cases called : choice.isMeantBy (normalized content) with
    | true => simp
    | false =>
      simp only [Bool.false_eq_true, iff_false, Option.map_eq_some_iff, not_exists, not_and]
      intro other found same
      exact last (same ▸ List.mem_map_of_mem (List.mem_of_find?_eq_some found))

/-- A text means nothing at a menu if no choice is called so. -/
theorem meant?_eq_none_iff :
    step.meant? (.text content) = none ↔ ∀ other ∈ step.choices, ¬other.IsCalled (Text.strip content) := by
  simp only [meant?, Option.map_eq_none_iff, List.find?_eq_none, Choice.isMeantBy_iff]

end ChoiceStep

namespace Desk

variable {σ : Type} {a : Assistant}

/-- A flow in which a word for one choice of a menu is the identifier of another, up to case, and an
identifier begins with a blank. -/
def drinks : Flow where
  id := "drinks"
  initialStep := "start"
  timeoutSeconds := 300
  steps :=
    [("start", .trigger { onMatch := { next := "menu", message := none }, otherwiseHandled := true }),
     ("menu",
      .choice
        { message := "intent_prompt"
          choices :=
            [{ id := "1", label := "A cup of tea", aliases := ["tea"] },
             { id := "Tea", label := "More tea", aliases := [] },
             { id := " milk", label := "Milk", aliases := [] }]
          transitions :=
            [("1", { next := "one", message := none }), ("Tea", { next := "more", message := none }),
             (" milk", { next := "more", message := none })]
          invalidMessage := "invalid_choice"
          invalidNext := "menu" }),
     ("one", .input { message := "one", contextKey := "one", next := "menu" }),
     ("more", .input { message := "more", contextKey := "more", next := "menu" })]

/-- **The press of a button.**  Over a flow that has been built, each choice of a menu is shown as a button,
and the press of a button with an identifier that is not empty comes back as the text of the identifier.
This text means the choice of the button if the identifier has no blanks at its ends, or another word for
the choice says so, and if no choice before it is called so too.  In any case it means the first choice that
is called so, and no other, and nothing if there is none; after any events at a new desk, a session that
stands at the menu goes where this choice leads. -/
theorem press_chooses {document : Json} (built : Flow.build document = .ok a.flow) (world : World σ)
    (timeout horizon : Time) (events : List (Event σ)) {name : String} {step : ChoiceStep}
    (found : a.flow.step? name = some (.choice step)) {choice : Choice}
    (offered : choice ∈ step.choices) (named : choice.id ≠ "") {n : Notification}
    (pressed : n.data.Presses choice.id) :
    let desk := (Desk.new ⟨timeout, horizon, []⟩).afterAll world a events
    let text := Text.strip choice.id
    (∀ header, ⟨choice.id, choice.label⟩ ∈ (a.menu step header).options) ∧
      n.message? = some (.text choice.id) ∧
      (∀ earlier later, step.choices = earlier ++ choice :: later →
        (step.meant? (.text choice.id) = some choice.id ↔
          (text = choice.id ∨ ∃ word ∈ choice.aliases, Text.Alike text word) ∧
            ∀ other ∈ earlier, ¬other.IsCalled text)) ∧
      (∀ earlier other later, step.choices = earlier ++ other :: later →
        (step.meant? (.text choice.id) = some other.id ↔
          other.IsCalled text ∧ ∀ before ∈ earlier, ¬before.IsCalled text)) ∧
      (step.meant? (.text choice.id) = none ↔ ∀ other ∈ step.choices, ¬other.IsCalled text) ∧
      (∀ one ∈ step.choices, ∀ other ∈ step.choices, step.meant? (.text choice.id) = some one.id →
        step.meant? (.text choice.id) = some other.id → one = other) ∧
      ∀ now chat session, desk.live now chat = some session → session.step = name →
        ∀ meant transition, step.meant? (.text choice.id) = some meant →
          step.transitions.get? meant = some transition →
          desk.response a now chat (.text choice.id) =
            a.enter session transition.next (a.said transition.message) none := by
  intro desk text
  have distinct := Flow.nodup_of_build built found
  refine ⟨fun header => List.mem_map_of_mem offered, MessageData.message?_eq_some.mpr (pressed.carries named),
    fun earlier later divided => ?_,
    fun earlier other later divided => ChoiceStep.meant?_eq_some_iff distinct divided,
    ChoiceStep.meant?_eq_none_iff, fun one first other second meant again => ?_, fun now chat session alive stands => ?_⟩
  · rw [ChoiceStep.meant?_eq_some_iff distinct divided, Choice.isCalled_own]
  · have same : one.id = other.id := Option.some.inj (meant.symm.trans again)
    exact List.inj_on_of_nodup_map distinct first second same
  · intro meant transition means led
    subst stands
    unfold response
    rw [alive]
    simp only [Assistant.respond, found, Assistant.atStep, Assistant.atChoice, means, led]

/-- The first button of the drinks means its own choice. -/
theorem press_chooses_own :
    let a : Assistant := ⟨drinks, defaultMessages, none, true, 8, 10⟩
    let desk := (Desk.new ⟨10, 1000, []⟩).afterAll .bare a [.message "c" (.text "hi") 0]
    let n : Notification :=
      ⟨Notification.incoming, ⟨1, "wid"⟩, ⟨"c", "c"⟩,
        ⟨"buttonsResponseMessage", none, some ⟨some "1", some "Tea", none⟩, none, none, none⟩, "id"⟩
    Flow.build drinks.toJson = .ok drinks ∧ n.message? = some (.text "1") ∧
      ∃ session, desk.live 5 "c" = some session ∧
        desk.response a 5 "c" (.text "1") = a.enter session "one" none none := by
  intro a desk n
  have built : Flow.build drinks.toJson = .ok drinks := by rfl
  obtain ⟨menu, choice, later, found, divided, id, led⟩ : ∃ menu choice later,
      a.flow.step? "menu" = some (.choice menu) ∧ menu.choices = [] ++ choice :: later ∧
        choice.id = "1" ∧ menu.transitions.get? choice.id = some ⟨"one", none⟩ :=
    ⟨_, _, _, rfl, rfl, rfl, rfl⟩
  obtain ⟨session, alive, stands⟩ : ∃ session, desk.live 5 "c" = some session ∧
      session.step = "menu" := ⟨_, rfl, rfl⟩
  have offered : choice ∈ menu.choices := by rw [divided]; exact List.mem_cons_self ..
  have pressed : n.data.Presses choice.id := by rw [id]; exact .buttons rfl rfl rfl
  obtain ⟨-, carried, own, -, -, -, goes⟩ := press_chooses built .bare 10 1000
    [.message "c" (.text "hi") 0] found offered (by rw [id]; decide) pressed
  have meant : menu.meant? (.text choice.id) = some choice.id :=
    (own [] later divided).mpr ⟨.inl (by rw [id]; decide), nofun⟩
  have response := goes 5 "c" session alive stands choice.id _ meant led
  rw [id] at carried response
  exact ⟨built, carried, session, alive, response⟩

/-- Among the drinks, the press of the second button means the first choice, and the press of the third one
means none. -/
theorem press_chooses_another :
    let a : Assistant := ⟨drinks, defaultMessages, none, true, 8, 10⟩
    let desk := (Desk.new ⟨10, 1000, []⟩).afterAll .bare a [.message "c" (.text "hi") 0]
    (Flow.build drinks.toJson).isOk = true ∧ (desk.live 5 "c").map Session.step = some "menu" ∧
      ∃ menu, a.flow.step? "menu" = some (.choice menu) ∧
        (menu.choices.map Choice.id).map (fun id => menu.meant? (.text id)) =
          [some "1", some "1", none] := by
  intro a desk
  exact ⟨by rfl, by decide +kernel, _, rfl, by decide +kernel⟩

end Desk

end Storekeeper
