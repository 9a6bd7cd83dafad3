import Storekeeper.Notification.Basic

/-!
# What a message carries

A message carries a text or an image, or nothing that is handled: its kind tells which of its parts counts,
and what is empty is not carried.

* `MessageData.Carries` has one constructor for each kind, and `MessageData.message?_eq_some` says that there
  is no other way.
* `MessageData.Presses.carries`: the press of a button carries the identifier of the button.
-/

namespace Storekeeper

/-- The press of a button gives its identifier, or the text on the button if the identifier is missing or
empty; not an empty one. -/
inductive GivesText (selectedId selectedText : Option String) : String → Prop
  | identifier {content : String} : selectedId = some content → content ≠ "" →
    GivesText selectedId selectedText content
  | label {content : String} : selectedId = none ∨ selectedId = some "" →
    selectedText = some content → content ≠ "" → GivesText selectedId selectedText content

theorem ofText?_eq_some {text : Option String} {message : Inbound} :
    Inbound.ofText? text = some message ↔
      ∃ content, text = some content ∧ content ≠ "" ∧ message = .text content := by
  cases text with
  | none => simp [Inbound.ofText?]
  | some content =>
    by_cases empty : content = ""
    · simp [Inbound.ofText?, empty]
    · simp only [Inbound.ofText?, String.isEmpty_iff, empty, if_false, Option.some.injEq]
      constructor
      · rintro rfl
        exact ⟨content, rfl, empty, rfl⟩
      · rintro ⟨_, rfl, -, rfl⟩
        rfl

theorem ofText?_firstGiven {selectedId selectedText : Option String} {message : Inbound} :
    Inbound.ofText? (firstGiven selectedId selectedText) = some message ↔
      ∃ content, GivesText selectedId selectedText content ∧ message = .text content := by
  rw [ofText?_eq_some]
  constructor
  · rintro ⟨content, first, filled, rfl⟩
    refine ⟨content, ?_, rfl⟩
    cases selectedId with
    | none => exact .label (.inl rfl) first filled
    | some id =>
      by_cases empty : id = ""
      · subst empty
        exact .label (.inr rfl) first filled
      · simp only [firstGiven, String.isEmpty_iff, empty, if_false] at first
        exact .identifier first filled
  · rintro ⟨content, gives, rfl⟩
    refine ⟨content, ?_, ?_, rfl⟩
    · cases gives with
      | identifier given filled => simp [firstGiven, given, filled]
      | label missing given _ => rcases missing with missing | missing <;> simp [firstGiven, missing, given]
    · cases gives with
      | identifier _ filled => exact filled
      | label _ _ filled => exact filled

/-- The press of any kind of button gives a text if it is there. -/
theorem bind_firstGiven {α : Type} {press? : Option α} {selectedId selectedText : α → Option String}
    {message : Inbound} :
    (press?.bind fun press => Inbound.ofText? (firstGiven (selectedId press) (selectedText press))) =
        some message ↔
      ∃ press content, press? = some press ∧ GivesText (selectedId press) (selectedText press) content ∧
        message = .text content := by
  simp only [Option.bind_eq_some_iff, ofText?_firstGiven, exists_and_left]

/-- The text or image that a message carries: by its kind, and not an empty one. -/
inductive MessageData.Carries (data : MessageData) : Inbound → Prop
  | text {content : String} : data.kind = "textMessage" → data.text = some content → content ≠ "" →
    Carries data (.text content)
  | buttons {press : ButtonPress} {content : String} : data.kind = "buttonsResponseMessage" →
    data.buttons = some press → GivesText press.selectedId press.selectedText content →
    Carries data (.text content)
  | interactive {press : ButtonPress} {content : String} : data.kind = "interactiveButtonsResponse" →
    data.interactiveButtons = some press → GivesText press.selectedId press.selectedText content →
    Carries data (.text content)
  | template {press : TemplatePress} {content : String} : data.kind = "templateButtonsReplyMessage" →
    data.template = some press → GivesText press.selectedId press.selectedText content →
    Carries data (.text content)
  | image {file : FileMessage} : data.kind = "imageMessage" → data.file = some file →
    file.downloadUrl ≠ "" → Carries data (.image file.downloadUrl file.mimeType)

theorem MessageData.message?_eq_some {data : MessageData} {message : Inbound} :
    data.message? = some message ↔ data.Carries message := by
  constructor
  · intro carried
    unfold message? at carried
    split at carried
    · rename_i kind
      obtain ⟨content, given, filled, rfl⟩ := ofText?_eq_some.mp carried
      exact .text kind given filled
    · rename_i kind
      obtain ⟨press, content, given, gives, rfl⟩ := bind_firstGiven.mp carried
      exact .buttons kind given gives
    · rename_i kind
      obtain ⟨press, content, given, gives, rfl⟩ := bind_firstGiven.mp carried
      exact .interactive kind given gives
    · rename_i kind
      obtain ⟨press, content, given, gives, rfl⟩ := bind_firstGiven.mp carried
      exact .template kind given gives
    · rename_i kind
      obtain ⟨file, given, shown⟩ := Option.bind_eq_some_iff.mp carried
      by_cases empty : file.downloadUrl = ""
      · simp [empty] at shown
      · simp only [String.isEmpty_iff, empty, if_false, Option.some.injEq] at shown
        subst shown
        exact .image kind given empty
    · cases carried
  · intro carries
    cases carries with
    | text kind given filled => simp [message?, kind, given, Inbound.ofText?, filled]
    | buttons kind given gives =>
      simp only [message?, kind]
      exact bind_firstGiven.mpr ⟨_, _, given, gives, rfl⟩
    | interactive kind given gives =>
      simp only [message?, kind]
      exact bind_firstGiven.mpr ⟨_, _, given, gives, rfl⟩
    | template kind given gives =>
      simp only [message?, kind]
      exact bind_firstGiven.mpr ⟨_, _, given, gives, rfl⟩
    | image kind given filled => simp [message?, kind, given, filled]

theorem MessageData.message?_eq_none {data : MessageData} :
    data.message? = none ↔ ∀ message, ¬data.Carries message := by
  simp only [← message?_eq_some, Option.eq_none_iff_forall_ne_some, ne_eq]

/-- A message is the press of a button with an identifier: of a menu of one or the other kind, or of a
template. -/
inductive MessageData.Presses (id : String) : MessageData → Prop
  | buttons {data : MessageData} {press : ButtonPress} : data.kind = "buttonsResponseMessage" →
    data.buttons = some press → press.selectedId = some id → Presses id data
  | interactive {data : MessageData} {press : ButtonPress} : data.kind = "interactiveButtonsResponse" →
    data.interactiveButtons = some press → press.selectedId = some id → Presses id data
  | template {data : MessageData} {press : TemplatePress} : data.kind = "templateButtonsReplyMessage" →
    data.template = some press → press.selectedId = some id → Presses id data

/-- The press of a button carries its identifier, whatever the text on the button. -/
theorem MessageData.Presses.carries {data : MessageData} {id : String} (pressed : data.Presses id)
    (named : id ≠ "") : data.Carries (.text id) := by
  cases pressed with
  | buttons kind press selected => exact .buttons kind press (.identifier selected named)
  | interactive kind press selected => exact .interactive kind press (.identifier selected named)
  | template kind press selected => exact .template kind press (.identifier selected named)

end Storekeeper
