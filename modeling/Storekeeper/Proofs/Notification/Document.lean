import Storekeeper.Proofs.Checked.Reading
import Storekeeper.Proofs.Notification.Content
import Storekeeper.Proofs.Notification.Form
import Storekeeper.Proofs.Table

/-!
# What the document of a notification tells

What is told of a notification stands at fixed places of its document: its kind, the chat that it came from,
and the text or image that its message carries.

* `Json.Tells` says at which places the content of a message stands, by the kind of the message.
* `Notification.Told`: what is read from a document is what stands there (`Notification.read_told`), and so
  a message is told of exactly if what is read carries it (`Notification.Told.tells_iff`).
* `Notification.read_toJson`: a notification that is written down is read as it was.
-/

namespace Storekeeper

open Checked

/-! ## Places of texts -/

namespace Json

/-- The value at the end of a path of names. -/
def at? : Json → List String → Option Json
  | value, [] => some value
  | value, name :: path =>
    (value.members?.bind fun members => members.get? name).bind fun member => member.at? path

/-- The text at the end of a path of names. -/
def textAt? (value : Json) (path : List String) : Option String :=
  (value.at? path).bind str?

/-- The document of a notification tells of a text or an image: by the kind of its message, and not of an
empty one. -/
inductive Tells (value : Json) : Inbound → Prop
  | text {content : String} : value.textAt? ["messageData", "typeMessage"] = some "textMessage" →
    value.textAt? ["messageData", "textMessageData", "textMessage"] = some content → content ≠ "" →
    Tells value (.text content)
  | buttons {content : String} :
    value.textAt? ["messageData", "typeMessage"] = some "buttonsResponseMessage" →
    GivesText (value.textAt? ["messageData", "buttonsResponseMessage", "selectedButtonId"])
      (value.textAt? ["messageData", "buttonsResponseMessage", "selectedButtonText"]) content →
    Tells value (.text content)
  | interactive {content : String} :
    value.textAt? ["messageData", "typeMessage"] = some "interactiveButtonsResponse" →
    GivesText (value.textAt? ["messageData", "interactiveButtonsResponse", "selectedButtonId"])
      (value.textAt? ["messageData", "interactiveButtonsResponse", "selectedButtonText"]) content →
    Tells value (.text content)
  | template {content : String} :
    value.textAt? ["messageData", "typeMessage"] = some "templateButtonsReplyMessage" →
    GivesText (value.textAt? ["messageData", "templateButtonReplyMessage", "selectedId"])
      (value.textAt? ["messageData", "templateButtonReplyMessage", "selectedDisplayText"]) content →
    Tells value (.text content)
  | image {url : String} : value.textAt? ["messageData", "typeMessage"] = some "imageMessage" →
    value.textAt? ["messageData", "fileMessageData", "downloadUrl"] = some url → url ≠ "" →
    Tells value (.image url (value.textAt? ["messageData", "fileMessageData", "mimeType"]))

theorem textAt?_within {members : Table Json} {name : String} {member : Json}
    (given : members.get? name = some member) (path : List String) :
    (obj members).textAt? (name :: path) = member.textAt? path := by
  simp only [textAt?, at?, members?, Option.bind_some, given]

/-- Nothing stands behind a name that is missing. -/
theorem textAt?_missing {members : Table Json} {name : String} (none : members.get? name = none)
    (path : List String) : (obj members).textAt? (name :: path) = Option.none := by
  simp only [textAt?, at?, members?, Option.bind_some, none, Option.bind_none]

/-- Nothing stands in what is null. -/
theorem textAt?_null (path : List String) : Json.null.textAt? path = none := by
  cases path <;> rfl

end Json

/-! ## What is read -/

namespace Checked

variable {α : Type} {members : Table Json} {name : String}

theorem maybe_ok {reading : Json → Checked α} {value? : Option α}
    (done : maybe members name reading = .ok value?) :
    (∃ member value, members.get? name = some member ∧ reading member = .ok value ∧ value? = some value) ∨
      (members.get? name = none ∨ members.get? name = some .null) ∧ value? = none := by
  unfold maybe optionalMember at done
  rw [find?_singleton] at done
  cases given : members.get? name with
  | some member =>
    rw [given] at done
    by_cases null : member = .null
    · subst null
      cases done
      exact .inr ⟨.inr rfl, rfl⟩
    · have read := within_ok done
      rw [nullable_of_some null] at read
      obtain ⟨value, given, rfl⟩ := map_ok read
      exact .inl ⟨member, value, rfl, given, rfl⟩
  | none =>
    rw [given] at done
    cases done
    exact .inr ⟨.inl rfl, rfl⟩

/-- A text that has to be there stands under its name. -/
theorem textAt?_required {content : String} (done : required members [name] text = .ok content) :
    (Json.obj members).textAt? [name] = some content := by
  obtain ⟨member, given, read⟩ := required_ok done
  rw [Json.textAt?_within given]
  cases text_eq_ok.mp read
  rfl

/-- What stands in a member that may be missing is what is read of it. -/
theorem textAt?_maybe {reading : Json → Checked α} {value? : Option α} {path : List String}
    (part : α → Option String) (done : maybe members name reading = .ok value?)
    (told : ∀ member value, reading member = .ok value → member.textAt? path = part value) :
    (Json.obj members).textAt? (name :: path) = value?.bind part := by
  rcases maybe_ok done with ⟨member, value, given, read, rfl⟩ | ⟨missing | null, rfl⟩
  · rw [Json.textAt?_within given, told member value read, Option.bind_some]
  · rw [Json.textAt?_missing missing, Option.bind_none]
  · rw [Json.textAt?_within null, Json.textAt?_null, Option.bind_none]

/-- A text that may be missing stands under its name. -/
theorem textAt?_maybe_text {content? : Option String} (done : maybe members name text = .ok content?) :
    (Json.obj members).textAt? [name] = content? := by
  refine (textAt?_maybe some done fun member content read => ?_).trans (Option.bind_fun_some content?)
  cases text_eq_ok.mp read
  rfl

end Checked

theorem Author.read_told {member : Json} {author : Author} (done : read member = .ok author) :
    member.textAt? ["chatId"] = some author.chatId := by
  cases member with
  | obj members =>
    obtain ⟨_, _, front, -, rfl⟩ := seq_ok done
    obtain ⟨_, chat, rfl⟩ := map_ok front
    exact textAt?_required chat
  | _ => cases done

/-- What is read of the press of a button stands in its document. -/
theorem ButtonPress.read_told {member : Json} {press : ButtonPress} (done : read member = .ok press) :
    member.textAt? ["selectedButtonId"] = press.selectedId ∧
      member.textAt? ["selectedButtonText"] = press.selectedText := by
  cases member with
  | obj members =>
    obtain ⟨_, _, others, -, rfl⟩ := seq_ok done
    obtain ⟨_, _, front, label, rfl⟩ := seq_ok others
    obtain ⟨_, id, rfl⟩ := map_ok front
    exact ⟨textAt?_maybe_text id, textAt?_maybe_text label⟩
  | _ => cases done

/-- What is read of the press of a template's button stands in its document. -/
theorem TemplatePress.read_told {member : Json} {press : TemplatePress} (done : read member = .ok press) :
    member.textAt? ["selectedId"] = press.selectedId ∧
      member.textAt? ["selectedDisplayText"] = press.selectedText := by
  cases member with
  | obj members =>
    obtain ⟨_, _, others, -, rfl⟩ := seq_ok done
    obtain ⟨_, _, front, -, rfl⟩ := seq_ok others
    obtain ⟨_, _, rest, label, rfl⟩ := seq_ok front
    obtain ⟨_, id, rfl⟩ := map_ok rest
    exact ⟨textAt?_maybe_text id, textAt?_maybe_text label⟩
  | _ => cases done

/-- What is read of a file stands in its document. -/
theorem FileMessage.read_told {member : Json} {file : FileMessage} (done : read member = .ok file) :
    member.textAt? ["downloadUrl"] = some file.downloadUrl ∧ member.textAt? ["mimeType"] = file.mimeType := by
  cases member with
  | obj members =>
    obtain ⟨_, _, others, -, rfl⟩ := seq_ok done
    obtain ⟨_, _, front, -, rfl⟩ := seq_ok others
    obtain ⟨_, _, rest, -, rfl⟩ := seq_ok front
    obtain ⟨_, _, more, kind, rfl⟩ := seq_ok rest
    obtain ⟨_, _, start, -, rfl⟩ := seq_ok more
    obtain ⟨_, url, rfl⟩ := map_ok start
    exact ⟨textAt?_required url, textAt?_maybe_text kind⟩
  | _ => cases done

theorem readTextMessage_told {member : Json} {content : String} (done : readTextMessage member = .ok content) :
    member.textAt? ["textMessage"] = some content := by
  cases member with
  | obj members => exact textAt?_required done
  | _ => cases done

/-- What is read of a message stands in its document, below the given path. -/
structure MessageData.Told (at? : List String → Option String) (data : MessageData) : Prop where
  kind : at? ["typeMessage"] = some data.kind
  text : at? ["textMessageData", "textMessage"] = data.text
  buttonId : at? ["buttonsResponseMessage", "selectedButtonId"] = data.buttons.bind (·.selectedId)
  buttonText : at? ["buttonsResponseMessage", "selectedButtonText"] = data.buttons.bind (·.selectedText)
  interactiveId : at? ["interactiveButtonsResponse", "selectedButtonId"] =
    data.interactiveButtons.bind (·.selectedId)
  interactiveText : at? ["interactiveButtonsResponse", "selectedButtonText"] =
    data.interactiveButtons.bind (·.selectedText)
  templateId : at? ["templateButtonReplyMessage", "selectedId"] = data.template.bind (·.selectedId)
  templateText : at? ["templateButtonReplyMessage", "selectedDisplayText"] =
    data.template.bind (·.selectedText)
  fileUrl : at? ["fileMessageData", "downloadUrl"] = data.file.map (·.downloadUrl)
  fileKind : at? ["fileMessageData", "mimeType"] = data.file.bind (·.mimeType)

theorem MessageData.read_told {member : Json} {data : MessageData} (done : read member = .ok data) :
    data.Told member.textAt? := by
  cases member with
  | obj members =>
    obtain ⟨_, _, others, file, rfl⟩ := seq_ok done
    obtain ⟨_, _, front, template, rfl⟩ := seq_ok others
    obtain ⟨_, _, rest, interactive, rfl⟩ := seq_ok front
    obtain ⟨_, _, more, buttons, rfl⟩ := seq_ok rest
    obtain ⟨_, content, start, text, rfl⟩ := seq_ok more
    obtain ⟨_, kind, rfl⟩ := map_ok start
    exact {
      kind := textAt?_required kind
      text := (textAt?_maybe some text fun _ _ => readTextMessage_told).trans (Option.bind_fun_some content)
      buttonId := textAt?_maybe (·.selectedId) buttons fun _ _ read => (ButtonPress.read_told read).1
      buttonText := textAt?_maybe (·.selectedText) buttons fun _ _ read => (ButtonPress.read_told read).2
      interactiveId := textAt?_maybe (·.selectedId) interactive fun _ _ read => (ButtonPress.read_told read).1
      interactiveText :=
        textAt?_maybe (·.selectedText) interactive fun _ _ read => (ButtonPress.read_told read).2
      templateId := textAt?_maybe (·.selectedId) template fun _ _ read => (TemplatePress.read_told read).1
      templateText :=
        textAt?_maybe (·.selectedText) template fun _ _ read => (TemplatePress.read_told read).2
      fileUrl := (textAt?_maybe (fun file => some file.downloadUrl) file fun _ _ read =>
        (FileMessage.read_told read).1).trans (Option.map_eq_bind ..).symm
      fileKind := textAt?_maybe (·.mimeType) file fun _ _ read => (FileMessage.read_told read).2 }
  | _ => cases done

/-- What is read of a notification stands in its document. -/
structure Notification.Told (value : Json) (n : Notification) : Prop where
  kind : value.textAt? ["typeWebhook"] = some n.kind
  chat : value.textAt? ["senderData", "chatId"] = some n.author.chatId
  data : n.data.Told fun path => value.textAt? ("messageData" :: path)

theorem Notification.read_told {value : Json} {n : Notification} (done : read value = .ok n) :
    n.Told value := by
  cases value with
  | obj members =>
    obtain ⟨_, _, others, -, rfl⟩ := seq_ok done
    obtain ⟨_, _, front, data, rfl⟩ := seq_ok others
    obtain ⟨_, _, rest, author, rfl⟩ := seq_ok front
    obtain ⟨_, _, more, -, rfl⟩ := seq_ok rest
    obtain ⟨_, kind, rfl⟩ := map_ok more
    obtain ⟨message, given, data⟩ := required_ok data
    obtain ⟨sender, found, author⟩ := required_ok author
    refine ⟨textAt?_required kind, ?_, ?_⟩
    · rw [Json.textAt?_within found, Author.read_told author]
    · simpa only [Json.textAt?_within given] using MessageData.read_told data
  | _ => cases done

/-- A press that may be missing gives what the press gives. -/
theorem givesText_bind {α : Type} {press? : Option α} {selectedId selectedText : α → Option String}
    {content : String} : GivesText (press?.bind selectedId) (press?.bind selectedText) content ↔
      ∃ press, press? = some press ∧ GivesText (selectedId press) (selectedText press) content := by
  cases press? with
  | some press =>
    constructor
    · exact fun gives => ⟨press, rfl, gives⟩
    · rintro ⟨_, ⟨⟩, gives⟩
      exact gives
  | none =>
    constructor
    · intro gives
      cases gives with
      | identifier given _ => cases given
      | label _ given _ => cases given
    · rintro ⟨_, none, _⟩
      cases none

/-- A document tells of a message exactly if what is read from it carries the message. -/
theorem Notification.Told.tells_iff {value : Json} {n : Notification} {message : Inbound}
    (told : n.Told value) : value.Tells message ↔ n.data.Carries message := by
  have kinds (kind : String) :
      value.textAt? ["messageData", "typeMessage"] = some kind ↔ n.data.kind = kind := by
    rw [told.data.kind, Option.some.injEq]
  constructor
  · intro tells
    cases tells with
    | text kind given filled => exact .text ((kinds _).mp kind) (told.data.text ▸ given) filled
    | buttons kind gives =>
      rw [told.data.buttonId, told.data.buttonText] at gives
      obtain ⟨press, given, gives⟩ := givesText_bind.mp gives
      exact .buttons ((kinds _).mp kind) given gives
    | interactive kind gives =>
      rw [told.data.interactiveId, told.data.interactiveText] at gives
      obtain ⟨press, given, gives⟩ := givesText_bind.mp gives
      exact .interactive ((kinds _).mp kind) given gives
    | template kind gives =>
      rw [told.data.templateId, told.data.templateText] at gives
      obtain ⟨press, given, gives⟩ := givesText_bind.mp gives
      exact .template ((kinds _).mp kind) given gives
    | image kind given filled =>
      rw [told.data.fileUrl] at given
      obtain ⟨file, stands, rfl⟩ := Option.map_eq_some_iff.mp given
      rw [told.data.fileKind, stands]
      exact .image ((kinds _).mp kind) stands filled
  · intro carries
    cases carries with
    | text kind given filled => exact .text ((kinds _).mpr kind) (told.data.text.trans given) filled
    | buttons kind given gives =>
      refine .buttons ((kinds _).mpr kind) ?_
      rw [told.data.buttonId, told.data.buttonText]
      exact givesText_bind.mpr ⟨_, given, gives⟩
    | interactive kind given gives =>
      refine .interactive ((kinds _).mpr kind) ?_
      rw [told.data.interactiveId, told.data.interactiveText]
      exact givesText_bind.mpr ⟨_, given, gives⟩
    | template kind given gives =>
      refine .template ((kinds _).mpr kind) ?_
      rw [told.data.templateId, told.data.templateText]
      exact givesText_bind.mpr ⟨_, given, gives⟩
    | @image file kind given filled =>
      have type : value.textAt? ["messageData", "fileMessageData", "mimeType"] = file.mimeType := by
        rw [told.data.fileKind, given, Option.bind_some]
      rw [← type]
      refine .image ((kinds _).mpr kind) ?_ filled
      rw [told.data.fileUrl, given, Option.map_some]

/-! ## What is written is read -/

section Written

variable {α β : Type} {members : Table Json} {name : String}

theorem get?_given (encode : α → Json) (value? : Option α) (key : String) :
    Table.get? (given name encode value?) key = if name = key then value?.map encode else none := by
  cases value? with
  | some value => simp [given, Table.get?_cons]
  | none => simp [given]

theorem map_eq_ok {reading : Checked α} {f : α → β} {value : α} (done : reading = .ok value) :
    f <$> reading = .ok (f value) := by
  rw [done]
  rfl

theorem seq_eq_ok {function : Checked (α → β)} {reading : Checked α} {f : α → β} {value : α}
    (left : function = .ok f) (right : reading = .ok value) : function <*> reading = .ok (f value) := by
  rw [left, right]
  rfl

theorem required_text_written {s : String} (stands : members.get? name = some (.str s)) :
    required members [name] text = .ok s :=
  required_written stands rfl

theorem maybe_text_written {s? : Option String} (stands : members.get? name = s?.map .str) :
    maybe members name text = .ok s? :=
  optionalMember_written stands fun _ => rfl

theorem maybe_integer_written {n? : Option Int} (stands : members.get? name = n?.map .int) :
    maybe members name integer = .ok n? :=
  optionalMember_written stands fun _ => rfl

theorem maybe_truth_written {b? : Option Bool} (stands : members.get? name = b?.map .bool) :
    maybe members name truth = .ok b? :=
  optionalMember_written stands fun _ => rfl

/-- A member that may be missing is read if no value is written as null. -/
theorem maybe_written {reading : Json → Checked α} {encode : α → Json} {value? : Option α}
    (stands : members.get? name = value?.map encode) (some : ∀ value, encode value ≠ .null)
    (reads : ∀ value, reading (encode value) = .ok value) : maybe members name reading = .ok value? :=
  optionalMember_written stands fun value => (nullable_of_some (some value)).trans (map_eq_ok (reads value))

end Written

theorem ButtonPress.read_toJson (press : ButtonPress) : read press.toJson = .ok press := by
  obtain ⟨id, label, stanza⟩ := press
  refine seq_eq_ok (seq_eq_ok (map_eq_ok (maybe_text_written ?_)) (maybe_text_written ?_))
    (maybe_text_written ?_) <;> simp [Table.get?_append, get?_given]

theorem TemplatePress.read_toJson (press : TemplatePress) : read press.toJson = .ok press := by
  obtain ⟨id, label, index, stanza⟩ := press
  refine seq_eq_ok (seq_eq_ok (seq_eq_ok (map_eq_ok (maybe_text_written ?_)) (maybe_text_written ?_))
    (maybe_integer_written ?_)) (maybe_text_written ?_) <;> simp [Table.get?_append, get?_given]

theorem FileMessage.read_toJson (file : FileMessage) : read file.toJson = .ok file := by
  obtain ⟨url, caption, kind, thumbnail, forwarded, score⟩ := file
  refine seq_eq_ok (seq_eq_ok (seq_eq_ok (seq_eq_ok (seq_eq_ok (map_eq_ok (required_text_written ?_))
    (maybe_text_written ?_)) (maybe_text_written ?_)) (maybe_text_written ?_)) (maybe_truth_written ?_))
    (maybe_integer_written ?_) <;>
    simp [Table.get?_cons, Table.get?_append, get?_given]

theorem readTextMessage_written (content : String) :
    readTextMessage (.obj [("textMessage", .str content)]) = .ok content :=
  rfl

theorem MessageData.read_toJson (data : MessageData) : read data.toJson = .ok data := by
  obtain ⟨kind, text, buttons, interactive, template, file⟩ := data
  have said (s : String) : Json.obj [("textMessage", .str s)] ≠ .null := fun null => nomatch null
  have button (press : ButtonPress) : press.toJson ≠ .null := fun null => nomatch null
  have reply (press : TemplatePress) : press.toJson ≠ .null := fun null => nomatch null
  have image (file : FileMessage) : file.toJson ≠ .null := fun null => nomatch null
  refine seq_eq_ok (seq_eq_ok (seq_eq_ok (seq_eq_ok (seq_eq_ok (map_eq_ok (required_text_written ?_))
    (maybe_written ?_ said readTextMessage_written)) (maybe_written ?_ button ButtonPress.read_toJson))
    (maybe_written ?_ button ButtonPress.read_toJson)) (maybe_written ?_ reply TemplatePress.read_toJson))
    (maybe_written ?_ image FileMessage.read_toJson) <;>
    simp [Table.get?_cons, Table.get?_append, get?_given]

theorem Account.read_written (account : Account) : read
    (.obj [("idInstance", .int account.id), ("wid", .str account.wid)]) = .ok account :=
  rfl

theorem Author.read_written (author : Author) : read
    (.obj [("chatId", .str author.chatId), ("sender", .str author.sender)]) = .ok author :=
  rfl

/-- A notification that is written down is read as it was. -/
theorem Notification.read_toJson (n : Notification) : read n.toJson = .ok n := by
  obtain ⟨kind, account, author, data, id⟩ := n
  refine seq_eq_ok (seq_eq_ok (seq_eq_ok (seq_eq_ok (map_eq_ok (required_text_written ?_))
    (required_written ?_ account.read_written)) (required_written ?_ author.read_written))
    (required_written ?_ data.read_toJson)) (required_text_written ?_) <;> simp [Table.get?_cons]

end Storekeeper
