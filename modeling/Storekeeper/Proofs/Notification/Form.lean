import Storekeeper.Notification.Basic
import Storekeeper.Proofs.Checked.Reading
import Storekeeper.Proofs.Checked.Scalar

/-!
# What a notification looks like

The form of a document says which values are taken and, of all others, at which place something is wrong
first.  A single value has a form, and an object has one if its members do: a member is required, or it may
be missing or null; members that the form does not name do not matter.

* `Checked.Takes`: a reading takes the values of a form, and the first flaw that it finds in another value
  lies where the form says.  Single values do, and records do if their members do (`Checked.TakesParts`).
* `Notification.form` lists the members of a notification, and `Notification.read_takes` says that these are
  the documents that are read.
-/

namespace Storekeeper

open Checked

/-! ## Forms -/

/-- Which values are taken, and where something is wrong first with the others. -/
structure Form where
  Fits : Json → Prop
  Offends : Json → List Place → Prop

/-- A member of an object: its name, whether it has to be there, and the form of its value. -/
structure Part where
  name : String
  required : Bool
  form : Form

namespace Part

/-- The member is there and of its form; one that is not required may be missing or null. -/
inductive Fits (part : Part) (members : Table Json) : Prop
  | given {value : Json} : members.get? part.name = some value → part.form.Fits value → Fits part members
  | missing : part.required = false → members.get? part.name = none → Fits part members
  | null : part.required = false → members.get? part.name = some .null → Fits part members

/-- What is wrong with the member: it is missing, or something in its value is wrong. -/
inductive Offends (part : Part) (members : Table Json) : List Place → Prop
  | missing : part.required = true → members.get? part.name = none → Offends part members [.key part.name]
  | within {value : Json} {path : List Place} : members.get? part.name = some value →
    (part.required = false → value ≠ .null) → part.form.Offends value path →
    Offends part members (.key part.name :: path)

/-- The first of several members with which something is wrong. -/
inductive First (members : Table Json) : List Part → List Place → Prop
  | here {part : Part} {parts : List Part} {path : List Place} : part.Offends members path →
    First members (part :: parts) path
  | later {part : Part} {parts : List Part} {path : List Place} : part.Fits members →
    First members parts path → First members (part :: parts) path

end Part

namespace Form

/-- A single value. -/
def single {α : Type} (Is : Json → α → Prop) : Form where
  Fits value := ∃ a, Is value a
  Offends value path := (∀ a, ¬Is value a) ∧ path = []

/-- What is wrong with a value that is to be an object with the given members. -/
inductive ObjectOffends (parts : List Part) : Json → List Place → Prop
  | noObject {value : Json} : value.members? = none → ObjectOffends parts value []
  | member {members : Table Json} {path : List Place} : Part.First members parts path →
    ObjectOffends parts (.obj members) path

/-- An object with the given members. -/
def object (parts : List Part) : Form where
  Fits value := ∃ members, value = .obj members ∧ ∀ part ∈ parts, part.Fits members
  Offends := ObjectOffends parts

/-- A text. -/
def text : Form :=
  single IsText

/-- An integer. -/
def integer : Form :=
  single IsInteger

/-- A truth value. -/
def truth : Form :=
  single IsTruth

end Form

/-- A member that has to be there. -/
def Form.required (form : Form) (name : String) : Part :=
  ⟨name, true, form⟩

/-- A member that may be missing or null. -/
def Form.optional (form : Form) (name : String) : Part :=
  ⟨name, false, form⟩

/-! ## The form of a notification -/

/-- The press of a button of a menu. -/
def ButtonPress.form : Form :=
  .object [Form.text.optional "selectedButtonId", Form.text.optional "selectedButtonText",
    Form.text.optional "stanzaId"]

/-- The press of a button of a template. -/
def TemplatePress.form : Form :=
  .object [Form.text.optional "selectedId", Form.text.optional "selectedDisplayText",
    Form.integer.optional "selectedIndex", Form.text.optional "stanzaId"]

/-- A file. -/
def FileMessage.form : Form :=
  .object [Form.text.required "downloadUrl", Form.text.optional "caption",
    Form.text.optional "mimeType", Form.text.optional "jpegThumbnail",
    Form.truth.optional "isForwarded", Form.integer.optional "forwardingScore"]

/-- A message: its kind, and the parts that kinds have. -/
def MessageData.form : Form :=
  .object [Form.text.required "typeMessage",
    (Form.object [Form.text.required "textMessage"]).optional "textMessageData",
    ButtonPress.form.optional "buttonsResponseMessage",
    ButtonPress.form.optional "interactiveButtonsResponse",
    TemplatePress.form.optional "templateButtonReplyMessage",
    FileMessage.form.optional "fileMessageData"]

/-- The members of a notification. -/
def Notification.parts : List Part :=
  [Form.text.required "typeWebhook",
    (Form.object [Form.integer.required "idInstance", Form.text.required "wid"]).required "instanceData",
    (Form.object [Form.text.required "chatId", Form.text.required "sender"]).required "senderData",
    MessageData.form.required "messageData", Form.text.required "idMessage"]

/-- A notification. -/
def Notification.form : Form :=
  .object Notification.parts

/-! ## Readings that take a form -/

namespace Part

variable {members : Table Json} {parts more : List Part} {path : List Place}

/-- Among more members the first is among the former, or they all fit. -/
theorem first_append : First members (parts ++ more) path ↔
    First members parts path ∨ (∀ part ∈ parts, part.Fits members) ∧ First members more path := by
  induction parts with
  | nil =>
    constructor
    · exact fun first => .inr ⟨fun _ member => absurd member List.not_mem_nil, first⟩
    · rintro (first | ⟨-, first⟩)
      · cases first
      · exact first
  | cons part parts ih =>
    rw [List.cons_append]
    constructor
    · intro first
      cases first with
      | here offends => exact .inl (.here offends)
      | later fits first =>
        rcases ih.mp first with first | ⟨others, first⟩
        · exact .inl (.later fits first)
        · exact .inr ⟨List.forall_mem_cons.mpr ⟨fits, others⟩, first⟩
    · rintro (first | ⟨all, first⟩)
      · cases first with
        | here offends => exact .here offends
        | later fits first => exact .later fits (ih.mpr (.inl first))
      · obtain ⟨fits, others⟩ := List.forall_mem_cons.mp all
        exact .later fits (ih.mpr (.inr ⟨others, first⟩))

/-- What is wrong with a member is found under its name. -/
theorem First.named (first : First members parts path) :
    ∃ part ∈ parts, ∃ rest, path = .key part.name :: rest := by
  induction first with
  | @here part parts path offends =>
    refine ⟨part, List.mem_cons_self .., ?_⟩
    cases offends with
    | missing _ _ => exact ⟨[], rfl⟩
    | @within _ rest _ _ _ => exact ⟨rest, rfl⟩
  | later _ _ ih =>
    obtain ⟨part, member, named⟩ := ih
    exact ⟨part, List.mem_cons_of_mem _ member, named⟩

end Part

namespace Checked

variable {α β : Type}

/-- The first flaw of a reading lies at a place. -/
def FailsAt (reading : Checked α) (path : List Place) : Prop :=
  ∃ cause more, reading = .flawed (⟨path, cause⟩ :: more)

/-- A reading takes the values of a form, and of another value it first finds what the form says. -/
structure Takes (reading : Json → Checked α) (form : Form) : Prop where
  fits : ∀ value, (∃ read, reading value = .ok read) ↔ form.Fits value
  offends : ∀ value path, (reading value).FailsAt path ↔ form.Offends value path
  found : ∀ value, reading value ≠ .flawed []

/-- The members of a record are read if they fit, and else the first flaw is that of the first that does
not. -/
structure TakesParts (members : Table Json) (reading : Checked α) (parts : List Part) : Prop where
  fits : (∃ read, reading = .ok read) ↔ ∀ part ∈ parts, part.Fits members
  offends : ∀ path, reading.FailsAt path ↔ Part.First members parts path
  found : reading ≠ .flawed []

theorem not_failsAt_ok {value : α} {path : List Place} : ¬(ok value).FailsAt path := by
  rintro ⟨cause, more, same⟩
  cases same

theorem IsScalar.takes {reading : Json → Checked α} {Is : Json → α → Prop} (scalar : IsScalar reading)
    (is : ∀ {value a}, reading value = .ok a ↔ Is value a) : Takes reading (.single Is) where
  fits value := exists_congr fun _ => is
  offends value path := by
    rcases scalar value with ⟨read, done⟩ | ⟨cause, refused⟩
    · rw [done]
      exact ⟨fun fails => absurd fails not_failsAt_ok, fun offends => absurd (is.mp done) (offends.1 read)⟩
    · constructor
      · rintro ⟨other, more, flawed⟩
        cases refused.symm.trans flawed
        exact ⟨fun a given => (nomatch refused.symm.trans (is.mpr given)), rfl⟩
      · rintro ⟨-, rfl⟩
        exact ⟨cause, [], refused⟩
  found value := by
    rcases scalar value with ⟨read, done⟩ | ⟨cause, refused⟩
    · rw [done]
      exact fun same => nomatch same
    · rw [refused]
      exact fun same => nomatch same

theorem takes_text : Takes text .text :=
  isScalar_text.takes text_eq_ok

theorem takes_integer : Takes integer .integer :=
  isScalar_integer.takes integer_eq_ok

theorem takes_truth : Takes truth .truth :=
  isScalar_truth.takes truth_eq_ok

/-! ## Records -/

theorem map_eq_flawed {reading : Checked α} {f : α → β} {flaws : List Flaw} :
    f <$> reading = .flawed flaws ↔ reading = .flawed flaws := by
  cases reading with
  | ok value => exact ⟨fun same => (nomatch same), fun same => (nomatch same)⟩
  | flawed found =>
    constructor
    · intro same
      rw [flawed.inj same]
    · intro same
      cases same
      rfl

theorem exists_map_ok {reading : Checked α} {f : α → β} :
    (∃ read, f <$> reading = .ok read) ↔ ∃ read, reading = .ok read := by
  constructor
  · rintro ⟨value, done⟩
    obtain ⟨before, same, -⟩ := map_ok done
    exact ⟨before, same⟩
  · rintro ⟨read, rfl⟩
    exact ⟨f read, rfl⟩

theorem ok_seq (f : α → β) (reading : Checked α) : ok f <*> reading = f <$> reading := by
  cases reading <;> rfl

/-- Beside a reading with flaws the other one only adds to them. -/
theorem flawed_seq {function : Checked (α → β)} {flaws : List Flaw} (failed : function = .flawed flaws)
    (reading : Checked α) : ∃ more, function <*> reading = .flawed (flaws ++ more) := by
  subst failed
  cases reading with
  | ok value => exact ⟨[], by rw [List.append_nil]; rfl⟩
  | flawed more => exact ⟨more, rfl⟩

/-- Two readings side by side have no flaws exactly if neither has. -/
theorem exists_seq_ok {function : Checked (α → β)} {reading : Checked α} :
    (∃ read, function <*> reading = .ok read) ↔ (∃ f, function = .ok f) ∧ ∃ read, reading = .ok read := by
  constructor
  · rintro ⟨value, done⟩
    obtain ⟨f, before, left, right, -⟩ := seq_ok done
    exact ⟨⟨f, left⟩, ⟨before, right⟩⟩
  · rintro ⟨⟨f, rfl⟩, ⟨read, rfl⟩⟩
    exact ⟨f read, rfl⟩

theorem flawed_failsAt {flaw : Flaw} {more : List Flaw} {path : List Place} :
    (flawed (flaw :: more) : Checked α).FailsAt path ↔ flaw.path = path := by
  constructor
  · rintro ⟨cause, more, same⟩
    cases same
    rfl
  · rintro rfl
    exact ⟨flaw.cause, more, rfl⟩

/-- The first flaw of two readings side by side is that of the left one, if it has any. -/
theorem seq_failsAt {function : Checked (α → β)} {reading : Checked α} {path : List Place}
    (found : function ≠ .flawed []) : (function <*> reading).FailsAt path ↔
      function.FailsAt path ∨ (∃ f, function = .ok f) ∧ reading.FailsAt path := by
  cases left : function with
  | ok f =>
    have right : (ok f <*> reading).FailsAt path ↔ reading.FailsAt path := by
      rw [ok_seq]
      exact exists₂_congr fun _ _ => map_eq_flawed
    rw [right]
    exact ⟨fun fails => .inr ⟨⟨f, rfl⟩, fails⟩,
      fun fails => fails.elim (absurd · not_failsAt_ok) fun fails => fails.2⟩
  | flawed flaws =>
    cases flaws with
    | nil => exact absurd left found
    | cons flaw rest =>
      obtain ⟨more, both⟩ := flawed_seq left reading
      rw [← left, both, left, List.cons_append, flawed_failsAt, flawed_failsAt]
      exact ⟨.inl, fun fails => fails.elim id fun ⟨⟨f, done⟩, _⟩ => (nomatch done)⟩

section Parts

variable {members : Table Json} {parts more : List Part}

theorem TakesParts.map {reading : Checked α} (takes : TakesParts members reading parts) (f : α → β) :
    TakesParts members (f <$> reading) parts where
  fits := exists_map_ok.trans takes.fits
  offends path := (exists₂_congr fun _ _ => map_eq_flawed).trans (takes.offends path)
  found same := takes.found (map_eq_flawed.mp same)

/-- Where two readings stand side by side, the first flaw is one of the left one if it has any. -/
theorem TakesParts.seq {function : Checked (α → β)} {reading : Checked α}
    (left : TakesParts members function parts) (right : TakesParts members reading more) :
    TakesParts members (function <*> reading) (parts ++ more) where
  fits := by
    rw [exists_seq_ok, left.fits, right.fits, List.forall_mem_append]
  offends path := by
    rw [seq_failsAt left.found, Part.first_append, left.fits, left.offends, right.offends]
  found same := by
    cases done : function with
    | ok f =>
      rw [done, ok_seq] at same
      exact right.found (map_eq_flawed.mp same)
    | flawed flaws =>
      obtain ⟨more, both⟩ := flawed_seq done reading
      have none : flaws ++ more = [] := flawed.inj (both.symm.trans same)
      exact left.found (done.trans (congrArg _ (List.append_eq_nil_iff.mp none).1))

theorem exists_within_ok {place : Place} {reading : Checked α} :
    (∃ read, reading.within place = .ok read) ↔ ∃ read, reading = .ok read := by
  constructor
  · rintro ⟨read, done⟩
    exact ⟨read, within_ok done⟩
  · rintro ⟨read, rfl⟩
    exact ⟨read, rfl⟩

/-- The first flaw of the value of a member lies behind the member's name. -/
theorem within_failsAt {place : Place} {reading : Checked α} {path : List Place} :
    (reading.within place).FailsAt path ↔ ∃ rest, path = place :: rest ∧ reading.FailsAt rest := by
  constructor
  · rintro ⟨cause, more, same⟩
    cases reading with
    | ok value => cases same
    | flawed flaws =>
      cases flaws with
      | nil => cases flawed.inj same
      | cons flaw others =>
        cases flawed.inj same
        exact ⟨flaw.path, rfl, flaw.cause, others, rfl⟩
  · rintro ⟨rest, rfl, cause, more, rfl⟩
    exact ⟨cause, _, rfl⟩

theorem within_found {place : Place} {reading : Checked α} (found : reading ≠ .flawed []) :
    reading.within place ≠ .flawed [] := by
  cases reading with
  | ok value => exact fun same => (nomatch same)
  | flawed flaws =>
    intro same
    exact found (congrArg _ (List.map_eq_nil_iff.mp (flawed.inj same)))

theorem takesParts_single {part : Part} {reading : Checked α}
    (fits : (∃ read, reading = .ok read) ↔ part.Fits members)
    (offends : ∀ path, reading.FailsAt path ↔ part.Offends members path) (found : reading ≠ .flawed []) :
    TakesParts members reading [part] where
  fits := by rw [List.forall_mem_singleton, fits]
  offends path := by
    rw [offends]
    constructor
    · exact .here
    · intro first
      cases first with
      | here offends => exact offends
      | later _ none => cases none
  found := found

/-- A member that is there, and is not null if it need not be there. -/
theorem takes_given (part : Part) {value : Json} {reading : Json → Checked α}
    (takes : Takes reading part.form) (given : members.get? part.name = some value)
    (some : part.required = false → value ≠ .null) :
    TakesParts members ((reading value).within (.key part.name)) [part] := by
  refine takesParts_single ?_ (fun path => ?_) (within_found (takes.found value))
  · rw [exists_within_ok, takes.fits]
    constructor
    · exact .given given
    · intro fits
      cases fits with
      | given there fits => exact Option.some.inj (given.symm.trans there) ▸ fits
      | missing _ none => cases given.symm.trans none
      | null free null => exact absurd (Option.some.inj (given.symm.trans null)) (some free)
  · rw [within_failsAt]
    constructor
    · rintro ⟨rest, rfl, fails⟩
      exact .within given some ((takes.offends value rest).mp fails)
    · intro offends
      cases offends with
      | missing _ none => cases given.symm.trans none
      | @within other path there _ offends =>
        cases given.symm.trans there
        exact ⟨path, rfl, (takes.offends value path).mpr offends⟩

/-- A member that may be as it is, missing or null. -/
theorem takes_ok {part : Part} (value : α) (fits : part.Fits members)
    (harmless : ∀ path, ¬part.Offends members path) : TakesParts members (ok value) [part] :=
  takesParts_single (iff_of_true ⟨value, rfl⟩ fits)
    (fun path => iff_of_false not_failsAt_ok (harmless path)) (fun same => nomatch same)

theorem Takes.required {form : Form} {reading : Json → Checked α} (takes : Takes reading form)
    (name : String) : TakesParts members (required members [name] reading) [form.required name] := by
  unfold Checked.required
  rw [find?_singleton]
  cases given : members.get? name with
  | some value => exact takes_given (form.required name) takes given fun free => nomatch free
  | none =>
    refine takesParts_single (iff_of_false ?_ ?_) (fun path => ?_) (fun same => nomatch same)
    · exact fun ⟨_, done⟩ => nomatch done
    · intro fits
      cases fits with
      | given there _ => cases given.symm.trans there
      | missing free _ => cases free
      | null free _ => cases free
    · constructor
      · rintro ⟨cause, more, same⟩
        cases same
        exact .missing rfl given
      · intro offends
        cases offends with
        | missing _ _ => exact ⟨_, _, rfl⟩
        | within there _ _ => cases given.symm.trans there

theorem nullable_of_some {reading : Json → Checked α} {value : Json} (some : value ≠ .null) :
    nullable reading value = Option.some <$> reading value := by
  cases value with
  | null => exact absurd rfl some
  | _ => rfl

theorem map_within (f : α → β) (place : Place) (reading : Checked α) :
    (f <$> reading).within place = f <$> reading.within place := by
  cases reading <;> rfl

theorem Takes.optional {form : Form} {reading : Json → Checked α} (takes : Takes reading form)
    (name : String) : TakesParts members (maybe members name reading) [form.optional name] := by
  unfold maybe optionalMember
  rw [find?_singleton]
  cases given : members.get? name with
  | some value =>
    by_cases null : value = .null
    · subst null
      refine takes_ok none (.null rfl given) fun path offends => ?_
      cases offends with
      | missing needed _ => cases needed
      | within there some _ => exact some rfl (Option.some.inj (there.symm.trans given))
    · change TakesParts members ((nullable reading value).within (.key name)) _
      rw [nullable_of_some null, map_within]
      exact (takes_given (form.optional name) takes given fun _ => null).map some
  | none =>
    refine takes_ok none (.missing rfl given) fun path offends => ?_
    cases offends with
    | missing needed _ => cases needed
    | within there _ _ => cases given.symm.trans there

/-- A record is read if its members are. -/
theorem takes_record {name : String} {reading : Table Json → Checked α}
    (takes : ∀ members, TakesParts members (reading members) parts) :
    Takes (record name reading) (.object parts) where
  fits value := by
    cases value with
    | obj members =>
      refine (takes members).fits.trans ⟨fun fits => ⟨members, rfl, fits⟩, ?_⟩
      rintro ⟨_, ⟨⟩, fits⟩
      exact fits
    | _ => exact iff_of_false (fun ⟨_, done⟩ => nomatch done) fun ⟨_, same, _⟩ => nomatch same
  offends value path := by
    cases value with
    | obj members =>
      refine ((takes members).offends path).trans ⟨.member, fun offends => ?_⟩
      cases offends with
      | noObject none => cases none
      | member first => exact first
    | _ =>
      refine flawed_failsAt.trans ⟨?_, fun offends => ?_⟩
      · rintro rfl
        exact .noObject rfl
      · cases offends
        rfl
  found value := by
    cases value with
    | obj members => exact (takes members).found
    | _ => exact fun same => nomatch same

end Parts

end Checked

/-! ## Notifications -/

theorem Account.read_takes : Takes Account.read
    (.object [Form.integer.required "idInstance", Form.text.required "wid"]) :=
  takes_record fun _ => .seq (.map (takes_integer.required _) _) (takes_text.required _)

theorem Author.read_takes : Takes Author.read
    (.object [Form.text.required "chatId", Form.text.required "sender"]) :=
  takes_record fun _ => .seq (.map (takes_text.required _) _) (takes_text.required _)

theorem ButtonPress.read_takes : Takes ButtonPress.read ButtonPress.form :=
  takes_record fun _ => .seq (.seq (.map (takes_text.optional _) _) (takes_text.optional _))
    (takes_text.optional _)

theorem TemplatePress.read_takes : Takes TemplatePress.read TemplatePress.form :=
  takes_record fun _ => .seq (.seq (.seq (.map (takes_text.optional _) _) (takes_text.optional _))
    (takes_integer.optional _)) (takes_text.optional _)

theorem FileMessage.read_takes : Takes FileMessage.read FileMessage.form :=
  takes_record fun _ => .seq (.seq (.seq (.seq (.seq (.map (takes_text.required _) _)
    (takes_text.optional _)) (takes_text.optional _)) (takes_text.optional _))
    (takes_truth.optional _)) (takes_integer.optional _)

theorem readTextMessage_takes : Takes readTextMessage (.object [Form.text.required "textMessage"]) :=
  takes_record fun _ => takes_text.required _

theorem MessageData.read_takes : Takes MessageData.read MessageData.form :=
  takes_record fun _ => .seq (.seq (.seq (.seq (.seq (.map (takes_text.required _) _)
    (readTextMessage_takes.optional _)) (ButtonPress.read_takes.optional _))
    (ButtonPress.read_takes.optional _)) (TemplatePress.read_takes.optional _))
    (FileMessage.read_takes.optional _)

/-- The documents that have the form of a notification are those that are read as one. -/
theorem Notification.read_takes : Takes Notification.read Notification.form :=
  takes_record fun _ => .seq (.seq (.seq (.seq (.map (takes_text.required _) _)
    (Account.read_takes.required _)) (Author.read_takes.required _))
    (MessageData.read_takes.required _)) (takes_text.required _)

/-! ## Where something is wrong -/

/-- How a place in a document is named; the document as a whole has no name. -/
def Place.fieldName : List Place → String
  | [] => "unknown"
  | place :: path => ".".intercalate ((place :: path).map text)

theorem Flaw.pathText_ne_empty {name : String} (named : name ≠ "") (path : List Place) (cause : Cause) :
    (⟨.key name :: path, cause⟩ : Flaw).pathText ≠ "" := by
  intro empty
  have chars := congrArg String.toList empty
  cases path with
  | nil => simp [pathText, Place.text] at chars; exact named chars
  | cons place path => simp [pathText, Place.text] at chars

/-- The failure of a document that is no notification names the place where something is wrong first. -/
theorem notNotification_offends {value : Json} {path : List Place}
    (offends : Notification.form.Offends value path) : ∃ flaws text,
      Notification.read value = .flawed flaws ∧ notNotification flaws = .webhook text (Place.fieldName path) := by
  obtain ⟨cause, more, failed⟩ := (Notification.read_takes.offends value path).mpr offends
  refine ⟨_, "Invalid webhook payload: " ++ cause.text, failed, ?_⟩
  cases offends with
  | noObject _ => rfl
  | member first =>
    have names : ∀ part ∈ Notification.parts, part.name ≠ "" := by
      simp [Notification.parts, Form.required]
    obtain ⟨part, member, rest, rfl⟩ := first.named
    have given := Flaw.pathText_ne_empty (names part member) rest cause
    simp only [notNotification, String.isEmpty_iff, given, if_false]
    rfl

/-- There is a place where something is wrong with a document that is no notification. -/
theorem exists_offends {value : Json} {flaws : List Flaw} (failed : Notification.read value = .flawed flaws) :
    ∃ path, Notification.form.Offends value path := by
  cases flaws with
  | nil => exact absurd failed (Notification.read_takes.found value)
  | cons flaw more =>
    exact ⟨flaw.path, (Notification.read_takes.offends value flaw.path).mp ⟨flaw.cause, more, failed⟩⟩

end Storekeeper
