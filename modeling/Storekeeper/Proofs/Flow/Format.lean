import Storekeeper.Flow.Load
import Mathlib.Data.List.Forall2

/-!
# The shape of a flow's document

A document is an object of records, maps and lists.  The members of a record may be spelled in two
ways, the names in a map are identifiers and stand for themselves.  `Flow.format` is the shape of a
flow's document; it says of a document

* `Clear`: no record of it has two entries for one member;
* `Respelled`: in what is read of it, another document differs in the spelling of members only;
* `Full`: its records have all their members, in order and spelled with underscores.
-/

namespace Storekeeper

namespace Spelling

/-- The members whose names are of several words. -/
def ofWords : List Spelling :=
  [initialStep, sessionTimeoutSeconds, onMatch, onNoMatch, onInvalid, nextStep, messageKey,
    contextKey, skipKeyword]

/-- Two names of one member: the same name, or spellings of the same words. -/
def Same (name other : String) : Prop :=
  name = other ∨ ∃ word ∈ ofWords, name ∈ word.names ∧ other ∈ word.names

/-- A spelling of some words, or of none of them. -/
def Apart (s : Spelling) : Prop :=
  ∀ word ∈ ofWords, word.names = s.names ∨ ∀ name ∈ s.names, name ∉ word.names

instance (s : Spelling) : Decidable s.Apart :=
  inferInstanceAs (Decidable (∀ word ∈ ofWords, _ ∨ ∀ name ∈ s.names, _))

/-- The entries of an object that are called by one of the names. -/
def entries (s : Spelling) (object : Table Json) : Table Json :=
  object.filter fun entry => s.names.contains entry.1

theorem mem_entries {s : Spelling} {object : Table Json} {entry : String × Json} :
    entry ∈ s.entries object ↔ entry ∈ object ∧ entry.1 ∈ s.names := by
  simp [entries]

/-- Names of one member are both the names that a spelling allows, or neither is. -/
theorem Same.mem_names {name other : String} (same : Same name other) {s : Spelling}
    (apart : s.Apart) : name ∈ s.names ↔ other ∈ s.names := by
  obtain rfl | ⟨word, listed, first, second⟩ := same
  · rfl
  · obtain equal | disjoint := apart word listed
    · rw [← equal]
      exact iff_of_true first second
    · exact iff_of_false (fun member => disjoint name member first)
        (fun member => disjoint other member second)

end Spelling

/-- What the shape of a part of a document says of the part. -/
structure Format where
  /-- No record has two entries for one member. -/
  Clear : Json → Prop
  /-- In what is read of it, the other value differs in the spelling of members only. -/
  Respelled : Json → Json → Prop
  /-- Records have all their members, in order and spelled with underscores. -/
  Full : Json → Prop

namespace Format

/-- A member of a record. -/
structure Member where
  spelling : Spelling
  format : Format
  apart : spelling.Apart := by decide

/-- An entry of a record with the given members, and an entry that it may be respelled as.  What
stands in an entry that is no member's is left open, as nothing looks at it. -/
@[mk_iff]
structure RespelledEntry (members : List Member) (entry other : String × Json) : Prop where
  name : Spelling.Same entry.1 other.1
  value : ∀ member ∈ members, entry.1 ∈ member.spelling.names →
    member.format.Respelled entry.2 other.2

/-- A value that is no record and has none in it. -/
def plain : Format where
  Clear _ := True
  Respelled value other := value = other
  Full _ := True

/-- A list. -/
def list (item : Format) : Format where
  Clear
    | .arr items => ∀ value ∈ items, item.Clear value
    | _ => True
  Respelled
    | .arr items, .arr others => List.Forall₂ item.Respelled items others
    | value, other => value = other
  Full
    | .arr items => ∀ value ∈ items, item.Full value
    | _ => False

/-- A map, whose names are left alone. -/
def map (item : Format) : Format where
  Clear
    | .obj entries => ∀ entry ∈ entries, item.Clear entry.2
    | _ => True
  Respelled
    | .obj entries, .obj others =>
      List.Forall₂ (fun entry other => entry.1 = other.1 ∧ item.Respelled entry.2 other.2)
        entries others
    | value, other => value = other
  Full
    | .obj entries => ∀ entry ∈ entries, item.Full entry.2
    | _ => False

/-- A record, whose members may depend on its entries. -/
def recordOf (members : Table Json → List Member) : Format where
  Clear
    | .obj entries => ∀ member ∈ members entries, (member.spelling.entries entries).length ≤ 1 ∧
      ∀ entry ∈ member.spelling.entries entries, member.format.Clear entry.2
    | _ => True
  Respelled
    | .obj entries, .obj others => List.Forall₂ (RespelledEntry (members entries)) entries others
    | value, other => value = other
  Full
    | .obj entries =>
      List.Forall₂ (fun member entry =>
        entry.1 = member.spelling.underscored ∧ member.format.Full entry.2) (members entries) entries
    | _ => False

/-- A record with the given members. -/
def record (members : List Member) : Format :=
  recordOf fun _ => members

/-- The member that gives the kind of a record. -/
def tag : Member :=
  .mk (.single "type") plain

/-- The members of a record of one of several kinds. -/
def membersByKind (kinds : List (String × List Member)) (entries : Table Json) : List Member :=
  match entries.get? "type" with
  | some (.str kind) => tag :: (kinds.lookup kind).getD []
  | _ => [tag]

/-- A record of one of several kinds. -/
def variant (kinds : List (String × List Member)) : Format :=
  recordOf (membersByKind kinds)

/-! ## What is said of values of the right kind -/

section Values

variable {item : Format} {members : List Member} {kinds : List (String × List Member)}
  {value value' : Json} {items : List Json} {object other : Table Json}

@[simp]
theorem plain_clear : plain.Clear value :=
  trivial

@[simp]
theorem plain_respelled : plain.Respelled value value' ↔ value = value' :=
  Iff.rfl

@[simp]
theorem plain_full : plain.Full value :=
  trivial

@[simp]
theorem list_full : (list item).Full (.arr items) ↔ ∀ value ∈ items, item.Full value :=
  Iff.rfl

@[simp]
theorem map_clear : (map item).Clear (.obj object) ↔ ∀ entry ∈ object, item.Clear entry.2 :=
  Iff.rfl

@[simp]
theorem map_respelled : (map item).Respelled (.obj object) (.obj other) ↔
    List.Forall₂ (fun entry other => entry.1 = other.1 ∧ item.Respelled entry.2 other.2)
      object other :=
  Iff.rfl

@[simp]
theorem map_full : (map item).Full (.obj object) ↔ ∀ entry ∈ object, item.Full entry.2 :=
  Iff.rfl

@[simp]
theorem record_clear : (record members).Clear (.obj object) ↔
    ∀ member ∈ members, (member.spelling.entries object).length ≤ 1 ∧
      ∀ entry ∈ member.spelling.entries object, member.format.Clear entry.2 :=
  Iff.rfl

@[simp]
theorem record_respelled : (record members).Respelled (.obj object) (.obj other) ↔
    List.Forall₂ (RespelledEntry members) object other :=
  Iff.rfl

@[simp]
theorem record_full : (record members).Full (.obj object) ↔
    List.Forall₂ (fun member entry =>
      entry.1 = member.spelling.underscored ∧ member.format.Full entry.2) members object :=
  Iff.rfl

@[simp]
theorem variant_clear : (variant kinds).Clear (.obj object) ↔
    (record (membersByKind kinds object)).Clear (.obj object) :=
  Iff.rfl

@[simp]
theorem variant_respelled : (variant kinds).Respelled (.obj object) (.obj other) ↔
    (record (membersByKind kinds object)).Respelled (.obj object) (.obj other) :=
  Iff.rfl

@[simp]
theorem variant_full : (variant kinds).Full (.obj object) ↔
    (record (membersByKind kinds object)).Full (.obj object) :=
  Iff.rfl

end Values

end Format

open Format

/-- The shape of a transition. -/
def Transition.format : Format :=
  record [.mk .nextStep plain, .mk .messageKey plain]

/-- The shape of a choice. -/
def Choice.format : Format :=
  record [.mk (.single "id") plain, .mk (.single "label") plain, .mk (.single "aliases") plain]

/-- The shape of what a trigger does about other texts. -/
def noMatchFormat : Format :=
  record [.mk (.single "handled") plain]

/-- The shape of what a menu does about an answer that is none of its choices. -/
def invalidFormat : Format :=
  record [.mk .messageKey plain, .mk .nextStep plain]

/-- The members of a trigger. -/
def TriggerStep.members : List Member :=
  [.mk .onMatch Transition.format, .mk .onNoMatch noMatchFormat]

/-- The members of a menu. -/
def ChoiceStep.members : List Member :=
  [.mk .messageKey plain, .mk (.single "options") (list Choice.format),
   .mk (.single "transitions") (map Transition.format), .mk .onInvalid invalidFormat]

/-- The members of a question. -/
def InputStep.members : List Member :=
  [.mk .messageKey plain, .mk .contextKey plain, .mk .nextStep plain]

/-- The members of a request for an image. -/
def ImageStep.members : List Member :=
  [.mk .messageKey plain, .mk .contextKey plain, .mk .nextStep plain, .mk (.single "optional") plain,
   .mk .skipKeyword plain]

/-- The members of an action. -/
def ActionStep.members : List Member :=
  [.mk (.single "action") plain, .mk .nextStep plain]

/-- The members of an end. -/
def TerminalStep.members : List Member :=
  [.mk .messageKey plain]

/-- The members of the kinds of steps, by the name of the kind. -/
def Step.kinds : List (String × List Member) :=
  [("trigger", TriggerStep.members), ("choice", ChoiceStep.members),
   ("input", InputStep.members), ("image_input", ImageStep.members),
   ("action", ActionStep.members), ("terminal", TerminalStep.members)]

/-- The shape of a step. -/
def Step.format : Format :=
  variant Step.kinds

/-- The members of a flow. -/
def Flow.members : List Member :=
  [.mk (.single "id") plain, .mk .initialStep plain, .mk .sessionTimeoutSeconds plain,
   .mk (.single "steps") (map Step.format)]

/-- The shape of a flow. -/
def Flow.format : Format :=
  record Flow.members

end Storekeeper
