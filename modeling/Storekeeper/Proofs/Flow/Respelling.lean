import Storekeeper.Proofs.Flow.Format
import Storekeeper.Proofs.Checked.Reading

/-!
# Spelling does not matter

A flow's document and a respelling of it mean the same (`Flow.build_respelled`).  A member is found
by both its spellings, so that a record and its respelling give every reading of a member the same
value (`Pair.found`).  From the readings of its members a record is read alike, and so are lists and
maps of what is read alike: each reading of the flow format is governed by the shape of what it
reads (`Format.Governs`).
-/

namespace Storekeeper

open Checked

namespace Spelling

variable {s : Spelling} {object : Table Json}

/-- A member is looked for among its own entries. -/
theorem find?_entries : find? (s.entries object) s.names = find? object s.names := by
  have get (name : String) (allowed : name ∈ s.names) :
      (s.entries object).get? name = object.get? name := by
    unfold Table.get? entries
    rw [List.find?_filter]
    congr 2
    funext entry
    by_cases same : entry.1 = name <;> simp [same, allowed]
  have joined := get s.joined (by simp [names])
  have underscored := get s.underscored (by simp [names])
  simp only [find?, names, List.findSome?_cons, List.findSome?_nil, joined, underscored]

/-- A member with one entry at most is found there. -/
theorem find?_eq_head? (single : (s.entries object).length ≤ 1) :
    find? object s.names = (s.entries object).head? := by
  rw [← find?_entries]
  match only : s.entries object with
  | [] => rfl
  | [(name, value)] =>
    have allowed : name ∈ s.names := (mem_entries.mp (only ▸ List.mem_singleton_self _)).2
    by_cases joined : name = s.joined
    · simp [find?, names, Table.get?_cons, joined]
    · obtain rfl : name = s.underscored := by simpa [names, joined] using allowed
      simp [find?, names, Table.get?_cons, joined]
  | _ :: _ :: _ => simp [only] at single

end Spelling

namespace Format

variable {α : Type} {format item : Format} {members : List Member} {object other : Table Json}

/-- What a format says suffices for a reading: a clear value and a respelling of it are read alike,
with flaws of the same causes. -/
def Governs (format : Format) (reading : Json → Checked α) : Prop :=
  ∀ {value other}, format.Clear value → format.Respelled value other →
    (reading value).unplaced = (reading other).unplaced

/-- A clear object with the given members, and a respelling of it. -/
structure Pair (members : List Member) (object other : Table Json) : Prop where
  clear : ∀ member ∈ members, (member.spelling.entries object).length ≤ 1 ∧
    ∀ entry ∈ member.spelling.entries object, member.format.Clear entry.2
  respelled : List.Forall₂ (RespelledEntry members) object other

/-- Members suffice for a reading of an object: pairs of objects are read alike. -/
def Suffice (members : List Member) (reading : Table Json → Checked α) : Prop :=
  ∀ {object other}, Pair members object other → (reading object).unplaced = (reading other).unplaced

namespace Pair

/-- The entries of a member correspond. -/
theorem entries (pair : Pair members object other) (member : Member) :
    List.Forall₂ (RespelledEntry members) (member.spelling.entries object)
      (member.spelling.entries other) := by
  refine List.rel_filter (fun entry entry' same => ?_) pair.respelled
  simpa using same.name.mem_names member.apart

/-- A member is missing on both sides, or it is found on both sides and its values correspond. -/
theorem found (pair : Pair members object other) {member : Member} (listed : member ∈ members) :
    (find? object member.spelling.names = none ∧ find? other member.spelling.names = none) ∨
      ∃ entry entry', find? object member.spelling.names = some entry ∧
        find? other member.spelling.names = some entry' ∧
        member.format.Clear entry.2 ∧ member.format.Respelled entry.2 entry'.2 := by
  obtain ⟨single, clear⟩ := pair.clear member listed
  have entries := pair.entries member
  rw [Spelling.find?_eq_head? single, Spelling.find?_eq_head? (entries.length_eq ▸ single)]
  cases first : member.spelling.entries object with
  | nil =>
    rw [first] at entries
    rw [List.forall₂_nil_left_iff.mp entries]
    exact .inl ⟨rfl, rfl⟩
  | cons entry rest =>
    rw [first] at entries
    obtain ⟨entry', rest', same, -, second⟩ := List.forall₂_cons_left_iff.mp entries
    have kept : entry ∈ member.spelling.entries object := first ▸ List.mem_cons_self
    rw [second]
    exact .inr ⟨entry, entry', rfl, rfl, clear entry kept,
      same.value member listed (Spelling.mem_entries.mp kept).2⟩

variable {s : Spelling} {reading : Json → Checked α}

theorem required (pair : Pair members object other)
    (listed : ∃ member ∈ members, member.spelling = s ∧ member.format = format)
    (governs : format.Governs reading) :
    (Checked.required object s.names reading).unplaced =
      (Checked.required other s.names reading).unplaced := by
  obtain ⟨member, listed, rfl, rfl⟩ := listed
  obtain ⟨first, second⟩ | ⟨entry, entry', first, second, clear, respelled⟩ := pair.found listed
  · simp only [Checked.required, first, second]
  · simpa only [Checked.required, first, second, unplaced_within] using governs clear respelled

theorem optional (pair : Pair members object other)
    (listed : ∃ member ∈ members, member.spelling = s ∧ member.format = format)
    (governs : format.Governs reading) (default : α) :
    (optionalMember object s.names default reading).unplaced =
      (optionalMember other s.names default reading).unplaced := by
  obtain ⟨member, listed, rfl, rfl⟩ := listed
  obtain ⟨first, second⟩ | ⟨entry, entry', first, second, clear, respelled⟩ := pair.found listed
  · simp only [optionalMember, first, second]
  · simpa only [optionalMember, first, second, unplaced_within] using governs clear respelled

/-- The kind of a record is not respelled. -/
theorem kind (pair : Pair members object other) (listed : tag ∈ members) :
    object.get? "type" = other.get? "type" := by
  have get (object : Table Json) :
      object.get? "type" = (find? object tag.spelling.names).map Prod.snd := by
    cases present : object.get? "type" <;>
      simp [find?, tag, Spelling.names, Spelling.single, present]
  rw [get object, get other]
  obtain ⟨first, second⟩ | ⟨entry, entry', first, second, -, same⟩ := pair.found listed
  · rw [first, second]
  · rw [first, second, Option.map_some, Option.map_some]
    exact congrArg some same

end Pair

/-! ## Readings that a format governs -/

theorem plain_governs (reading : Json → Checked α) : plain.Governs reading := by
  intro value other _ same
  rw [show value = other from same]

theorem list_governs {reading : Json → Checked α} (governs : item.Governs reading) :
    (list item).Governs (Checked.list reading) := by
  intro value other clear respelled
  unfold list at clear respelled
  dsimp only at respelled
  split at respelled
  case h_1 items others =>
    -- the items are numbered alike, from wherever the numbers start
    have alike (first : Nat) : List.Forall₂ (fun reading other => reading.unplaced = other.unplaced)
        (itemsFrom reading first items) (itemsFrom reading first others) := by
      dsimp only at clear
      induction respelled generalizing first with
      | nil => exact .nil
      | cons head _ ih =>
        obtain ⟨single, rest⟩ := List.forall_mem_cons.mp clear
        refine .cons ?_ (ih rest (first + 1))
        simpa only [unplaced_within] using governs single head
    exact unplaced_all (alike 0)
  case h_2 => rw [respelled]

theorem map_governs {reading : Json → Checked α} (governs : item.Governs reading) :
    (map item).Governs (mapping reading) := by
  intro value other clear respelled
  unfold map at clear respelled
  dsimp only at respelled
  split at respelled
  case h_1 entries others =>
    dsimp only at clear
    refine unplaced_all ?_
    induction respelled with
    | nil => exact .nil
    | @cons entry entry' _ _ head _ ih =>
      obtain ⟨single, rest⟩ := List.forall_mem_cons.mp clear
      obtain ⟨name, same⟩ := head
      refine .cons ?_ (ih rest)
      have read := governs single same
      change ((fun value => (entry.1, value)) <$> (reading entry.2).within _).unplaced =
        ((fun value => (entry'.1, value)) <$> (reading entry'.2).within _).unplaced
      rw [unplaced_map, unplaced_map, unplaced_within, unplaced_within, read, name]
  case h_2 => rw [respelled]

theorem record_governs {name : String} {reading : Table Json → Checked α}
    (suffice : Suffice members reading) : (record members).Governs (Checked.record name reading) := by
  intro value other clear respelled
  unfold record recordOf at clear respelled
  dsimp only at respelled
  split at respelled
  case h_1 object other => exact suffice ⟨clear, respelled⟩
  case h_2 => rw [respelled]

end Format

open Format

/-! ## The flow format -/

theorem Transition.governs : Transition.format.Governs Transition.read := by
  refine record_governs fun pair => ?_
  have next := pair.required (s := .nextStep) (by simp) (plain_governs text)
  have message := pair.optional (s := .messageKey) (by simp) (plain_governs (nullable text)) none
  simp only [unplaced_seq, unplaced_map, next, message]

theorem Choice.governs : Choice.format.Governs Choice.read := by
  refine record_governs fun pair => ?_
  have id := pair.required (s := .single "id") (by simp) (plain_governs text)
  have label := pair.required (s := .single "label") (by simp) (plain_governs text)
  have aliases := pair.optional (s := .single "aliases") (by simp)
    (plain_governs (Checked.list text)) []
  simp only [unplaced_seq, unplaced_map, id, label, aliases]

theorem noMatch_governs : noMatchFormat.Governs readNoMatch :=
  record_governs fun pair =>
    pair.optional (s := .single "handled") (by simp) (plain_governs truth) false

theorem invalid_governs : invalidFormat.Governs readInvalid := by
  refine record_governs fun pair => ?_
  have message := pair.required (s := .messageKey) (by simp) (plain_governs text)
  have next := pair.required (s := .nextStep) (by simp) (plain_governs text)
  rw [unplaced_both, unplaced_both, message, next]

theorem TriggerStep.suffice : Suffice (tag :: TriggerStep.members) TriggerStep.read := by
  unfold TriggerStep.members
  intro object other pair
  have matched := pair.required (s := .onMatch) (by simp) Transition.governs
  have unmatched := pair.optional (s := .onNoMatch) (by simp) noMatch_governs false
  simp only [TriggerStep.read, unplaced_seq, unplaced_map, matched, unmatched]

theorem ChoiceStep.suffice : Suffice (tag :: ChoiceStep.members) ChoiceStep.read := by
  unfold ChoiceStep.members
  intro object other pair
  have message := pair.required (s := .messageKey) (by simp) (plain_governs text)
  have choices := pair.required (s := .single "options") (by simp) (list_governs Choice.governs)
  have transitions := pair.required (s := .single "transitions") (by simp)
    (map_governs Transition.governs)
  have invalid := pair.required (s := .onInvalid) (by simp) invalid_governs
  simp only [ChoiceStep.read, unplaced_seq, unplaced_map, message, choices, transitions, invalid]

theorem InputStep.suffice : Suffice (tag :: InputStep.members) InputStep.read := by
  unfold InputStep.members
  intro object other pair
  have message := pair.required (s := .messageKey) (by simp) (plain_governs text)
  have context := pair.required (s := .contextKey) (by simp) (plain_governs text)
  have next := pair.required (s := .nextStep) (by simp) (plain_governs text)
  simp only [InputStep.read, unplaced_seq, unplaced_map, message, context, next]

theorem ImageStep.suffice : Suffice (tag :: ImageStep.members) ImageStep.read := by
  unfold ImageStep.members
  intro object other pair
  have message := pair.required (s := .messageKey) (by simp) (plain_governs text)
  have context := pair.required (s := .contextKey) (by simp) (plain_governs text)
  have next := pair.required (s := .nextStep) (by simp) (plain_governs text)
  have optional := pair.optional (s := .single "optional") (by simp) (plain_governs truth) false
  have skip := pair.optional (s := .skipKeyword) (by simp) (plain_governs (nullable text)) none
  simp only [ImageStep.read, unplaced_seq, unplaced_map, message, context, next, optional, skip]

theorem ActionStep.suffice : Suffice (tag :: ActionStep.members) ActionStep.read := by
  unfold ActionStep.members
  intro object other pair
  have action := pair.required (s := .single "action") (by simp) (plain_governs Action.read)
  have next := pair.required (s := .nextStep) (by simp) (plain_governs text)
  simp only [ActionStep.read, unplaced_seq, unplaced_map, action, next]

theorem TerminalStep.suffice : Suffice (tag :: TerminalStep.members) TerminalStep.read := by
  unfold TerminalStep.members
  intro object other pair
  have message := pair.optional (s := .messageKey) (by simp) (plain_governs (nullable text)) none
  simp only [TerminalStep.read, unplaced_map, message]

/-- The members of each kind of step suffice for its reading. -/
theorem Step.kinds_suffice :
    List.Forall₂ (fun reading kind => reading.1 = kind.1 ∧ Suffice (tag :: kind.2) reading.2)
      Step.readings Step.kinds := by
  have lift {α : Type} {members : List Member} {reading : Table Json → Checked α}
      (suffice : Suffice members reading) (make : α → Step) :
      Suffice members fun object => make <$> reading object := by
    intro object other pair
    rw [unplaced_map, unplaced_map, suffice pair]
  exact .cons ⟨rfl, lift TriggerStep.suffice .trigger⟩ <|
    .cons ⟨rfl, lift ChoiceStep.suffice .choice⟩ <|
    .cons ⟨rfl, lift InputStep.suffice .input⟩ <|
    .cons ⟨rfl, lift ImageStep.suffice .image⟩ <|
    .cons ⟨rfl, lift ActionStep.suffice .action⟩ <|
    .cons ⟨rfl, lift TerminalStep.suffice .terminal⟩ .nil

/-- What corresponds in two lists of named items is looked up in both under the same names. -/
theorem lookup_alike {α β : Type} {R : α → β → Prop} {items : List (String × α)}
    {others : List (String × β)}
    (alike : List.Forall₂ (fun item other => item.1 = other.1 ∧ R item.2 other.2) items others)
    (name : String) :
    (items.lookup name = none ∧ others.lookup name = none) ∨
      ∃ item other, items.lookup name = some item ∧ others.lookup name = some other ∧ R item other := by
  induction alike with
  | nil => exact .inl ⟨rfl, rfl⟩
  | @cons item other _ _ head _ ih =>
    obtain ⟨key, item⟩ := item
    obtain ⟨key', other⟩ := other
    obtain ⟨rfl, related⟩ := head
    by_cases same : name = key
    · exact .inr ⟨item, other, by simp [same], by simp [same], related⟩
    · simpa [List.lookup_cons, beq_eq_false_iff_ne.mpr same] using ih

theorem Step.governs : Step.format.Governs Step.read := by
  intro value other clear respelled
  unfold format variant recordOf at clear respelled
  dsimp only at respelled
  split at respelled
  case h_2 => rw [respelled]
  case h_1 object other =>
    have pair : Pair (membersByKind Step.kinds object) object other := ⟨clear, respelled⟩
    have tagged : tag ∈ membersByKind Step.kinds object := by
      unfold membersByKind
      split <;> exact List.mem_cons_self
    have same := pair.kind tagged
    simp only [Step.read, ← same]
    split
    · rfl
    · rename_i kind found
      obtain ⟨unread, -⟩ | ⟨reading, members, read, listed, suffice⟩ := lookup_alike
        (R := fun reading members => Suffice (tag :: members) reading) kinds_suffice kind
      · simp only [unread]
      · simp only [read, unplaced_within]
        apply suffice
        simpa only [membersByKind, found, listed, Option.getD_some] using pair
    · rfl

/-! ## Flows -/

namespace Flow

variable {object other : Table Json}

/-- In a clear object the unknown names are those that no member is called by. -/
theorem unknownNames_eq
    (clear : ∀ s ∈ spellings, (s.entries object).length ≤ 1) :
    unknownNames object = object.names.filter fun name => !spellings.any (·.names.contains name) := by
  refine List.filter_congr fun name listed => congrArg (!·) ?_
  obtain ⟨entry, member, rfl⟩ := List.mem_map.mp listed
  rw [Bool.eq_iff_iff, List.contains_iff_mem, List.mem_filterMap, List.any_eq_true]
  refine exists_congr fun s => and_congr_right fun used => ?_
  rw [Spelling.find?_eq_head? (clear s used), List.contains_iff_mem]
  constructor
  · intro found
    obtain ⟨first, head, same⟩ := Option.map_eq_some_iff.mp found
    rw [← same]
    exact (Spelling.mem_entries.mp (List.mem_of_head? head)).2
  · intro allowed
    have kept : entry ∈ s.entries object := Spelling.mem_entries.mpr ⟨member, allowed⟩
    obtain ⟨only, single⟩ := List.length_eq_one_iff.mp
      (Nat.le_antisymm (clear s used) (List.length_pos_of_mem kept))
    rw [single] at kept ⊢
    rw [List.mem_singleton.mp kept]
    rfl

/-- A pair of objects has as many unknown names on both sides. -/
theorem unknownNames_length (pair : Pair members object other) :
    (unknownNames object).length = (unknownNames other).length := by
  have listed : members.map Member.spelling = spellings := rfl
  have clear (s : Spelling) (used : s ∈ spellings) :
      (s.entries object).length ≤ 1 ∧ (s.entries other).length ≤ 1 ∧ s.Apart := by
    obtain ⟨member, known, rfl⟩ := List.mem_map.mp (listed ▸ used)
    have single := (pair.clear member known).1
    exact ⟨single, (pair.entries member).length_eq ▸ single, member.apart⟩
  rw [unknownNames_eq fun s used => (clear s used).1,
    unknownNames_eq fun s used => (clear s used).2.1]
  have names : List.Forall₂ Spelling.Same object.names other.names :=
    List.forall₂_map_left_iff.mpr
      (List.forall₂_map_right_iff.mpr (pair.respelled.imp fun _ _ same => same.name))
  refine (List.rel_filter (fun name name' same => ?_) names).length_eq
  have known : (spellings.any fun s => s.names.contains name) =
      spellings.any fun s => s.names.contains name' := by
    rw [Bool.eq_iff_iff, List.any_eq_true, List.any_eq_true]
    refine exists_congr fun s => and_congr_right fun used => ?_
    rw [List.contains_iff_mem, List.contains_iff_mem]
    exact same.mem_names (clear s used).2.2
  exact Bool.eq_iff_iff.mp (congrArg (!·) known)

theorem unplaced_refuseNames {names others : List String} (same : names.length = others.length) :
    (refuseNames names).unplaced = (refuseNames others).unplaced := by
  cases names with
  | nil =>
    obtain rfl := List.length_eq_zero_iff.mp same.symm
    rfl
  | cons name names =>
    cases others with
    | nil => cases same
    | cons other others => simpa [refuseNames, unplaced, Function.comp_def, List.map_const'] using same

theorem governs : format.Governs read := by
  refine record_governs fun pair => ?_
  have unknown := unplaced_refuseNames (unknownNames_length pair)
  unfold members at pair
  have id := pair.required (s := .single "id") (by simp) (plain_governs text)
  have start := pair.required (s := .initialStep) (by simp) (plain_governs text)
  have timeout := pair.optional (s := .sessionTimeoutSeconds) (by simp) (plain_governs readTimeout) 300
  have steps := pair.required (s := .single "steps") (by simp) (map_governs Step.governs)
  simp only [unplaced_seq, unplaced_map, id, start, timeout, steps, unknown]

/-- A flow's document and a respelling of it mean the same: both describe the same valid flow, or an
invalid flow with the same first defect, or both are unfit for the same causes, in order. -/
theorem build_respelled {document other : Json} (clear : format.Clear document)
    (respelled : format.Respelled document other) :
    (∀ flow, build document = .ok flow ↔ build other = .ok flow) ∧
      (∀ flow defect, Flow.read document = .ok flow → flow.defect? = some defect →
        build document = .error (.flow defect.message defect.step? []) ∧
          build other = .error (.flow defect.message defect.step? [])) ∧
      ∀ flaws, Flow.read document = .flawed flaws → ∃ flaws',
        flaws'.map Flaw.cause = flaws.map Flaw.cause ∧
          build document = .error (.flow "Invalid flow definition" none flaws) ∧
          build other = .error (.flow "Invalid flow definition" none flaws') := by
  have alike := governs clear respelled
  cases reading : Flow.read document with
  | ok flow =>
    have same : Flow.read other = .ok flow := by
      rw [reading] at alike
      exact unplaced_eq_ok.mp alike.symm
    have built : build document = build other := by simp only [build, reading, same]
    refine ⟨fun flow => by rw [built], ?_, nofun⟩
    rintro _ defect ⟨⟩ defective
    rw [← built, and_self]
    simp only [build, reading, defective]
  | flawed flaws =>
    obtain ⟨flaws', same, causes⟩ := unplaced_eq_flawed alike reading
    refine ⟨fun flow => by simp [build, reading, same], nofun, ?_⟩
    rintro _ ⟨⟩
    exact ⟨flaws', causes, by simp only [build, reading], by simp only [build, same]⟩

/-- A document in which spellings are mixed, with a step that is called like a member. -/
def mixed : Json :=
  .obj
    [("id", .str "shop"), ("initialStep", .str "next_step"), ("session_timeout_seconds", .int 60),
     ("steps",
       .obj
        [("next_step",
          .obj
            [("type", .str "trigger"),
             ("on_match", .obj [("nextStep", .str "end"), ("message_key", .str "welcome")]),
             ("onNoMatch", .obj [("handled", .bool true)])]),
         ("end", .obj [("type", .str "terminal"), ("messageKey", .str "goodbye")])])]

/-- The same document with the other spelling of every member that has one. -/
def remixed : Json :=
  .obj
    [("id", .str "shop"), ("initial_step", .str "next_step"), ("sessionTimeoutSeconds", .int 60),
     ("steps",
       .obj
        [("next_step",
          .obj
            [("type", .str "trigger"),
             ("onMatch", .obj [("next_step", .str "end"), ("messageKey", .str "welcome")]),
             ("on_no_match", .obj [("handled", .bool true)])]),
         ("end", .obj [("type", .str "terminal"), ("message_key", .str "goodbye")])])]

/-- The flow that both describe. -/
def mixedFlow : Flow where
  id := "shop"
  initialStep := "next_step"
  timeoutSeconds := 60
  steps :=
    [("next_step", .trigger ⟨⟨"end", some "welcome"⟩, true⟩), ("end", .terminal ⟨some "goodbye"⟩)]

theorem clear_mixed : format.Clear mixed := by
  simp [format, members, mixed, Step.format, Step.kinds, membersByKind, tag, TriggerStep.members,
    TerminalStep.members, Transition.format, noMatchFormat, Table.get?_cons, List.lookup_cons,
    Spelling.entries, Spelling.names, Spelling.single, Spelling.initialStep,
    Spelling.sessionTimeoutSeconds, Spelling.onMatch, Spelling.onNoMatch, Spelling.nextStep,
    Spelling.messageKey]

theorem respelled_mixed : format.Respelled mixed remixed := by
  simp [format, members, mixed, remixed, Step.format, Step.kinds, membersByKind, tag,
    TriggerStep.members, TerminalStep.members, Transition.format, noMatchFormat, respelledEntry_iff,
    Table.get?_cons, List.lookup_cons, Spelling.Same, Spelling.ofWords, Spelling.names,
    Spelling.single, Spelling.initialStep, Spelling.sessionTimeoutSeconds, Spelling.onMatch,
    Spelling.onNoMatch, Spelling.nextStep, Spelling.messageKey]

theorem build_respelled_mixed : format.Clear mixed ∧ format.Respelled mixed remixed ∧
    build mixed = .ok mixedFlow ∧ build remixed = .ok mixedFlow := by
  have built : build mixed = .ok mixedFlow := rfl
  exact ⟨clear_mixed, respelled_mixed, built,
    ((build_respelled clear_mixed respelled_mixed).1 mixedFlow).mp built⟩

end Flow

end Storekeeper
