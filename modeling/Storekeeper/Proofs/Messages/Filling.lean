import Mathlib.Data.List.Basic
import Mathlib.Data.List.Induction
import Mathlib.Data.List.TakeWhile
import Storekeeper.Messages.Basic
import Storekeeper.Messages.Defaults
import Storekeeper.Proofs.Table
import Storekeeper.Proofs.Text.Replacing

/-!
# Filling placeholders in

The placeholders of a message are filled in one name after the other, each time in the whole text.  So what has been
filled in may be taken for a placeholder of a later name, while only those of the message are meant.

* `Messages.pieces` takes a message apart into its placeholders and other characters, and `Messages.fillAtOnce` fills
  all placeholders of a message in at once: this is what is meant, and the order of the names does not count for it.
* `Messages.replace_eq_iff`: a further name is filled in as it is meant, just if what has been filled in has not brought
  forth placeholders of it.
* `Messages.render_meant_iff` says this of any number of names, and `Messages.received_meant_iff` of what is said about
  a product that has been created.
-/

namespace Storekeeper.Messages

open Text

/-- A name in which there are no braces, so that its placeholder begins and ends with the only ones. -/
structure IsPlain (name : String) : Prop where
  noOpening : '\x7b' ∉ name.toList
  noClosing : '\x7d' ∉ name.toList

instance (name : String) : Decidable (IsPlain name) :=
  decidable_of_iff ('\x7b' ∉ name.toList ∧ '\x7d' ∉ name.toList) ⟨fun ⟨first, last⟩ => ⟨first, last⟩,
    fun plain => ⟨plain.noOpening, plain.noClosing⟩⟩

/-- The characters of a placeholder. -/
def hole (name : String) : List Char :=
  (placeholder name).toList

/-- A part of a message: a placeholder that is to be filled in, or any other character. -/
inductive Piece where
  | char (c : Char)
  | slot (name : String)
  deriving DecidableEq

/-- The name of the placeholder with which a text begins. -/
def slotAt? (names : List String) (cs : List Char) : Option String :=
  names.find? fun name => (hole name).isPrefixOf cs

/-- The pieces of a message, if these are the names of its placeholders. -/
def pieces (names : List String) : List Char → List Piece
  | [] => []
  | c :: rest =>
    match slotAt? names (c :: rest) with
    | some name => .slot name :: pieces names (rest.drop ((hole name).length - 1))
    | none => .char c :: pieces names rest
termination_by cs => cs.length
decreasing_by all_goals simp only [List.length_cons, List.length_drop]; omega

/-- A piece with the values filled in; a placeholder without a value stays as it is. -/
def Piece.written (values : Table String) : Piece → List Char
  | char c => [c]
  | slot name => ((Table.get? values name).map String.toList).getD (hole name)

/-- A message with all its placeholders filled in at once. -/
def fillAtOnce (text : String) (values : Table String) : String :=
  String.ofList ((pieces values.names text.toList).flatMap (Piece.written values))

/-! ## Placeholders in a text -/

theorem hole_eq (name : String) : hole name = '\x7b' :: (name.toList ++ ['\x7d']) := by
  simp [hole, placeholder]

variable {name other : String} {names : List String} {cs : List Char}

theorem IsPlain.once (plain : IsPlain name) : '\x7b' ∉ name.toList ++ ['\x7d'] := by
  simpa using plain.noOpening

/-- The placeholder at a place has one name only. -/
theorem IsPlain.unique (plain : IsPlain name) (otherPlain : IsPlain other) (found : hole name <+: cs)
    (otherFound : hole other <+: cs) : name = other := by
  obtain ⟨after, rfl⟩ := found
  obtain ⟨rest, same⟩ := otherFound
  rw [hole_eq, hole_eq] at same
  -- Up to the first closing brace both texts are their names.
  have tails : other.toList ++ ['\x7d'] ++ rest = name.toList ++ ['\x7d'] ++ after := (List.cons.inj same).2
  have inside := congrArg (List.takeWhile (· ≠ '\x7d')) tails
  have upTo : ∀ {name : String}, IsPlain name → ∀ rest,
      List.takeWhile (· ≠ '\x7d') (name.toList ++ ['\x7d'] ++ rest) = name.toList := by
    intro name plain rest
    have each : ∀ c ∈ name.toList, decide (c ≠ '\x7d') = true := fun c member =>
      decide_eq_true fun closing => plain.noClosing (closing ▸ member)
    rw [List.append_assoc, List.takeWhile_append_of_pos each]
    simp
  rw [upTo plain, upTo otherPlain] at inside
  exact String.toList_inj.mp inside.symm

theorem begins_of_slotAt? (found : slotAt? names cs = some name) : name ∈ names ∧ hole name <+: cs := by
  have begins : (hole name).isPrefixOf cs = true :=
    List.find?_some (p := fun name => (hole name).isPrefixOf cs) found
  exact ⟨List.mem_of_find?_eq_some found, List.isPrefixOf_iff_prefix.mp begins⟩

theorem slotAt?_eq_none_iff : slotAt? names cs = none ↔ ∀ name ∈ names, ¬hole name <+: cs := by
  unfold slotAt?
  simp only [List.find?_eq_none, List.isPrefixOf_iff_prefix]

theorem slotAt?_eq_some_iff (plain : ∀ name ∈ names, IsPlain name) :
    slotAt? names cs = some name ↔ name ∈ names ∧ hole name <+: cs := by
  refine ⟨begins_of_slotAt?, ?_⟩
  rintro ⟨member, begins⟩
  cases found : slotAt? names cs with
  | none => exact absurd begins (slotAt?_eq_none_iff.mp found name member)
  | some other =>
    obtain ⟨otherMember, otherBegins⟩ := begins_of_slotAt? found
    rw [(plain name member).unique (plain other otherMember) begins otherBegins]

/-- The pieces into which a text is taken apart. -/
inductive Parsed (names : List String) : List Char → List Piece → Prop
  | nil : Parsed names [] []
  | char {c : Char} {rest : List Char} {parts : List Piece} (none : ∀ name ∈ names, ¬hole name <+: c :: rest)
    (parsed : Parsed names rest parts) : Parsed names (c :: rest) (.char c :: parts)
  | slot {name : String} {after : List Char} {parts : List Piece} (member : name ∈ names)
    (parsed : Parsed names after parts) : Parsed names (hole name ++ after) (.slot name :: parts)

theorem parsed_pieces (names : List String) (cs : List Char) : Parsed names cs (pieces names cs) := by
  fun_induction pieces names cs with
  | case1 => exact .nil
  | case2 c rest name found ih =>
    obtain ⟨member, begins⟩ := begins_of_slotAt? found
    have filled : hole name ≠ [] := by simp [hole_eq]
    rw [drop_of_isPrefixOf filled (List.isPrefixOf_iff_prefix.mpr begins)]
    exact .slot member ih
  | case3 c rest none ih => exact .char (slotAt?_eq_none_iff.mp none) ih

theorem pieces_char {c : Char} {rest : List Char} (none : ∀ name ∈ names, ¬hole name <+: c :: rest) :
    pieces names (c :: rest) = .char c :: pieces names rest := by
  rw [pieces, slotAt?_eq_none_iff.mpr none]

theorem pieces_slot (plain : ∀ name ∈ names, IsPlain name) (member : name ∈ names) (after : List Char) :
    pieces names (hole name ++ after) = .slot name :: pieces names after := by
  have found := (slotAt?_eq_some_iff plain).mpr ⟨member, List.prefix_append (hole name) after⟩
  have length : (hole name).length - 1 = (name.toList ++ ['\x7d']).length := by rw [hole_eq]; rfl
  rw [hole_eq, List.cons_append] at found ⊢
  rw [pieces, found]
  dsimp only
  rw [length, List.drop_left]

/-- No placeholder begins without its brace. -/
theorem not_hole_prefix {c : Char} {rest : List Char} (different : c ≠ '\x7b') : ¬hole name <+: c :: rest := by
  rw [hole_eq]
  rintro ⟨after, same⟩
  exact different (List.cons.inj same).1.symm

theorem pieces_skip {front : List Char} (missing : '\x7b' ∉ front) (after : List Char) :
    pieces names (front ++ after) = front.map .char ++ pieces names after := by
  induction front with
  | nil => rfl
  | cons c front ih =>
    obtain ⟨different, later⟩ : '\x7b' ≠ c ∧ '\x7b' ∉ front := by simpa using missing
    rw [List.cons_append, pieces_char fun name _ => not_hole_prefix different.symm, ih later]
    rfl

/-- A placeholder that is none of those in a message is made of other characters. -/
theorem pieces_foreign (plain : ∀ name ∈ names, IsPlain name) (otherPlain : IsPlain other) (foreign : other ∉ names)
    (after : List Char) : pieces names (hole other ++ after) = (hole other).map .char ++ pieces names after := by
  have none : ∀ name ∈ names, ¬hole name <+: hole other ++ after := by
    intro name member begins
    have same := (plain name member).unique otherPlain begins (List.prefix_append (hole other) after)
    exact foreign (same ▸ member)
  rw [hole_eq, List.cons_append] at none ⊢
  rw [pieces_char none, pieces_skip otherPlain.once]
  rfl

theorem written_chars (values : Table String) (front : List Char) :
    (front.map Piece.char).flatMap (Piece.written values) = front := by
  induction front with
  | nil => rfl
  | cons c front ih => exact congrArg (c :: ·) ih

theorem written_missing {values : Table String} (missing : name ∉ values.names) :
    Piece.written values (.slot name) = hole name := by
  change ((Table.get? values name).map String.toList).getD (hole name) = hole name
  rw [Table.get?_eq_none missing]
  rfl

/-- A further value is that of its own placeholder only. -/
theorem written_append {values : Table String} (fresh : name ∉ values.names) {value : String} (part : Piece) :
    Piece.written (values ++ [(name, value)]) part =
      if part = .slot name then value.toList else Piece.written values part := by
  cases part with
  | char c => rfl
  | slot other =>
    have found : Piece.written (values ++ [(name, value)]) (.slot other) =
        ((Table.get? (values ++ [(name, value)]) other).map String.toList).getD (hole other) := rfl
    rw [found, Table.get?_append, Table.get?_cons]
    by_cases same : name = other
    · subst same
      simp [Table.get?_eq_none fresh]
    · simp [same, Ne.symm same, Piece.written]

/-- Names without a value may be taken for names of placeholders or not. -/
theorem written_pieces {values : Table String} (plain : ∀ name ∈ names, IsPlain name)
    (known : ∀ name ∈ values.names, name ∈ names) {parts : List Piece} (parsed : Parsed names cs parts) :
    (pieces values.names cs).flatMap (Piece.written values) = parts.flatMap (Piece.written values) := by
  have valued : ∀ name ∈ values.names, IsPlain name := fun name member => plain name (known name member)
  induction parsed with
  | nil => rw [pieces]
  | char none _ ih =>
    rw [pieces_char fun name member => none name (known name member), List.flatMap_cons, List.flatMap_cons, ih]
  | @slot name after parts member _ ih =>
    by_cases given : name ∈ values.names
    · rw [pieces_slot valued given, List.flatMap_cons, List.flatMap_cons, ih]
    · rw [pieces_foreign valued (plain name member) given, List.flatMap_append, written_chars, ih, List.flatMap_cons,
        written_missing given]

/-- A placeholder occurs where it is a piece. -/
theorem occurrences_eq_count (plain : ∀ name ∈ names, IsPlain name) (member : name ∈ names) {parts : List Piece}
    (parsed : Parsed names cs parts) : occurrences (hole name) cs = parts.count (.slot name) := by
  have once := (plain name member).once
  induction parsed with
  | nil => rfl
  | @char c rest parts none _ ih =>
    have other : ¬(hole name).isPrefixOf (c :: rest) = true := fun begins =>
      none name member (List.isPrefixOf_iff_prefix.mp begins)
    rw [occurrences, if_neg other, ih, List.count_cons_of_ne (by simp)]
    omega
  | @slot there after parts present _ ih =>
    by_cases same : there = name
    · subst same
      have between := occurrences_between once [] after
      rw [← hole_eq, List.nil_append, ih] at between
      rw [between, List.count_cons_self]
      simp [occurrences, Nat.add_comm]
    · have other : ¬(hole name).isPrefixOf (hole there ++ after) = true := fun begins =>
        same ((plain there present).unique (plain name member) (List.prefix_append _ _)
          (List.isPrefixOf_iff_prefix.mp begins))
      rw [hole_eq there, List.cons_append] at other ⊢
      rw [occurrences, if_neg other, List.count_cons_of_ne (by simp [same])]
      rw [hole_eq name] at ih ⊢
      rw [occurrences_skip (plain there present).once, ih, Nat.zero_add]

/-- What stands between the placeholders of a name. -/
theorem exists_row (write : Piece → List Char) (name : String) (parts : List Piece) :
    ∃ first others, others.length = parts.count (.slot name) ∧
      ∀ mark, parts.flatMap (fun part => if part = .slot name then mark else write part) = row mark first others := by
  induction parts with
  | nil => exact ⟨[], [], rfl, fun mark => rfl⟩
  | cons part parts ih =>
    obtain ⟨first, others, count, rows⟩ := ih
    by_cases here : part = .slot name
    · refine ⟨[], first :: others, by rw [here, List.count_cons_self, List.length_cons, count], fun mark => ?_⟩
      rw [List.flatMap_cons, if_pos here, rows, row_cons, List.nil_append]
    · refine ⟨write part ++ first, others, by rw [List.count_cons_of_ne here, count], fun mark => ?_⟩
      rw [List.flatMap_cons, if_neg here, rows]
      simp [row]

/-! ## One name after the other -/

/-- **A further name.**  The placeholders of a further name are filled in as they are meant, just if it is given its own
placeholder or the values of the names before have not brought forth further ones. -/
theorem replace_eq_iff {values : Table String} (plain : ∀ name ∈ values.names, IsPlain name)
    (namePlain : IsPlain name) (fresh : name ∉ values.names) (text value : String) :
    Text.replace (placeholder name) value (fillAtOnce text values) = fillAtOnce text (values ++ [(name, value)]) ↔
      value = placeholder name ∨
        occurrences (hole name) (fillAtOnce text values).toList = occurrences (hole name) text.toList := by
  have all : (Table.names (values ++ [(name, value)])) = values.names ++ [name] := List.map_append
  have allPlain : ∀ other ∈ values.names ++ [name], IsPlain other := by
    intro other member
    rcases List.mem_append.mp member with given | last
    · exact plain other given
    · rw [List.mem_singleton.mp last]
      exact namePlain
  have parsed := parsed_pieces (values.names ++ [name]) text.toList
  generalize parting : pieces (values.names ++ [name]) text.toList = parts at parsed
  have there : name ∈ values.names ++ [name] := List.mem_append_right _ (List.mem_singleton_self name)
  have counted := occurrences_eq_count allPlain there parsed
  obtain ⟨first, others, count, rows⟩ := exists_row (Piece.written values) name parts
  have before : (fillAtOnce text values).toList = row (hole name) first others := by
    rw [fillAtOnce, String.toList_ofList, written_pieces allPlain (fun _ => List.mem_append_left _) parsed, ← rows]
    refine List.flatMap_congr fun part _ => ?_
    split
    · rename_i same
      rw [same, written_missing fresh]
    · rfl
  have after : (fillAtOnce text (values ++ [(name, value)])).toList = row value.toList first others := by
    rw [fillAtOnce, String.toList_ofList, all, parting, ← rows]
    exact List.flatMap_congr fun part _ => written_append fresh part
  have step := replaceChars_row_eq_iff namePlain.once value.toList first others
  rw [← hole_eq, ← before, ← after, count, ← counted] at step
  rw [← String.toList_inj, Text.replace, String.toList_ofList]
  exact step.trans (or_congr_left String.toList_inj)

theorem fillAtOnce_nil (text : String) : fillAtOnce text [] = text := by
  have parts := written_chars [] text.toList
  have plain : pieces [] text.toList = text.toList.map .char := by
    generalize text.toList = cs
    induction cs with
    | nil => rw [pieces]; rfl
    | cons c rest ih => rw [pieces_char (fun _ member => absurd member List.not_mem_nil), ih]; rfl
  rw [← plain] at parts
  unfold fillAtOnce
  rw [show Table.names ([] : Table String) = [] from rfl, parts, String.ofList_toList]

/-- The order of the values does not count where all of them are filled in at once. -/
theorem fillAtOnce_perm {values order : Table String} (distinct : values.names.Nodup)
    (plain : ∀ name ∈ values.names, IsPlain name) (shuffled : order.Perm values) (text : String) :
    fillAtOnce text order = fillAtOnce text values := by
  have known : ∀ name ∈ order.names, name ∈ values.names := fun name => (shuffled.map Prod.fst).mem_iff.mp
  have written : Piece.written order = Piece.written values := by
    funext part
    cases part with
    | char c => rfl
    | slot name =>
      change ((Table.get? order name).map String.toList).getD _ = ((Table.get? values name).map String.toList).getD _
      rw [Table.get?_perm distinct shuffled]
  unfold fillAtOnce
  rw [written_pieces plain known (parsed_pieces values.names text.toList), written]

/-- One name is filled in as it is meant. -/
theorem fill_single (text : String) {name value : String} (plain : IsPlain name) :
    fill text [(name, value)] = fillAtOnce text [(name, value)] := by
  have nothing : ∀ other ∈ Table.names ([] : Table String), IsPlain other := fun _ member =>
    absurd member List.not_mem_nil
  have kept : occurrences (hole name) (fillAtOnce text []).toList = occurrences (hole name) text.toList := by
    rw [fillAtOnce_nil]
  have step := (replace_eq_iff nothing plain List.not_mem_nil text value).mpr (.inr kept)
  rw [fillAtOnce_nil] at step
  exact step

/-- **What is said is what is meant, unless values bring forth placeholders.**  This is said of all messages and of
all values for different names.  What is meant does not depend on the order of the values.  The message is rendered as
it is meant with the values up to any of them, just if each name is given its own placeholder or finds no more
placeholders than the message has, among what has been filled in before it.  (A name that finds more may by chance be
undone by a later one, so that only all of them together tell.) -/
theorem render_meant_iff (messages : Messages) (key : String) (values : Table String)
    (distinct : values.names.Nodup) (plain : ∀ name ∈ values.names, IsPlain name) :
    let text := messages.get key
    (∀ order : Table String, order.Perm values → fillAtOnce text order = fillAtOnce text values) ∧
      ((∀ given, given <+: values → messages.render key given = fillAtOnce text given) ↔
        ∀ given name value, given ++ [(name, value)] <+: values →
          value = placeholder name ∨
            occurrences (hole name) (fillAtOnce text given).toList = occurrences (hole name) text.toList) := by
  intro text
  have step : ∀ (given : Table String) (name value : String), given ++ [(name, value)] <+: values →
      (Text.replace (placeholder name) value (fillAtOnce text given) = fillAtOnce text (given ++ [(name, value)]) ↔
        value = placeholder name ∨
          occurrences (hole name) (fillAtOnce text given).toList = occurrences (hole name) text.toList) := by
    intro given name value front
    have names : (given.names ++ [name]) <+: values.names := by
      have mapped := front.map Prod.fst
      rwa [List.map_append] at mapped
    have fresh : name ∉ given.names := by
      have apart := distinct.sublist names.sublist
      exact fun member => (List.nodup_append.mp apart).2.2 name member name (List.mem_singleton_self name) rfl
    have known : ∀ other ∈ given.names ++ [name], IsPlain other := fun other member => plain other (names.subset member)
    exact replace_eq_iff (fun other member => known other (List.mem_append_left _ member))
      (known name (List.mem_append_right _ (List.mem_singleton_self name))) fresh text value
  have further : ∀ (given : Table String) (name value : String),
      messages.render key (given ++ [(name, value)]) =
        Text.replace (placeholder name) value (messages.render key given) := fun given name value =>
    List.foldl_append ..
  refine ⟨fun order shuffled => fillAtOnce_perm distinct plain shuffled text, ?_, ?_⟩
  · intro meant given name value front
    have before := meant given ((List.prefix_append given _).trans front)
    have after := meant _ front
    rw [further, before] at after
    exact (step given name value front).mp after
  · intro quiet given
    induction given using List.reverseRecOn with
    | nil => exact fun _ => (fillAtOnce_nil text).symm
    | append_singleton given entry ih =>
      obtain ⟨name, value⟩ := entry
      intro front
      rw [further, ih ((List.prefix_append given _).trans front)]
      exact (step given name value front).mpr (quiet given name value front)

/-- A value without a brace brings forth a placeholder where braces stand around its own. -/
theorem render_meant_nested :
    let messages : Messages := [("total", "\x7b\x7ba\x7db\x7d")]
    let values : Table String := [("a", "x"), ("xb", "9")]
    values.names.Nodup ∧ (∀ name ∈ values.names, IsPlain name) ∧
      ¬∀ given, given <+: values → messages.render "total" given = fillAtOnce (messages.get "total") given := by
  intro messages values
  have distinct : values.names.Nodup := by decide
  have plain : ∀ name ∈ values.names, IsPlain name := by decide
  refine ⟨distinct, plain, fun meant => ?_⟩
  have quiet := (render_meant_iff messages "total" values distinct plain).2.mp meant [("a", "x")] "xb" "9"
    (List.prefix_refl values)
  exact absurd quiet (by decide +kernel)

/-- What is said about a product that has been created is what is meant, just if the link is its own placeholder or
this does not occur in the name of the product. -/
theorem received_meant_iff (product link : String) :
    let values : Table String := [("name", product), ("permalink", link)]
    render defaultMessages "add_product_received" values =
        fillAtOnce (get defaultMessages "add_product_received") values ↔
      link = placeholder "permalink" ∨ occurrences (hole "permalink") product.toList = 0 := by
  intro values
  have front : ∀ {name : String}, name = "name" ∨ name = "permalink" → IsPlain name := by
    rintro name (rfl | rfl) <;> decide
  generalize said : get defaultMessages "add_product_received" = text
  have parts : pieces ["name"] text.toList = "✅ Product \"".toList.map .char ++
      .slot "name" :: ('"' :: " added successfully!\n\x7bpermalink\x7d".toList).map .char := by
    rw [← said]
    decide +kernel
  have first : (fillAtOnce text [("name", product)]).toList = "✅ Product \"".toList ++
      (product.toList ++ '"' :: " added successfully!\n\x7bpermalink\x7d".toList) := by
    unfold fillAtOnce
    rw [String.toList_ofList, show Table.names [("name", product)] = ["name"] from rfl, parts, List.flatMap_append,
      written_chars, List.flatMap_cons, written_chars]
    rfl
  have others : occurrences (hole "permalink") (fillAtOnce text [("name", product)]).toList =
      occurrences (hole "permalink") product.toList + 1 := by
    have rest : occurrences (hole "permalink") " added successfully!\n\x7bpermalink\x7d".toList = 1 := by decide +kernel
    rw [first, hole_eq, occurrences_skip (by decide), ← hole_eq, occurrences_apart (by decide) (by decide), rest]
  have meant : occurrences (hole "permalink") text.toList = 1 := by
    rw [← said]
    decide +kernel
  have known : ∀ name ∈ Table.names [("name", product)], IsPlain name := fun name member =>
    front (.inl (List.mem_singleton.mp member))
  have fresh : "permalink" ∉ Table.names [("name", product)] := by simp [Table.names]
  have further : render defaultMessages "add_product_received" values =
      Text.replace (placeholder "permalink") link (fill text [("name", product)]) := by
    rw [← said]
    rfl
  have step : Text.replace (placeholder "permalink") link (fillAtOnce text [("name", product)]) =
      fillAtOnce text values ↔ _ := replace_eq_iff known (front (.inr rfl)) fresh text link
  rw [others, meant, Nat.add_eq_right] at step
  rw [further, fill_single text (front (.inl rfl))]
  exact step

/-- The name of a product is taken for the place of its link, unless the link comes first. -/
theorem name_taken_for_placeholder :
    let values : Table String := [("name", "\x7bpermalink\x7d"), ("permalink", "https://example.com/lamp")]
    let text := get defaultMessages "add_product_received"
    fillAtOnce text values = "✅ Product \"\x7bpermalink\x7d\" added successfully!\nhttps://example.com/lamp" ∧
      render defaultMessages "add_product_received" values =
        "✅ Product \"https://example.com/lamp\" added successfully!\nhttps://example.com/lamp" ∧
      render defaultMessages "add_product_received" values.reverse = fillAtOnce text values := by
  decide +kernel

end Storekeeper.Messages
