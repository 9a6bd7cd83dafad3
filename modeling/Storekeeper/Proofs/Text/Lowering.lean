import Storekeeper.Proofs.Text.Line
import Storekeeper.Text.Case

/-!
# What lowering leaves and what it brings in

Lowering puts a row of characters in the place of each character: itself alone, or characters that are in
lower case for good and neither blank nor a colon (`IsSettled`).  That the tables of case bring in no other
characters is found by comparing each span with all spans (`lowerSpans_clear`).

* `IsForm`: what one character becomes; `isForm_lowerChar` says so of its lower-case form.
* `Lowers`: a text and its lower-case form, character by character; `lowers_lowerChars` says that they are
  related, also where a final sigma comes in.
* `lowerChars_lowerChars`: what is in lower case is not changed by lowering it again.
* `trim_lowerChars`: lowering brings no blanks to the ends of a text.
-/

namespace Storekeeper.Text

/-! ## Characters in lower case -/

/-- The character is its own lower-case form, and it is neither blank nor a colon. -/
structure IsSettled (c : Char) : Prop where
  lowered : lowerChar c = [c]
  notBlank : isBlank c = false
  notColon : c ≠ ':'

instance (c : Char) : Decidable (IsSettled c) :=
  decidable_of_iff (lowerChar c = [c] ∧ isBlank c = false ∧ c ≠ ':')
    ⟨fun ⟨lowered, notBlank, notColon⟩ => ⟨lowered, notBlank, notColon⟩,
      fun settled => ⟨settled.lowered, settled.notBlank, settled.notColon⟩⟩

theorem ne_sigma {c : Char} (lowered : lowerChar c = [c]) : c ≠ 'Σ' := by
  rintro rfl
  exact absurd lowered (by decide)

namespace CaseSpan

/-- Where the last code point between the ends of a span goes. -/
def lastImage (span : CaseSpan) : Nat :=
  span.image + (span.last - span.first)

/-- What one span moves is not moved again by another: it comes to lie outside of the other span, or between
the code points that the other moves. -/
def clears (span other : CaseSpan) : Bool :=
  other.last.blt span.image || span.lastImage.blt other.first ||
    (other.step.beq 2 && (span.step.beq 2 || span.first.beq span.last) &&
      ((span.image + other.first) % 2).beq 1)

variable {span other : CaseSpan} {code : Nat}

theorem move_bounds (held : span.holds code = true) :
    span.image ≤ span.move code ∧ span.move code ≤ span.lastImage := by
  unfold holds at held
  unfold move lastImage
  simp only [Bool.and_eq_true, decide_eq_true_eq] at held
  omega

theorem not_holds_move (clear : span.clears other = true) (held : span.holds code = true) :
    other.holds (span.move code) = false := by
  obtain ⟨least, most⟩ := move_bounds held
  rw [← Bool.not_eq_true]
  intro again
  unfold holds at held again
  unfold clears at clear
  simp only [Bool.and_eq_true, Bool.or_eq_true, decide_eq_true_eq, beq_iff_eq, Nat.blt_eq,
    Nat.beq_eq] at clear held again
  rcases clear with (below | above) | ⟨⟨coarse, even⟩, odd⟩
  · omega
  · omega
  · rw [coarse] at again
    unfold move at again
    rcases even with same | single
    · rw [same] at held
      omega
    · omega

end CaseSpan

/-- No span moves what a span has moved. -/
theorem lowerSpans_clear :
    (lowerSpans.all fun span => lowerSpans.all fun other => span.clears other) = true := by
  decide +kernel

/-- What is moved is no character of its own in the table of expansions, and a character that may stand in
a text.  Only one character is moved into ASCII, and becomes a letter there. -/
theorem lowerSpans_apart : ∀ span ∈ lowerSpans,
    (span.lastImage < 0xD800 ∨ 0xE000 ≤ span.image ∧ span.lastImage < 0x110000) ∧
      (span.lastImage < 0x130 ∨ 0x130 < span.image) ∧
      (0x80 ≤ span.image ∨ span.image = 0x6B ∧ span.lastImage = 0x6B) := by
  decide +kernel

theorem lowerSpans_notBlank : ∀ span ∈ lowerSpans, ∀ blank ∈ (0x1C, 0x1F) :: spaceSpans,
    blank.2 < span.image ∨ span.lastImage < blank.1 := by
  decide +kernel

theorem lowerExpansions_settled : ∀ entry ∈ lowerExpansions, entry.2 ≠ [] ∧
    ∀ code ∈ entry.2, IsSettled (Char.ofNat code) := by
  decide +kernel

theorem lowerAscii_settled : ∀ code < 0x80,
    (Char.ofNat code).toLower = Char.ofNat code ∨ IsSettled (Char.ofNat code).toLower := by
  decide +kernel

theorem lowerExpansions_lookup {code : Nat} (other : code ≠ 0x130) :
    lowerExpansions.lookup code = none := by
  unfold lowerExpansions
  rw [List.lookup_cons, beq_false_of_ne other]
  rfl

theorem toNat_ofNat {n : Nat} (valid : n.isValidChar) : (Char.ofNat n).toNat = n := by
  unfold Char.ofNat
  rw [dif_pos valid]
  rfl

/-- A character that a span has moved is settled. -/
theorem CaseSpan.isSettled_move {span : CaseSpan} (member : span ∈ lowerSpans) {code : Nat}
    (held : span.holds code = true) : IsSettled (Char.ofNat (span.move code)) := by
  obtain ⟨least, most⟩ := move_bounds held
  obtain ⟨valid, single, place⟩ := lowerSpans_apart span member
  have unmoved : ∀ other ∈ lowerSpans, other.holds (span.move code) = false := by
    intro other among
    have clear := List.all_eq_true.mp (List.all_eq_true.mp lowerSpans_clear span member) other among
    exact not_holds_move clear held
  generalize span.move code = n at least most unmoved
  have value : (Char.ofNat n).toNat = n := by
    refine toNat_ofNat ?_
    unfold Nat.isValidChar
    omega
  refine ⟨?_, ?_, ?_⟩
  · rcases place with high | ⟨letter, same⟩
    · have lookup : lowerExpansions.lookup n = none := lowerExpansions_lookup (by omega)
      have none : lowerSpans.find? (·.holds n) = none :=
        List.find?_eq_none.mpr fun other among => Bool.eq_false_iff.mp (unmoved other among)
      unfold lowerChar mapCase
      rw [value, if_neg (by omega), lookup, none]
    · have only : n = 0x6B := by omega
      rw [only]
      decide
  · unfold isBlank isSpace inSpans
    rw [value, Bool.or_eq_false_iff]
    constructor
    · refine List.any_eq_false.mpr fun blank among => ?_
      have apart := lowerSpans_notBlank span member blank (List.mem_cons_of_mem _ among)
      simp only [Bool.and_eq_true, decide_eq_true_eq]
      omega
    · have apart := lowerSpans_notBlank span member _ (List.mem_cons_self ..)
      simp only [Bool.and_eq_false_iff, decide_eq_false_iff_not]
      omega
  · intro colon
    have code := congrArg Char.toNat colon
    rw [value] at code
    change n = 0x3A at code
    omega

/-- What a character may become: itself, if it is its own lower-case form, or settled characters. -/
structure IsForm (c : Char) (form : List Char) : Prop where
  some : form ≠ []
  cases : lowerChar c = [c] ∧ form = [c] ∨ ∀ d ∈ form, IsSettled d

theorem IsForm.single {c d : Char} (settled : IsSettled d) : IsForm c [d] :=
  ⟨List.cons_ne_nil _ _, .inr fun _ member => List.mem_singleton.mp member ▸ settled⟩

theorem IsForm.self {c : Char} (same : lowerChar c = [c]) : IsForm c (lowerChar c) :=
  ⟨same ▸ List.cons_ne_nil _ _, .inl ⟨same, same⟩⟩

theorem isForm_lowerChar (c : Char) : IsForm c (lowerChar c) := by
  by_cases ascii : c.toNat < 0x80
  · have lower : lowerChar c = [c.toLower] := if_pos ascii
    have cases := lowerAscii_settled c.toNat ascii
    rw [Char.ofNat_toNat] at cases
    rcases cases with same | settled
    · exact .self (by rw [lower, same])
    · rw [lower]
      exact .single settled
  · have mapped : lowerChar c = mapCase lowerExpansions lowerSpans c := if_neg ascii
    unfold mapCase at mapped
    cases expansion : lowerExpansions.lookup c.toNat with
    | some codes =>
      obtain ⟨front, back, whole, -⟩ := List.lookup_eq_some_iff.mp expansion
      have member : (c.toNat, codes) ∈ lowerExpansions := by
        rw [whole]
        exact List.mem_append_right front (List.mem_cons_self ..)
      obtain ⟨some, settled⟩ := lowerExpansions_settled _ member
      rw [mapped, expansion]
      refine ⟨by simpa using some, .inr fun d among => ?_⟩
      obtain ⟨code, given, rfl⟩ := List.mem_map.mp among
      exact settled code given
    | none =>
      rw [expansion] at mapped
      cases found : lowerSpans.find? (·.holds c.toNat) with
      | none =>
        rw [found] at mapped
        exact .self mapped
      | some span =>
        rw [found] at mapped
        rw [mapped]
        exact .single (CaseSpan.isSettled_move (List.mem_of_find?_eq_some found)
          (List.find?_some (p := fun span : CaseSpan => span.holds c.toNat) found))

/-! ## Texts in lower case -/

/-- A text and what its characters may become, one after the other. -/
inductive Lowers : List Char → List Char → Prop
  | nil : Lowers [] []
  | cons {c : Char} {form cs ds : List Char} (here : IsForm c form) (later : Lowers cs ds) :
    Lowers (c :: cs) (form ++ ds)

theorem lowers_lowerFrom (before cs : List Char) : Lowers cs (lowerFrom before cs) := by
  induction cs generalizing before with
  | nil => exact .nil
  | cons c rest ih =>
    refine .cons ?_ (ih (c :: before))
    split
    · split
      · exact .single (by decide +kernel)
      · exact .single (by decide +kernel)
    · exact isForm_lowerChar c

theorem lowers_lowerChars (cs : List Char) : Lowers cs (lowerChars cs) :=
  lowers_lowerFrom [] cs

namespace Lowers

variable {cs ds : List Char} {d : Char}

/-- A character of the lower-case form is one of the text that is in lower case, or is settled. -/
theorem mem (lowers : Lowers cs ds) (member : d ∈ ds) : d ∈ cs ∧ lowerChar d = [d] ∨ IsSettled d := by
  induction lowers with
  | nil => cases member
  | @cons c form cs ds here _ ih =>
    rcases List.mem_append.mp member with among | among
    · rcases here.cases with ⟨same, rfl⟩ | settled
      · rw [List.mem_singleton.mp among]
        exact .inl ⟨List.mem_cons_self .., same⟩
      · exact .inr (settled d among)
    · rcases ih among with ⟨later, same⟩ | settled
      · exact .inl ⟨List.mem_cons_of_mem _ later, same⟩
      · exact .inr settled

/-- The form of a text that does not begin with a blank does not begin with one. -/
theorem head (lowers : Lowers cs ds) (first : ∀ c rest, cs = c :: rest → isBlank c = false)
    {rest : List Char} (whole : ds = d :: rest) : isBlank d = false := by
  cases lowers with
  | nil => cases whole
  | @cons c form cs ds here _ =>
    rcases here.cases with ⟨-, rfl⟩ | settled
    · cases whole
      exact first _ _ rfl
    · obtain ⟨e, more, rfl⟩ := List.exists_cons_of_ne_nil here.some
      cases whole
      exact (settled d (List.mem_cons_self ..)).notBlank

theorem eq_nil (lowers : Lowers cs ds) (nothing : ds = []) : cs = [] := by
  cases lowers with
  | nil => rfl
  | cons here _ => exact absurd (List.append_eq_nil_iff.mp nothing).1 here.some

/-- The form of a text that does not end with a blank does not end with one. -/
theorem last (lowers : Lowers cs ds) (clear : ∀ front c, cs = front ++ [c] → isBlank c = false)
    {front : List Char} (whole : ds = front ++ [d]) : isBlank d = false := by
  induction lowers generalizing front with
  | nil => simp at whole
  | @cons c form cs ds here later ih =>
    rcases List.eq_nil_or_concat ds with nothing | ⟨before, e, same⟩
    · -- Nothing follows, so that the last character is that of the form.
      rw [nothing, List.append_nil] at whole
      rcases here.cases with ⟨-, alone⟩ | settled
      · have last : c = d := by simpa [alone] using congrArg List.getLast? whole
        exact last ▸ clear [] c (by rw [later.eq_nil nothing]; rfl)
      · exact (settled d (by simp [whole])).notBlank
    · rw [List.concat_eq_append] at same
      rw [same, ← List.append_assoc] at whole
      have last : e = d := by simpa using congrArg List.getLast? whole
      exact ih (fun front c whole => clear (_ :: front) c (by rw [whole]; rfl)) (last ▸ same)

end Lowers

/-- A text of characters that are in lower case already stays as it is. -/
theorem lowerChars_of_lower {cs : List Char} (lower : ∀ c ∈ cs, c ≠ 'Σ' ∧ lowerChar c = [c]) :
    lowerChars cs = cs := by
  suffices every : ∀ before, lowerFrom before cs = cs from every []
  induction cs with
  | nil => intro before; rfl
  | cons c rest ih =>
    intro before
    obtain ⟨⟨notSigma, same⟩, later⟩ := List.forall_mem_cons.mp lower
    rw [lowerFrom, if_neg notSigma, same, ih later]
    rfl

/-- What is in lower case is not changed by lowering it again. -/
theorem lowerChars_lowerChars (cs : List Char) : lowerChars (lowerChars cs) = lowerChars cs := by
  refine lowerChars_of_lower fun d member => ?_
  have lowered : lowerChar d = [d] := by
    rcases (lowers_lowerChars cs).mem member with ⟨-, same⟩ | settled
    · exact same
    · exact settled.lowered
  exact ⟨ne_sigma lowered, lowered⟩

/-- Lowering brings no blanks to the ends of a text. -/
theorem trim_lowerChars {cs : List Char} (trimmed : trim cs = cs) :
    trim (lowerChars cs) = lowerChars cs := by
  obtain ⟨first, last⟩ := trim_eq_self_iff.mp trimmed
  exact trim_eq_self_iff.mpr ⟨fun _ _ whole => (lowers_lowerChars cs).head first whole,
    fun _ _ whole => (lowers_lowerChars cs).last last whole⟩

/-- Lowering brings no breaks into a text. -/
theorem noBreak_lowerChars {cs : List Char} (noBreak : ∀ c ∈ cs, isBreak c = false) :
    ∀ d ∈ lowerChars cs, isBreak d = false := by
  intro d member
  rcases (lowers_lowerChars cs).mem member with ⟨among, -⟩ | settled
  · exact noBreak d among
  · rw [Bool.eq_false_iff]
    exact fun ends => Bool.eq_false_iff.mp settled.notBlank (isBlank_of_isBreak ends)

/-- Lowering brings no colon into a text. -/
theorem noColon_lowerChars {cs : List Char} (noColon : ':' ∉ cs) : ':' ∉ lowerChars cs := by
  intro member
  rcases (lowers_lowerChars cs).mem member with ⟨among, -⟩ | settled
  · exact noColon among
  · exact settled.notColon rfl

end Storekeeper.Text
