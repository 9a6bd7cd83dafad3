import Mathlib.Algebra.Group.Nat.Defs
import Storekeeper.Checked.Scalar

/-!
# What single values are

Which texts, integers and truth values a document may give, said without reading it: an integer may be given
as a number without a fraction or as a text, and a truth value as a number or as one of a few words.

* `WritesInteger`: a text that writes an integer, part by part.
* `text_eq_ok`, `integer_eq_ok`, `truth_eq_ok`: a reading of a single value gives what the value is, and fails
  for all other values.
* `IsScalar`: where it fails there is one thing wrong, at the place itself.
-/

namespace Storekeeper.Checked

open Storekeeper.Text Storekeeper.Decimal

/-! ## Digits -/

/-- Digits with their values, one after the other or with an underscore between two of them. -/
inductive Grouped : List Char → List Nat → Prop
  | last {c : Char} {d : Nat} : asciiDigit? c = some d → Grouped [c] [d]
  | next {c : Char} {d : Nat} {cs : List Char} {ds : List Nat} : asciiDigit? c = some d →
    Grouped cs ds → Grouped (c :: cs) (d :: ds)
  | parted {c : Char} {d : Nat} {cs : List Char} {ds : List Nat} : asciiDigit? c = some d →
    Grouped cs ds → Grouped (c :: '_' :: cs) (d :: ds)

theorem asciiDigit?_bounds {c : Char} {d : Nat} (digit : asciiDigit? c = some d) :
    48 ≤ c.toNat ∧ c.toNat ≤ 57 := by
  unfold asciiDigit? at digit
  split at digit
  · assumption
  · cases digit

theorem isSpace_of_digit {c : Char} {d : Nat} (digit : asciiDigit? c = some d) : isSpace c = false := by
  obtain ⟨low, high⟩ := asciiDigit?_bounds digit
  unfold isSpace inSpans spaceSpans
  simp only [List.any_cons, List.any_nil, Bool.or_false, Bool.or_eq_false_iff, Bool.and_eq_false_iff,
    decide_eq_false_iff_not]
  omega

theorem ne_of_digit {c other : Char} {d : Nat} (digit : asciiDigit? c = some d)
    (outside : asciiDigit? other = none) : c ≠ other := by
  rintro rfl
  cases digit.symm.trans outside

namespace Grouped

variable {cs : List Char} {ds : List Nat}

/-- A row of digits begins with a digit. -/
theorem head (row : Grouped cs ds) : ∃ c d rest, cs = c :: rest ∧ asciiDigit? c = some d := by
  cases row with
  | last digit => exact ⟨_, _, _, rfl, digit⟩
  | next digit _ => exact ⟨_, _, _, rfl, digit⟩
  | parted digit _ => exact ⟨_, _, _, rfl, digit⟩

/-- A row of digits ends with a digit. -/
theorem getLast (row : Grouped cs ds) : ∃ front c d, cs = front ++ [c] ∧ asciiDigit? c = some d := by
  induction row with
  | last digit => exact ⟨[], _, _, rfl, digit⟩
  | @next first _ _ _ _ _ ih =>
    obtain ⟨front, c, d, rfl, digit⟩ := ih
    exact ⟨first :: front, c, d, rfl, digit⟩
  | @parted first _ _ _ _ _ ih =>
    obtain ⟨front, c, d, rfl, digit⟩ := ih
    exact ⟨first :: '_' :: front, c, d, rfl, digit⟩

theorem noPoint (row : Grouped cs ds) : '.' ∉ cs := by
  have point : asciiDigit? '.' = none := by decide
  have underscore : '.' ≠ '_' := by decide
  induction row with
  | last digit => simpa using (ne_of_digit digit point).symm
  | next digit _ ih => simpa [ih] using (ne_of_digit digit point).symm
  | parted digit _ ih => simpa [ih, underscore] using (ne_of_digit digit point).symm

end Grouped

/-- The digits that are read are the row of digits that is there. -/
theorem groupedDigits?_eq_some {cs : List Char} {ds : List Nat} :
    groupedDigits? asciiDigit? cs = some ds ↔ Grouped cs ds := by
  constructor
  · intro read
    fun_induction groupedDigits? asciiDigit? cs generalizing ds with
    | case1 => cases read
    | case2 c =>
      obtain ⟨d, digit, rfl⟩ := Option.map_eq_some_iff.mp read
      exact .last digit
    | case3 c rest ih =>
      obtain ⟨d, digit, others⟩ := Option.bind_eq_some_iff.mp read
      obtain ⟨values, rest, same⟩ := Option.bind_eq_some_iff.mp others
      cases same
      exact .parted digit (ih rest)
    | case4 c rest _ _ ih =>
      obtain ⟨d, digit, others⟩ := Option.bind_eq_some_iff.mp read
      obtain ⟨values, rest, same⟩ := Option.bind_eq_some_iff.mp others
      cases same
      exact .next digit (ih rest)
  · intro row
    induction row with
    | last digit => simp [groupedDigits?, digit]
    | parted digit _ ih => simp [groupedDigits?, digit, ih]
    | @next c d cs ds digit row ih =>
      -- what follows is a digit, and so no underscore
      obtain ⟨other, value, rest, rfl, follows⟩ := row.head
      have plain : other ≠ '_' := ne_of_digit follows (by decide)
      rw [groupedDigits?]
      · simp [digit, ih]
      · exact fun h => nomatch h
      · rintro more h
        exact plain (List.cons.inj h).1

/-! ## Integers as texts -/

/-- A text writes an integer: digits after a sign if any and before a point with zeros if any, with white
space around. -/
def WritesInteger (s : String) (n : Int) : Prop :=
  ∃ front sign row zeros back values,
    s.toList = front ++ (sign ++ (row ++ zeros)) ++ back ∧
      (∀ c ∈ front, isSpace c = true) ∧ (∀ c ∈ back, isSpace c = true) ∧
      Grouped row values ∧ values.length ≤ 4300 ∧
      (zeros = [] ∨ ∃ count, zeros = '.' :: List.replicate (count + 1) '0') ∧
      ((sign = [] ∨ sign = ['+']) ∧ n = ofDigits values ∨ sign = ['-'] ∧ n = -ofDigits values)

/-- What is taken off the ends of a text, and what stays. -/
theorem dropBoth_split (drop : Char → Bool) (cs : List Char) : ∃ front back,
    cs = front ++ dropBoth drop cs ++ back ∧ (∀ c ∈ front, drop c = true) ∧ ∀ c ∈ back, drop c = true := by
  have trailing := List.takeWhile_append_dropWhile (p := drop) (l := (cs.dropWhile drop).reverse)
  refine ⟨cs.takeWhile drop, ((cs.dropWhile drop).reverse.takeWhile drop).reverse, ?_, ?_, ?_⟩
  · rw [dropBoth, dropEnd, List.append_assoc, ← List.reverse_append, trailing, List.reverse_reverse,
      List.takeWhile_append_dropWhile]
  · exact fun c member => List.all_eq_true.mp List.all_takeWhile c member
  · exact fun c member => List.all_eq_true.mp List.all_takeWhile c (List.mem_reverse.mp member)

/-- What stands between blanks stays, if it neither begins nor ends with one. -/
theorem dropBoth_between {drop : Char → Bool} {front back core : List Char}
    (before : ∀ c ∈ front, drop c = true) (after : ∀ c ∈ back, drop c = true)
    (first : ∃ c rest, core = c :: rest ∧ drop c = false)
    (last : ∃ rest c, core = rest ++ [c] ∧ drop c = false) :
    dropBoth drop (front ++ core ++ back) = core := by
  have ends : (core ++ back).dropWhile drop = core ++ back := by
    obtain ⟨c, rest, rfl, stays⟩ := first
    exact List.dropWhile_cons_of_neg (by simp [stays])
  unfold dropBoth dropEnd
  rw [List.append_assoc, List.dropWhile_append_of_pos before, ends, List.reverse_append,
    List.dropWhile_append_of_pos (fun c member => after c (List.mem_reverse.mp member))]
  obtain ⟨rest, c, rfl, stays⟩ := last
  rw [List.reverse_append, List.reverse_singleton, List.singleton_append,
    List.dropWhile_cons_of_neg (by simp [stays]), List.reverse_cons, List.reverse_reverse]

/-- A point with zeros after it is dropped, and nothing else. -/
theorem dropZeroFraction?_eq_some {cs row : List Char} : dropZeroFraction? cs = some row ↔
    '.' ∉ row ∧ (cs = row ∨ ∃ count, cs = row ++ '.' :: List.replicate (count + 1) '0') := by
  have whole : cs.takeWhile (· != '.') ++ cs.dropWhile (· != '.') = cs := List.takeWhile_append_dropWhile
  have noPoint : '.' ∉ cs.takeWhile (· != '.') := by
    intro member
    simpa using List.all_eq_true.mp List.all_takeWhile _ member
  unfold dropZeroFraction?
  constructor
  · intro kept
    split at kept
    · rename_i nothing
      cases kept
      rw [nothing, List.append_nil] at whole
      exact ⟨whole ▸ noPoint, .inl rfl⟩
    · rename_i point zeros rest
      split at kept
      · cases kept
      · rename_i zero
        cases kept
        have first := List.head?_dropWhile_not (· != '.') cs
        rw [rest] at first
        obtain rfl : point = '.' := by simpa using first
        obtain ⟨some, zero⟩ : zeros ≠ [] ∧ ∀ c ∈ zeros, c = '0' := by simpa using zero
        obtain ⟨count, length⟩ := Nat.exists_eq_succ_of_ne_zero fun none : zeros.length = 0 =>
          some (List.length_eq_zero_iff.mp none)
        refine ⟨noPoint, .inr ⟨count, ?_⟩⟩
        rw [← List.eq_replicate_iff.mpr ⟨length, zero⟩, ← rest, whole]
  · rintro ⟨none, shape⟩
    have before : ∀ c ∈ row, (c != '.') = true := by
      intro c member
      simpa using fun point : c = '.' => none (point ▸ member)
    rcases shape with rfl | ⟨count, rfl⟩
    · have nothing : cs.dropWhile (· != '.') = [] := by
        rw [← List.append_nil cs, List.dropWhile_append_of_pos before]
        rfl
      rw [nothing]
    · have taken : (row ++ '.' :: List.replicate (count + 1) '0').takeWhile (· != '.') = row := by
        rw [List.takeWhile_append_of_pos before]
        simp
      have dropped : (row ++ '.' :: List.replicate (count + 1) '0').dropWhile (· != '.') =
          '.' :: List.replicate (count + 1) '0' := by
        rw [List.dropWhile_append_of_pos before]
        simp
      rw [dropped, taken]
      simp

/-- A sign is taken off, and what follows it stays. -/
theorem takeSign_cases {cs rest : List Char} {negative : Bool} (taken : takeSign cs = (negative, rest)) :
    ∃ sign, cs = sign ++ rest ∧
      ((sign = [] ∨ sign = ['+']) ∧ negative = false ∨ sign = ['-'] ∧ negative = true) := by
  unfold takeSign at taken
  split at taken
  · cases taken
    exact ⟨['+'], rfl, .inl ⟨.inr rfl, rfl⟩⟩
  · cases taken
    exact ⟨['-'], rfl, .inr ⟨rfl, rfl⟩⟩
  · cases taken
    exact ⟨[], rfl, .inl ⟨.inl rfl, rfl⟩⟩

/-- A digit is no sign. -/
theorem takeSign_digit {c : Char} {d : Nat} (digit : asciiDigit? c = some d) (rest : List Char) :
    takeSign (c :: rest) = (false, c :: rest) := by
  have plus : c ≠ '+' := ne_of_digit digit (by decide)
  have minus : c ≠ '-' := ne_of_digit digit (by decide)
  unfold takeSign
  split
  · rename_i same
    exact absurd (List.cons.inj same).1 plus
  · rename_i same
    exact absurd (List.cons.inj same).1 minus
  · rfl

/-- What is read from a text is what the text writes. -/
theorem writesInteger_of_read {s : String} {n : Int} (read : integerText s = ok n) : WritesInteger s n := by
  unfold integerText at read
  obtain ⟨front, back, whole, before, after⟩ := dropBoth_split isSpace s.toList
  rcases taken : takeSign (trimSpace s.toList) with ⟨negative, cs⟩
  obtain ⟨sign, signed, meant⟩ := takeSign_cases taken
  rw [taken] at read
  dsimp only at read
  split at read
  · cases read
  · rename_i values found
    split at read
    · cases read
    · rename_i short
      cases read
      obtain ⟨row, unpointed, grouped⟩ := Option.bind_eq_some_iff.mp found
      obtain ⟨-, fraction⟩ := dropZeroFraction?_eq_some.mp unpointed
      obtain ⟨zeros, rest, shape⟩ : ∃ zeros, cs = row ++ zeros ∧
          (zeros = [] ∨ ∃ count, zeros = '.' :: List.replicate (count + 1) '0') := by
        rcases fraction with rfl | ⟨count, rfl⟩
        · exact ⟨[], (List.append_nil cs).symm, .inl rfl⟩
        · exact ⟨_, rfl, .inr ⟨count, rfl⟩⟩
      have core : dropBoth isSpace s.toList = sign ++ (row ++ zeros) := rest ▸ signed
      refine ⟨front, sign, row, zeros, back, values, core ▸ whole, before, after,
        groupedDigits?_eq_some.mp grouped, Nat.le_of_not_lt short, shape, ?_⟩
      rcases meant with ⟨plus, rfl⟩ | ⟨minus, rfl⟩
      · exact .inl ⟨plus, rfl⟩
      · exact .inr ⟨minus, rfl⟩

/-- What a text writes is read from it. -/
theorem integerText_of_writes {s : String} {n : Int} (writes : WritesInteger s n) : integerText s = ok n := by
  obtain ⟨front, sign, row, zeros, back, values, whole, before, after, grouped, short, shape, meant⟩ := writes
  obtain ⟨c, d, rest, starts, digit⟩ := grouped.head
  have signs : sign = [] ∨ sign = ['+'] ∨ sign = ['-'] := by
    rcases meant with ⟨plus | plus, -⟩ | ⟨minus, -⟩
    · exact .inl plus
    · exact .inr (.inl plus)
    · exact .inr (.inr minus)
  have first : ∃ c rest, sign ++ (row ++ zeros) = c :: rest ∧ isSpace c = false := by
    rcases signs with rfl | rfl | rfl
    · exact ⟨c, rest ++ zeros, by rw [starts]; rfl, isSpace_of_digit digit⟩
    · exact ⟨'+', row ++ zeros, rfl, by decide⟩
    · exact ⟨'-', row ++ zeros, rfl, by decide⟩
  have last : ∃ front c, sign ++ (row ++ zeros) = front ++ [c] ∧ isSpace c = false := by
    rcases shape with rfl | ⟨count, rfl⟩
    · obtain ⟨front, c, d, rfl, digit⟩ := grouped.getLast
      exact ⟨sign ++ front, c, by simp, isSpace_of_digit digit⟩
    · exact ⟨sign ++ (row ++ '.' :: List.replicate count '0'), '0', by simp [List.replicate_succ'],
        by decide⟩
  have trimmed : trimSpace s.toList = sign ++ (row ++ zeros) := by
    rw [trimSpace, whole]
    exact dropBoth_between before after first last
  have taken : takeSign (sign ++ (row ++ zeros)) = (sign == ['-'], row ++ zeros) := by
    rcases signs with rfl | rfl | rfl
    · rw [starts]
      exact takeSign_digit digit (rest ++ zeros)
    · rfl
    · rfl
  have unpointed : dropZeroFraction? (row ++ zeros) = some row := by
    refine dropZeroFraction?_eq_some.mpr ⟨grouped.noPoint, ?_⟩
    rcases shape with rfl | ⟨count, rfl⟩
    · exact .inl (List.append_nil row)
    · exact .inr ⟨count, rfl⟩
  unfold integerText
  rw [trimmed, taken]
  simp only [unpointed, Option.bind_some, groupedDigits?_eq_some.mpr grouped, Nat.not_lt.mpr short, if_false]
  rcases meant with ⟨rfl | rfl, rfl⟩ | ⟨rfl, rfl⟩
  · rfl
  · rfl
  · rfl

/-- An integer is read from a text exactly if the text writes it. -/
theorem integerText_eq_ok {s : String} {n : Int} : integerText s = ok n ↔ WritesInteger s n :=
  ⟨writesInteger_of_read, integerText_of_writes⟩

/-! ## Texts, integers and truth values -/

/-- The text that a value is. -/
inductive IsText : Json → String → Prop
  | text {s : String} : IsText (.str s) s

/-- The integer that a value is: a number without a fraction, a truth value or a text may stand for one. -/
inductive IsInteger : Json → Int → Prop
  | integer {n : Int} : IsInteger (.int n) n
  | number {x : Binary64} {n : Int} : x.toInt? = some n → n.natAbs < 2 ^ 63 → IsInteger (.num x) n
  | text {s : String} {n : Int} : WritesInteger s n → IsInteger (.str s) n
  | no : IsInteger (.bool false) 0
  | yes : IsInteger (.bool true) 1

/-- The truth value that a value is: the numbers 0 and 1 and a few words may stand for one. -/
inductive IsTruth : Json → Bool → Prop
  | truth {b : Bool} : IsTruth (.bool b) b
  | zero : IsTruth (.int 0) false
  | one : IsTruth (.int 1) true
  | numberZero {x : Binary64} : x.same (.ofInt 0) = true → IsTruth (.num x) false
  | numberOne {x : Binary64} : x.same (.ofInt 1) = true → IsTruth (.num x) true
  | word {s : String} {b : Bool} : (String.ofList (s.toList.map Char.toLower), b) ∈ truthWords →
    IsTruth (.str s) b

theorem text_eq_ok {value : Json} {s : String} : text value = ok s ↔ IsText value s := by
  constructor
  · intro read
    cases value with
    | str content =>
      cases read
      exact .text
    | _ => cases read
  · rintro ⟨⟩
    rfl

theorem natAbs_lt_iff {n : Int} {bound : Nat} : n.natAbs < bound ↔ -(bound : Int) < n ∧ n < bound := by
  omega

theorem integer_eq_ok {value : Json} {n : Int} : integer value = ok n ↔ IsInteger value n := by
  constructor
  · intro read
    cases value with
    | int m =>
      cases read
      exact .integer
    | bool b =>
      cases b with
      | false =>
        cases read
        exact .no
      | true =>
        cases read
        exact .yes
    | str s => exact .text (integerText_eq_ok.mp read)
    | num x =>
      unfold integer at read
      dsimp only at read
      split at read
      · cases read
      · split at read
        · cases read
        · rename_i whole
          split at read
          · rename_i inside
            cases read
            exact .number whole (natAbs_lt_iff.mpr inside)
          · cases read
    | _ => cases read
  · intro is
    cases is with
    | integer => rfl
    | text writes => exact integerText_eq_ok.mpr writes
    | no => rfl
    | yes => rfl
    | @number x n whole small =>
      have finite : x.isFinite = true := by
        cases x with
        | finite s units => rfl
        | _ => cases whole
      unfold integer
      simp only [finite, whole, Bool.not_true, Bool.false_eq_true, if_false]
      exact if_pos (natAbs_lt_iff.mp small)

/-- No number is both 0 and 1. -/
theorem same_zero_of_one {x : Binary64} (one : x.same (.ofInt 1) = true) : x.same (.ofInt 0) = false := by
  have apart : (Binary64.ofInt 1).same (.ofInt 0) = false := by decide +kernel
  generalize Binary64.ofInt 1 = first at one apart
  generalize Binary64.ofInt 0 = second at apart ⊢
  cases x <;> cases first <;> cases second <;> simp_all [Binary64.same]

/-- Each of the words is found with what it means. -/
theorem truthWords_lookup {word : String} {b : Bool} :
    truthWords.lookup word = some b ↔ (word, b) ∈ truthWords := by
  have each : ∀ entry ∈ truthWords, truthWords.lookup entry.1 = some entry.2 := by decide
  constructor
  · intro found
    obtain ⟨before, after, parts, -⟩ := List.lookup_eq_some_iff.mp found
    rw [parts]
    exact List.mem_append_right before (List.mem_cons_self ..)
  · exact fun member => each _ member

theorem truth_eq_ok {value : Json} {b : Bool} : truth value = ok b ↔ IsTruth value b := by
  constructor
  · intro read
    cases value with
    | bool given =>
      cases read
      exact .truth
    | int n =>
      unfold truth at read
      dsimp only at read
      split at read
      · rename_i zero
        cases read
        exact zero ▸ .zero
      · split at read
        · rename_i one
          cases read
          exact one ▸ .one
        · cases read
    | num x =>
      unfold truth at read
      dsimp only at read
      split at read
      · rename_i zero
        cases read
        exact .numberZero zero
      · split at read
        · rename_i one
          cases read
          exact .numberOne one
        · cases read
    | str s =>
      unfold truth at read
      dsimp only at read
      split at read
      · rename_i found
        cases read
        exact .word (truthWords_lookup.mp found)
      · cases read
    | _ => cases read
  · intro is
    cases is with
    | truth => rfl
    | zero => rfl
    | one => rfl
    | numberZero zero => simp [truth, zero]
    | numberOne one => simp [truth, one, same_zero_of_one one]
    | word member => simp [truth, truthWords_lookup.mpr member]

/-! ## What is wrong with a single value -/

/-- A value is read, or there is one thing wrong with it, at the place itself. -/
def IsScalar {α : Type} (reading : Json → Checked α) : Prop :=
  ∀ value, (∃ read, reading value = .ok read) ∨ ∃ cause, reading value = fail cause

theorem isScalar_text : IsScalar text := by
  intro value
  cases value with
  | str s => exact .inl ⟨s, rfl⟩
  | _ => exact .inr ⟨_, rfl⟩

theorem isScalar_integerText (s : String) :
    (∃ n, integerText s = .ok n) ∨ ∃ cause, integerText s = fail cause := by
  unfold integerText
  dsimp only
  split
  · exact .inr ⟨_, rfl⟩
  · split
    · exact .inr ⟨_, rfl⟩
    · exact .inl ⟨_, rfl⟩

theorem isScalar_integer : IsScalar integer := by
  intro value
  cases value with
  | int n => exact .inl ⟨n, rfl⟩
  | bool b => exact .inl ⟨_, rfl⟩
  | str s => exact isScalar_integerText s
  | num x =>
    unfold integer
    dsimp only
    split
    · exact .inr ⟨_, rfl⟩
    · split
      · exact .inr ⟨_, rfl⟩
      · split
        · exact .inl ⟨_, rfl⟩
        · exact .inr ⟨_, rfl⟩
  | _ => exact .inr ⟨_, rfl⟩

theorem isScalar_truth : IsScalar truth := by
  intro value
  cases value with
  | bool b => exact .inl ⟨b, rfl⟩
  | int n =>
    unfold truth
    dsimp only
    split
    · exact .inl ⟨_, rfl⟩
    · split
      · exact .inl ⟨_, rfl⟩
      · exact .inr ⟨_, rfl⟩
  | num x =>
    unfold truth
    dsimp only
    split
    · exact .inl ⟨_, rfl⟩
    · split
      · exact .inl ⟨_, rfl⟩
      · exact .inr ⟨_, rfl⟩
  | str s =>
    unfold truth
    dsimp only
    split
    · exact .inl ⟨_, rfl⟩
    · exact .inr ⟨_, rfl⟩
  | _ => exact .inr ⟨_, rfl⟩

end Storekeeper.Checked
