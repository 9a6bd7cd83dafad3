import Storekeeper.Proofs.Decimal.Nearest
import Storekeeper.Proofs.Product.Price

/-!
# Texts that are accepted as a price

A price is a decimal without an exponent, a plus sign allowed, and it stands for the binary number nearest to
its exact value.

* `WritesDecimal` and `WritesPrice`: the decimals and their values, by the ways to write them;
  `writesDecimal_iff` says that they are what is read.
* `Prices`: a text is the price of a value that is neither too small nor too large for a binary number.
* `parsePrice_accepts`: these texts are accepted and no others, as the number nearest to their value.
-/

namespace Storekeeper

open Storekeeper.Text Storekeeper.Decimal Storekeeper.Decimal.Binary64

/-! ## Decimals -/

/-- The number that a row of digits writes. -/
def rowValue (row : List Char) : ℚ :=
  Nat.ofDigitChars 10 row 0

/-- The characters are digits, with a point that has digits on at least one side or without one, and write
a number. -/
inductive WritesDecimal : List Char → ℚ → Prop
  | whole {row : List Char} (given : row ≠ []) (digits : ∀ c ∈ row, c.isDigit = true) :
      WritesDecimal row (rowValue row)
  | point {row fraction : List Char} (given : row ≠ []) (before : ∀ c ∈ row, c.isDigit = true)
      (after : ∀ c ∈ fraction, c.isDigit = true) :
      WritesDecimal (row ++ '.' :: fraction) (rowValue row + rowValue fraction / 10 ^ fraction.length)
  | fraction {fraction : List Char} (given : fraction ≠ []) (after : ∀ c ∈ fraction, c.isDigit = true) :
      WritesDecimal ('.' :: fraction) (rowValue fraction / 10 ^ fraction.length)

/-- The characters are a decimal, with a plus sign before it or without one. -/
inductive WritesPrice : List Char → ℚ → Prop
  | unsigned {cs : List Char} {q : ℚ} (writes : WritesDecimal cs q) : WritesPrice cs q
  | plus {cs : List Char} {q : ℚ} (writes : WritesDecimal cs q) : WritesPrice ('+' :: cs) q

variable {cs whole fraction : List Char} {q : ℚ} {x : Numeral} {text : String} {price : Binary64}

/-- The value of a numeral without an exponent. -/
def plainValue (x : Numeral) : ℚ :=
  x.digits / (10 ^ x.fraction.length : Nat)

theorem plainValue_eq (before : ∀ c ∈ whole, c.isDigit = true) (after : ∀ c ∈ fraction, c.isDigit = true) :
    plainValue ⟨whole, fraction, 0⟩ = rowValue whole + rowValue fraction / 10 ^ fraction.length := by
  have places : (10 ^ fraction.length : ℚ) ≠ 0 := by positivity
  unfold plainValue rowValue
  rw [digits_plain before after]
  push_cast
  rw [add_div, mul_div_cancel_right₀ _ places]

theorem rowValue_nil : rowValue [] = 0 := by
  simp [rowValue]

/-- What is read as a numeral without an exponent are the decimals, with their values. -/
theorem writesDecimal_iff :
    WritesDecimal cs q ↔ ∃ x, plainNumeral? cs = some x ∧ q = plainValue x := by
  have nothing : ∀ c ∈ ([] : List Char), c.isDigit = true := fun _ member => nomatch member
  constructor
  · intro writes
    cases writes with
    | whole given digits =>
      refine ⟨_, plainNumeral?_row given digits, ?_⟩
      rw [plainValue_eq digits nothing, rowValue_nil, zero_div, add_zero]
    | point given before after =>
      exact ⟨_, plainNumeral?_point (.inl given) before after, (plainValue_eq before after).symm⟩
    | fraction given after =>
      refine ⟨_, plainNumeral?_point (.inr given) nothing after, ?_⟩
      rw [plainValue_eq nothing after, rowValue_nil, zero_add]
  · rintro ⟨x, read, rfl⟩
    obtain ⟨whole, fraction, rfl, before, after, given, shape⟩ := plainNumeral?_some read
    rw [plainValue_eq before after]
    rcases shape with ⟨rfl, rfl⟩ | rfl
    · rw [rowValue_nil, zero_div, add_zero]
      exact .whole (given.resolve_right (· rfl)) before
    · rcases eq_or_ne whole [] with rfl | some
      · rw [rowValue_nil, zero_add]
        exact .fraction (given.resolve_left (· rfl)) after
      · exact .point some before after

/-- A decimal is written with digits and points only. -/
theorem WritesDecimal.digit_or_point (writes : WritesDecimal cs q) :
    ∀ c ∈ cs, c.isDigit = true ∨ c = '.' := by
  cases writes with
  | whole given digits => exact fun c member => .inl (digits c member)
  | point given before after =>
    intro c member
    rcases List.mem_append.mp member with left | right
    · exact .inl (before c left)
    · rcases List.mem_cons.mp right with rfl | right
      · exact .inr rfl
      · exact .inl (after c right)
  | fraction given after =>
    intro c member
    rcases List.mem_cons.mp member with rfl | right
    · exact .inr rfl
    · exact .inl (after c right)

theorem writesPrice_iff : WritesPrice cs q ↔ WritesDecimal (dropPlus cs) q := by
  constructor
  · rintro (writes | writes)
    · have noPlus : dropPlus cs = cs := by
        unfold dropPlus
        split
        · have first := writes.digit_or_point '+' (List.mem_cons_self ..)
          exact absurd first (by decide)
        · rfl
      rwa [noPlus]
    · exact writes
  · intro writes
    unfold dropPlus at writes
    split at writes
    · exact .plus writes
    · exact .unsigned writes

/-- What a text writes as a price is one number. -/
theorem WritesPrice.unique {other : ℚ} (one : WritesPrice cs q) (two : WritesPrice cs other) :
    q = other := by
  obtain ⟨x, read, rfl⟩ := writesDecimal_iff.mp (writesPrice_iff.mp one)
  obtain ⟨y, again, rfl⟩ := writesDecimal_iff.mp (writesPrice_iff.mp two)
  rw [read] at again
  cases again
  rfl

/-! ## Values in the range -/

/-- The text writes a number that is rounded neither to zero nor to infinity. -/
structure Prices (text : String) (q : ℚ) : Prop where
  writes : WritesPrice text.toList q
  large : 1 / 2 ^ 1075 < q
  small : q < 2 ^ 1024 - 2 ^ 970

/-- A numeral whose value is in the range is read as the number nearest to its value. -/
theorem toBinary64_nearest (read : plainNumeral? cs = some x) (large : 1 / 2 ^ 1075 < plainValue x)
    (small : plainValue x < 2 ^ 1024 - 2 ^ 970) :
    ∃ units, x.toBinary64 false = .finite false units ∧ units ≠ 0 ∧
      IsNearest (plainValue x) (.finite false units) := by
  obtain ⟨whole, fraction, rfl, -⟩ := plainNumeral?_some read
  have places : 0 < 10 ^ fraction.length := Nat.pow_pos (by decide)
  have something : (Numeral.mk whole fraction 0).digits ≠ 0 := by
    intro none
    have zero : plainValue ⟨whole, fraction, 0⟩ = 0 := by simp [plainValue, none]
    rw [zero] at large
    exact absurd large (not_lt.mpr (by positivity))
  have finite := (roundUnits_ratio_lt_bound_iff places).mpr small
  have rounded := (roundUnits_ratio_pos_iff places).mpr large
  refine ⟨_, ?_, rounded.ne', ?_⟩
  · rw [Numeral.toBinary64_plain something, ofRatio_finite false finite]
  · have nearest := isNearest_ofRatio (Nat.pos_of_ne_zero something) places finite
    rwa [ofRatio_finite false finite] at nearest

/-- A numeral that is read as a finite number other than zero has a value in the range. -/
theorem inRange_of_toBinary64 {negative : Bool} {units : Nat} (read : plainNumeral? cs = some x)
    (nearest : x.toBinary64 false = .finite negative units) (counted : units ≠ 0) :
    1 / 2 ^ 1075 < plainValue x ∧ plainValue x < 2 ^ 1024 - 2 ^ 970 := by
  obtain ⟨whole, fraction, rfl, -⟩ := plainNumeral?_some read
  have places : 0 < 10 ^ fraction.length := Nat.pow_pos (by decide)
  have something : (Numeral.mk whole fraction 0).digits ≠ 0 := by
    intro none
    rw [Numeral.toBinary64_zero none] at nearest
    cases nearest
    exact counted rfl
  rw [Numeral.toBinary64_plain something] at nearest
  obtain ⟨finite, rfl, rfl⟩ := ofRatio_eq_finite nearest
  exact ⟨(roundUnits_ratio_pos_iff places).mp (Nat.pos_of_ne_zero counted),
    (roundUnits_ratio_lt_bound_iff places).mp finite⟩

/-! ## Acceptance -/

/-- A text that writes a number in the range is accepted as the number nearest to it. -/
theorem Prices.accepted (prices : Prices text q) :
    ∃ units, parsePrice text = some (.finite false units) ∧ units ≠ 0 ∧
      IsNearest q (.finite false units) := by
  obtain ⟨x, read, rfl⟩ := writesDecimal_iff.mp (writesPrice_iff.mp prices.writes)
  obtain ⟨units, nearest, counted, isNearest⟩ := toBinary64_nearest read prices.large prices.small
  refine ⟨units, ?_, counted, isNearest⟩
  rw [parsePrice_of_numeral read nearest, if_neg counted]

/-- A text that is accepted writes a number in the range. -/
theorem prices_of_accepted (accepted : parsePrice text = some price) : ∃ q, Prices text q := by
  unfold parsePrice at accepted
  split at accepted
  · cases accepted
  · rename_i x read
    split at accepted
    · rename_i negative units nearest
      split at accepted
      · cases accepted
      · rename_i counted
        obtain ⟨large, small⟩ := inRange_of_toBinary64 read nearest counted
        exact ⟨plainValue x, writesPrice_iff.mpr (writesDecimal_iff.mpr ⟨x, read, rfl⟩), large, small⟩
    · cases accepted

/-- A text is accepted as a price exactly if it writes a number in the range; its price is then the number
nearest to what it writes, and it is finite and greater than zero.  Every other text has no price. -/
theorem parsePrice_accepts (text : String) :
    ((∃ price, parsePrice text = some price) ↔ ∃ q, Prices text q) ∧
      (∀ q, Prices text q → ∀ price, parsePrice text = some price ↔ IsNearest q price) ∧
      (∀ price, parsePrice text = some price →
        price.isFinite = true ∧ (Binary64.finite false 0).less price = true) ∧
      (parsePrice text = none ↔ ¬∃ q, Prices text q) := by
  have range : (∃ price, parsePrice text = some price) ↔ ∃ q, Prices text q := by
    constructor
    · rintro ⟨price, accepted⟩
      exact prices_of_accepted accepted
    · rintro ⟨q, prices⟩
      obtain ⟨units, accepted, -⟩ := prices.accepted
      exact ⟨_, accepted⟩
  refine ⟨range, ?_, ?_, ?_⟩
  · intro q prices price
    obtain ⟨units, accepted, counted, nearest⟩ := prices.accepted
    rw [accepted]
    constructor
    · intro same
      cases same
      exact nearest
    · intro other
      have positive : 0 < q := lt_trans (by positivity) prices.large
      rw [nearest.unique positive counted other]
  · intro price accepted
    obtain ⟨units, rfl, counted, -⟩ := parsePrice_some accepted
    refine ⟨rfl, decide_eq_true ?_⟩
    exact Int.natCast_pos.mpr (Nat.pos_of_ne_zero counted)
  · rw [← range, ← Option.not_isSome_iff_eq_none, Option.isSome_iff_exists]

/-- A half, with a plus sign and without a digit before the point. -/
theorem parsePrice_accepts_half : Prices "+.5" (1 / 2) ∧
    IsNearest (1 / 2) (.finite false (2 ^ 1073)) := by
  have value : rowValue ['5'] / 10 ^ 1 = 1 / 2 := by
    change ((5 : Nat) : ℚ) / 10 ^ 1 = 1 / 2
    norm_num
  have writes : WritesPrice "+.5".toList (1 / 2) :=
    value ▸ .plus (.fraction (List.cons_ne_nil _ _) (List.forall_mem_singleton.mpr rfl))
  have large : (1 / 2 ^ 1075 : ℚ) < 1 / 2 := by
    have rounded := (roundUnits_ratio_pos_iff (n := 1) (d := 2) (by decide)).mp (by decide +kernel)
    exact_mod_cast rounded
  have small : (1 / 2 : ℚ) < 2 ^ 1024 - 2 ^ 970 := by
    have finite := (roundUnits_ratio_lt_bound_iff (n := 1) (d := 2) (by decide)).mp (by decide +kernel)
    exact_mod_cast finite
  have prices : Prices "+.5" (1 / 2) := ⟨writes, large, small⟩
  have accepted : parsePrice "+.5" = some (.finite false (2 ^ 1073)) := by decide +kernel
  obtain ⟨-, nearest, -⟩ := parsePrice_accepts "+.5"
  exact ⟨prices, (nearest _ prices _).mp accepted⟩

end Storekeeper
