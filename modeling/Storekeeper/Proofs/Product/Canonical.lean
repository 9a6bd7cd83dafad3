import Mathlib.Data.List.TakeWhile
import Storekeeper.Proofs.Product.Acceptance

/-!
# The canonical text of a price

A price is written as a decimal of its hundredths with nothing in it that could be left out, and no other
decimal of that value is without such characters.

* `IsCanonical`: the decimals of a value without a needless zero, without a point at the end and with at most two
  places; `isCanonical_hundredths_iff` says that a number of hundredths has exactly one.
* `IsRounded`: the integer nearest to a number, the even one of two; `hundredths_isRounded` says that the hundredths
  of a price are the one nearest to its exact value.
* `formatPrice_canonical`: what is written of a price, and of which other prices the same is written.
-/

namespace Storekeeper

open Storekeeper.Text Storekeeper.Decimal Storekeeper.Decimal.Binary64

/-! ## Rows of digits -/

theorem exists_digitChar {c : Char} (digit : c.isDigit = true) : ∃ d, d < 10 ∧ c = Nat.digitChar d := by
  have bounds : 48 ≤ c.toNat ∧ c.toNat ≤ 57 := by
    simpa [Char.isDigit, UInt32.le_iff_toNat_le] using digit
  have small : c.toNat - 48 < 10 := by omega
  refine ⟨c.toNat - 48, small, Char.toNat_inj.mp ?_⟩
  rw [Nat.toNat_digitChar_of_lt_ten small]
  omega

/-- The value of a row grows with each digit after it. -/
theorem ofDigitChars_concat (row : List Char) {d : Nat} (small : d < 10) :
    Nat.ofDigitChars 10 (row ++ [Nat.digitChar d]) 0 = 10 * Nat.ofDigitChars 10 row 0 + d := by
  rw [Nat.ofDigitChars_append, Nat.ofDigitChars_cons_digitChar_of_lt_ten small, Nat.ofDigitChars_nil]

/-- A row of digits that begins with no needless zero is the row of its value. -/
theorem toDigits_ofDigitChars {row : List Char} (given : row ≠ []) (digits : ∀ c ∈ row, c.isDigit = true)
    (noZero : row.head? = some '0' → row = ['0']) :
    Nat.toDigits 10 (Nat.ofDigitChars 10 row 0) = row := by
  induction row using List.reverseRecOn with
  | nil => exact absurd rfl given
  | append_singleton front c ih =>
    obtain ⟨d, small, rfl⟩ := exists_digitChar (digits c (List.mem_append_right _ (List.mem_singleton_self c)))
    rw [ofDigitChars_concat front small]
    rcases eq_or_ne front [] with rfl | some
    · rw [Nat.ofDigitChars_nil, Nat.mul_zero, Nat.zero_add, Nat.toDigits_of_lt_base small, List.nil_append]
    · have longer : front.head? ≠ Option.some '0' := by
        intro zero
        have alone := noZero (by rw [List.head?_append_of_ne_nil _ some, zero])
        have length := congrArg List.length alone
        rw [List.length_append, List.length_singleton, List.length_singleton] at length
        exact some (List.length_eq_zero_iff.mp (by omega))
      have before := ih some (fun c member => digits c (List.mem_append_left _ member))
        (fun zero => absurd zero longer)
      have positive : 0 < Nat.ofDigitChars 10 front 0 := by
        refine Nat.pos_of_ne_zero fun nothing => longer ?_
        rw [nothing] at before
        rw [← before]
        rfl
      rw [← Nat.toDigits_append_toDigits (by decide) positive small, before, Nat.toDigits_of_lt_base small]

/-- The digits of a number begin with a zero only if it is zero. -/
theorem toDigits_noZero (n : Nat) (zero : (Nat.toDigits 10 n).head? = some '0') :
    Nat.toDigits 10 n = ['0'] := by
  induction n using Nat.strongRecOn with
  | ind n ih =>
    rcases Nat.lt_or_ge n 10 with small | large
    · rw [Nat.toDigits_of_lt_base small] at zero ⊢
      rw [Option.some.inj zero]
    · rw [Nat.toDigits_of_base_le (by decide) large, List.head?_append_of_ne_nil _ Nat.toDigits_ne_nil] at zero
      have front := ih (n / 10) (by omega) zero
      have value := congrArg (fun row => Nat.ofDigitChars 10 row 0) front
      simp only [Nat.ofDigitChars_ten_toDigits] at value
      have none : n / 10 = 0 := value
      omega

/-! ## Decimals with nothing needless in them -/

/-- The characters before the point. -/
def wholePart (cs : List Char) : List Char :=
  cs.takeWhile (· != '.')

/-- The characters after the point. -/
def fractionPart (cs : List Char) : List Char :=
  (cs.dropWhile (· != '.')).tail

/-- The text is a decimal of a value: digits and at most one point, no sign and no exponent.  It has a digit before
the point and at most two after it, and no zero and no point could be left out. -/
structure IsCanonical (text : String) (q : ℚ) : Prop where
  writes : WritesDecimal text.toList q
  whole : wholePart text.toList ≠ []
  noLeadingZero : (wholePart text.toList).head? = some '0' → wholePart text.toList = ['0']
  twoPlaces : (fractionPart text.toList).length ≤ 2
  noTrailingZero : (fractionPart text.toList).getLast? ≠ some '0'
  noTrailingPoint : text.toList.getLast? ≠ some '.'

section Parts

variable {whole fraction : List Char} {text : String} {q : ℚ} {n : ℕ}

theorem wholePart_row (digits : ∀ c ∈ whole, c.isDigit = true) : wholePart whole = whole :=
  List.takeWhile_eq_self_iff.mpr fun c member => bne_iff_ne.mpr (ne_point (digits c member))

theorem fractionPart_row (digits : ∀ c ∈ whole, c.isDigit = true) : fractionPart whole = [] := by
  unfold fractionPart
  rw [List.dropWhile_eq_nil_iff.mpr fun c member => bne_iff_ne.mpr (ne_point (digits c member))]
  rfl

theorem wholePart_point (digits : ∀ c ∈ whole, c.isDigit = true) (fraction : List Char) :
    wholePart (whole ++ '.' :: fraction) = whole := by
  unfold wholePart
  rw [List.takeWhile_append_of_pos fun c member => bne_iff_ne.mpr (ne_point (digits c member))]
  exact List.append_nil whole

theorem fractionPart_point (digits : ∀ c ∈ whole, c.isDigit = true) (fraction : List Char) :
    fractionPart (whole ++ '.' :: fraction) = fraction := by
  unfold fractionPart
  rw [List.dropWhile_append_of_pos fun c member => bne_iff_ne.mpr (ne_point (digits c member))]
  rfl

theorem wholePart_pointed (digits : ∀ c ∈ whole, c.isDigit = true) (fraction : List Char) :
    wholePart (pointed whole fraction) = whole := by
  unfold pointed
  split
  · rw [List.append_nil, wholePart_row digits]
  · exact wholePart_point digits fraction

theorem fractionPart_pointed (digits : ∀ c ∈ whole, c.isDigit = true) (fraction : List Char) :
    fractionPart (pointed whole fraction) = fraction := by
  unfold pointed
  split
  · rename_i none
    rw [List.append_nil, fractionPart_row digits, none]
  · exact fractionPart_point digits fraction

/-- The digits of a canonical decimal, and what they are worth. -/
theorem IsCanonical.parts (canonical : IsCanonical text q) : ∃ whole fraction,
    text.toList = pointed whole fraction ∧ (∀ c ∈ whole, c.isDigit = true) ∧
      (∀ c ∈ fraction, c.isDigit = true) ∧
      q = rowValue whole + rowValue fraction / 10 ^ fraction.length := by
  obtain ⟨writes, given, -, -, -, noPoint⟩ := canonical
  generalize text.toList = cs at writes given noPoint
  cases writes with
  | whole _ digits =>
    refine ⟨cs, [], (List.append_nil cs).symm, digits, List.forall_mem_nil _, ?_⟩
    rw [rowValue_nil, zero_div, add_zero]
  | @point row fraction _ before after =>
    have places : fraction ≠ [] := by
      rintro rfl
      exact noPoint List.getLast?_concat
    refine ⟨row, fraction, ?_, before, after, rfl⟩
    unfold pointed
    rw [if_neg places]
  | fraction _ _ => exact absurd rfl given

/-- At most two places without a zero at their end are those that are kept of some hundredths. -/
theorem places_unique (digits : ∀ c ∈ fraction, c.isDigit = true) (short : fraction.length ≤ 2)
    (noZero : fraction.getLast? ≠ some '0') : ∃ h : ℕ, h < 100 ∧
      rowValue fraction / 10 ^ fraction.length = (h : ℚ) / 100 ∧
      ∀ n : ℕ, n % 100 = h → fraction = places n := by
  rcases fraction with _ | ⟨c, _ | ⟨e, _ | ⟨_, _⟩⟩⟩
  · refine ⟨0, by decide, by simp [rowValue_nil], fun n same => ?_⟩
    unfold places
    rw [if_pos same]
  · obtain ⟨d, small, rfl⟩ := exists_digitChar (digits c (List.mem_singleton_self c))
    have some : d ≠ 0 := fun none => noZero (by simp [none])
    refine ⟨10 * d, by omega, ?_, fun n same => ?_⟩
    · have value : rowValue [Nat.digitChar d] = d := by
        unfold rowValue
        rw [Nat.ofDigitChars_cons_digitChar_of_lt_ten small, Nat.ofDigitChars_nil, Nat.mul_zero, Nat.zero_add]
      rw [value]
      push_cast
      rw [List.length_singleton, pow_one]
      ring
    · have tenths : n / 10 % 10 = d := by omega
      unfold places
      rw [if_neg (by omega), if_pos (by omega), tenths]
  · obtain ⟨d, small, rfl⟩ := exists_digitChar (digits c (List.mem_cons_self ..))
    obtain ⟨last, smallLast, rfl⟩ := exists_digitChar (digits e (by simp))
    have some : last ≠ 0 := fun none => noZero (by simp [none])
    refine ⟨10 * d + last, by omega, ?_, fun n same => ?_⟩
    · have value : rowValue [Nat.digitChar d, Nat.digitChar last] = (10 * d + last : ℕ) := by
        unfold rowValue
        rw [Nat.ofDigitChars_cons_digitChar_of_lt_ten small,
          Nat.ofDigitChars_cons_digitChar_of_lt_ten smallLast, Nat.ofDigitChars_nil, Nat.mul_zero, Nat.zero_add]
      rw [value]
      norm_num
    · have tenths : n / 10 % 10 = d := by omega
      have hundredth : n % 10 = last := by omega
      unfold places
      rw [if_neg (by omega), if_neg (by omega), tenths, hundredth]
  · simp at short

/-- The places that are kept of some hundredths do not end with a zero. -/
theorem places_noTrailingZero (n : ℕ) : (places n).getLast? ≠ some '0' := by
  unfold places
  split
  · simp
  · split
    · have tenths : n / 10 % 10 ≠ 0 := by omega
      simpa using tenths
    · simpa

theorem places_length (n : ℕ) : (places n).length ≤ 2 := by
  obtain ⟨k, count, -⟩ := places_value n
  omega

/-- The digits of some hundredths, with a point between them, are a decimal of as many. -/
theorem writesDecimal_hundredths (n : ℕ) :
    WritesDecimal (pointed (Nat.toDigits 10 (n / 100)) (places n)) ((n : ℚ) / 100) := by
  refine writesDecimal_iff.mpr ⟨written n,
    plainNumeral?_pointed Nat.toDigits_ne_nil (toDigits_digits _) (places_digits n), ?_⟩
  obtain ⟨k, count, value⟩ := written_digits n
  have hundred : (10 : ℚ) ^ (places n).length * 10 ^ k = 100 := by
    rw [← pow_add, count]
    norm_num
  have shift : (10 : ℚ) ^ k ≠ 0 := by positivity
  have sum : (n : ℚ) = (written n).digits * 10 ^ k := by exact_mod_cast value.symm
  have worth : plainValue (written n) = (written n).digits / 10 ^ (places n).length := by
    unfold plainValue
    rw [Nat.cast_pow]
    rfl
  rw [worth, sum, ← hundred, mul_div_mul_right _ _ shift]

/-- **One text for each number of hundredths.**  A number of hundredths has exactly one canonical decimal. -/
theorem isCanonical_hundredths_iff : IsCanonical text ((n : ℚ) / 100) ↔
    text.toList = pointed (Nat.toDigits 10 (n / 100)) (places n) := by
  constructor
  · intro canonical
    obtain ⟨whole, fraction, shape, before, after, value⟩ := canonical.parts
    obtain ⟨-, given, noZero, short, noTrailing, -⟩ := canonical
    rw [shape, wholePart_pointed before] at given noZero
    rw [shape, fractionPart_pointed before] at short noTrailing
    obtain ⟨h, small, worth, unique⟩ := places_unique after short noTrailing
    have sum : n = 100 * Nat.ofDigitChars 10 whole 0 + h := by
      have scaled : (n : ℚ) = 100 * Nat.ofDigitChars 10 whole 0 + h := by
        rw [worth] at value
        unfold rowValue at value
        linarith
      exact_mod_cast scaled
    have front : n / 100 = Nat.ofDigitChars 10 whole 0 := by omega
    rw [shape, front, toDigits_ofDigitChars given before noZero, ← unique n (by omega)]
  · intro shape
    have digits := toDigits_digits (n / 100)
    refine ⟨?_, ?_, ?_, ?_, ?_, ?_⟩
    · rw [shape]
      exact writesDecimal_hundredths n
    · rw [shape, wholePart_pointed digits]
      exact Nat.toDigits_ne_nil
    · rw [shape, wholePart_pointed digits]
      exact toDigits_noZero (n / 100)
    · rw [shape, fractionPart_pointed digits]
      exact places_length n
    · rw [shape, fractionPart_pointed digits]
      exact places_noTrailingZero n
    · intro point
      rw [shape] at point
      unfold pointed at point
      split at point
      · rw [List.append_nil] at point
        exact ne_point (digits '.' (List.mem_of_getLast? point)) rfl
      · rename_i some
        rw [List.getLast?_append_of_ne_nil _ (List.cons_ne_nil _ _), List.getLast?_cons_of_ne_nil some] at point
        exact ne_point (places_digits n '.' (List.mem_of_getLast? point)) rfl

end Parts

/-! ## The nearest number of hundredths -/

/-- The integer is nearest to a number; if another is equally near, this one is even. -/
structure IsRounded (q : ℚ) (n : ℕ) : Prop where
  near : |(n : ℚ) - q| ≤ 1 / 2
  even : |(n : ℚ) - q| = 1 / 2 → Even n

section Rounded

variable {q : ℚ} {n m units : ℕ}

/-- Of two integers that are both nearest neither is the lower one. -/
theorem IsRounded.not_lt (low : IsRounded q n) (high : IsRounded q m) : ¬n < m := by
  intro less
  have lowNear := abs_le.mp low.near
  have highNear := abs_le.mp high.near
  have step : (n : ℚ) + 1 ≤ m := by exact_mod_cast less
  -- both are half a step away, so that they are neighbours and both even
  have below : (n : ℚ) - q = -(1 / 2) := by linarith
  have above : (m : ℚ) - q = 1 / 2 := by linarith
  have lowEven : Even n := low.even (by rw [below, abs_neg, abs_of_pos (by norm_num)])
  have highEven : Even m := high.even (by rw [above, abs_of_pos (by norm_num)])
  have next : m = n + 1 := by
    have sum : (m : ℚ) = n + 1 := by linarith
    exact_mod_cast sum
  rw [next] at highEven
  exact Nat.not_even_iff_odd.mpr lowEven.add_one highEven

theorem IsRounded.unique (one : IsRounded q n) (two : IsRounded q m) : n = m :=
  Nat.le_antisymm (Nat.not_lt.mp (two.not_lt one)) (Nat.not_lt.mp (one.not_lt two))

/-- The hundredths of a number of units are its exact value times a hundred, rounded. -/
theorem hundredths_isRounded (units : ℕ) : IsRounded (100 * value false units) (hundredths units) := by
  have exactly : 100 * value false units = ((100 * units : ℕ) : ℚ) / one := by
    rw [value_false]
    push_cast
    ring
  rw [exactly]
  exact ⟨abs_roundDiv_sub_le _ zero_lt_units, even_roundDiv zero_lt_units⟩

end Rounded

/-! ## The text of a price -/

/-- The number is finite and has an exact value. -/
inductive Denotes : Binary64 → ℚ → Prop
  | finite {negative : Bool} {units : ℕ} : Denotes (.finite negative units) (value negative units)

/-- A number with a positive value is so many units, without a sign. -/
theorem Denotes.units {price : Binary64} {q : ℚ} (denotes : Denotes price q) (positive : 0 < q) :
    ∃ units, price = .finite false units ∧ q = value false units := by
  cases denotes with
  | @finite negative units =>
    cases negative with
    | false => exact ⟨units, rfl, rfl⟩
    | true =>
      rw [value_true] at positive
      have size : (0 : ℚ) ≤ units / one := div_nonneg (Nat.cast_nonneg _) Binary64.one_pos.le
      linarith

/-- What is written of a price is the canonical decimal of its hundredths. -/
theorem isCanonical_formatPrice_iff {text : String} (units : ℕ) :
    IsCanonical text ((hundredths units : ℚ) / 100) ↔ text = formatPrice (.finite false units) := by
  rw [isCanonical_hundredths_iff, ← formatPriceChars_eq]
  unfold formatPrice
  rw [← String.toList_inj, String.toList_ofList]

/-- Dropping the last zeros and the point leaves the digits before the point. -/
theorem wholePart_formatPriceChars (units : ℕ) :
    wholePart (formatPriceChars (.finite false units)) = wholePart (Binary64.finite false units).twoPlaces := by
  have digits := toDigits_digits (hundredths units / 100)
  rw [formatPriceChars_eq, wholePart_pointed digits]
  exact (wholePart_point digits _).symm

/-- **The canonical text of a price.**  Let `n` be the integer nearest to a hundred times the exact value of a price,
the even one of two.  What is written of the price is the one canonical decimal of `n` hundredths; the same is
written of exactly those prices for which this integer is the same; and dropping the last zeros of the decimal with
two places never takes a digit from before its point. -/
theorem formatPrice_canonical {price : Binary64} {q : ℚ} (denotes : Denotes price q) (positive : 0 < q) :
    ∃ n : ℕ, (∀ m, IsRounded (100 * q) m ↔ m = n) ∧
      (∀ text, IsCanonical text ((n : ℚ) / 100) ↔ text = formatPrice price) ∧
      (∀ other r m, Denotes other r → 0 < r → IsRounded (100 * r) m →
        (formatPrice other = formatPrice price ↔ m = n)) ∧
      wholePart (formatPrice price).toList = wholePart price.twoPlaces := by
  obtain ⟨units, rfl, rfl⟩ := denotes.units positive
  refine ⟨hundredths units, fun m => ?_, fun text => isCanonical_formatPrice_iff units, ?_, ?_⟩
  · constructor
    · exact fun rounded => rounded.unique (hundredths_isRounded units)
    · exact fun same => same ▸ hundredths_isRounded units
  · intro other r m denotes' positive' rounded
    obtain ⟨units', rfl, rfl⟩ := denotes'.units positive'
    have nearest : m = hundredths units' := rounded.unique (hundredths_isRounded units')
    rw [nearest]
    constructor
    · intro same
      have mine := (isCanonical_formatPrice_iff units).mpr rfl
      have others := (isCanonical_formatPrice_iff units').mpr same.symm
      have equal := (WritesPrice.unsigned others.writes).unique (.unsigned mine.writes)
      have hundred : (hundredths units' : ℚ) = hundredths units := by linarith
      exact_mod_cast hundred
    · intro same
      exact (isCanonical_formatPrice_iff units).mp (same ▸ (isCanonical_formatPrice_iff units').mpr rfl)
  · unfold formatPrice
    rw [String.toList_ofList]
    exact wholePart_formatPriceChars units

/-- A hundred and an eighth lies halfway between two hundredths, and the zeros before its point stay. -/
theorem formatPrice_canonical_halfway :
    Denotes (.finite false (801 * 2 ^ 1071)) (801 / 8) ∧ (0 : ℚ) < 801 / 8 ∧
      IsRounded (100 * (801 / 8)) 10012 ∧ IsCanonical "100.12" (10012 / 100) := by
  have exactly : value false (801 * 2 ^ 1071) = 801 / 8 := by
    have eighth : (one : ℚ) = 8 * 2 ^ 1071 := by
      rw [one_eq]
      exact pow_add 2 3 1071
    have some : (2 : ℚ) ^ 1071 ≠ 0 := by positivity
    rw [value_false, eighth, Nat.cast_mul, Nat.cast_pow]
    exact mul_div_mul_right _ _ some
  have denotes : Denotes (.finite false (801 * 2 ^ 1071)) (801 / 8) := exactly ▸ .finite
  have positive : (0 : ℚ) < 801 / 8 := by norm_num
  have rounded : IsRounded (100 * (801 / 8)) 10012 := by
    constructor
    · norm_num [abs_le]
    · exact fun _ => by decide
  have text : "100.12" = formatPrice (.finite false (801 * 2 ^ 1071)) := by decide +kernel
  obtain ⟨n, nearest, canonical, -⟩ := formatPrice_canonical denotes positive
  obtain rfl := (nearest 10012).mp rounded
  exact ⟨denotes, positive, rounded, by exact_mod_cast (canonical "100.12").mpr text⟩

end Storekeeper
