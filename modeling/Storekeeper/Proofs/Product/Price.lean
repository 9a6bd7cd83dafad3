import Storekeeper.Product.Price
import Storekeeper.Proofs.Decimal.Numeral

/-!
# Prices written and read again

A price is written as the number of hundredths nearest to it, with as many places as it needs, and what
is written is read as the binary number nearest to so many hundredths.

* `formatPriceChars_eq`: the digits before the point, and after it those that are left without the last
  zeros.
* `roundUnits_hundredths_lt` and `roundUnits_hundredths_pos`: the number nearest to the hundredths of a
  price is finite, and it is zero only if there are none.
* `parsePrice_formatPrice`: what is written of an accepted price of more than half a hundredth is
  accepted again.
* `formatPrice_zero`: of any other accepted price a zero is written, which is not accepted.
-/

namespace Storekeeper

open Storekeeper.Text Storekeeper.Decimal Storekeeper.Decimal.Binary64

/-! ## What is written -/

/-- The places after the point that are not dropped. -/
def places (n : Nat) : List Char :=
  if n % 100 = 0 then []
  else if n % 10 = 0 then [Nat.digitChar (n / 10 % 10)]
  else [Nat.digitChar (n / 10 % 10), Nat.digitChar (n % 10)]

theorem digitChar_isDigit {n : Nat} (small : n < 10) : (Nat.digitChar n).isDigit = true := by
  rw [Nat.isDigit_digitChar]
  exact decide_eq_true small

theorem digitChar_eq_zero_iff {n : Nat} (small : n < 10) : Nat.digitChar n = '0' ↔ n = 0 := by
  constructor
  · intro same
    have value := Nat.toNat_digitChar_sub_48_of_lt_ten small
    rw [same] at value
    exact value.symm
  · rintro rfl
    rfl

theorem places_digits (n : Nat) : ∀ c ∈ places n, c.isDigit = true := by
  have tenths : (Nat.digitChar (n / 10 % 10)).isDigit = true :=
    digitChar_isDigit (Nat.mod_lt _ (by decide))
  have last : (Nat.digitChar (n % 10)).isDigit = true :=
    digitChar_isDigit (Nat.mod_lt _ (by decide))
  intro c member
  unfold places at member
  split at member
  · cases member
  · split at member
    · rw [List.mem_singleton] at member
      rw [member]
      exact tenths
    · simp only [List.mem_cons, List.not_mem_nil, or_false] at member
      rcases member with rfl | rfl
      · exact tenths
      · exact last

/-- The places that are kept are worth as many hundredths as all of them. -/
theorem places_value (n : Nat) : ∃ k, (places n).length + k = 2 ∧
    Nat.ofDigitChars 10 (places n) 0 * 10 ^ k = n % 100 := by
  have tenths := Nat.toNat_digitChar_sub_48_of_lt_ten (Nat.mod_lt (n / 10) (by decide : 0 < 10))
  have last := Nat.toNat_digitChar_sub_48_of_lt_ten (Nat.mod_lt n (by decide : 0 < 10))
  have zero : '0'.toNat = 48 := rfl
  unfold places
  split
  · exact ⟨2, rfl, by simp; omega⟩
  · split
    · refine ⟨1, rfl, ?_⟩
      rw [Nat.ofDigitChars_cons, Nat.ofDigitChars_nil, zero, tenths]
      omega
    · refine ⟨0, rfl, ?_⟩
      rw [Nat.ofDigitChars_cons, Nat.ofDigitChars_cons, Nat.ofDigitChars_nil, zero, tenths, last]
      omega

theorem toDigits_digits (n : Nat) : ∀ c ∈ Nat.toDigits 10 n, c.isDigit = true :=
  fun _ member => Nat.isDigit_of_mem_toDigits (by decide) (by decide) member

theorem ne_point {c : Char} (digit : c.isDigit = true) : c ≠ '.' := by
  rintro rfl
  exact absurd digit (by decide)

/-- A row of digits has no point to drop. -/
theorem dropPoints_digits {row : List Char} (digits : ∀ c ∈ row, c.isDigit = true) :
    row.dropWhile (· == '.') = row := by
  cases row with
  | nil => rfl
  | cons c row =>
    have first : c ≠ '.' := ne_point (digits c (List.mem_cons_self ..))
    exact List.dropWhile_cons_of_neg (by simpa using first)

theorem formatPriceChars_eq (units : Nat) :
    formatPriceChars (.finite false units) =
      pointed (Nat.toDigits 10 (hundredths units / 100)) (places (hundredths units)) := by
  generalize counted : hundredths units = n
  have backwards : (Binary64.finite false units).twoPlaces.reverse =
      Nat.digitChar (n % 10) :: Nat.digitChar (n / 10 % 10) :: '.' ::
        (Nat.toDigits 10 (n / 100)).reverse := by
    simp [twoPlaces, hundredthsChars, counted]
  have whole : ((Nat.toDigits 10 (n / 100)).reverse.dropWhile (· == '.')).reverse =
      Nat.toDigits 10 (n / 100) := by
    rw [dropPoints_digits fun c member => toDigits_digits _ c (List.mem_reverse.mp member),
      List.reverse_reverse]
  have tenths := digitChar_eq_zero_iff (Nat.mod_lt (n / 10) (by decide : 0 < 10))
  have last := digitChar_eq_zero_iff (Nat.mod_lt n (by decide : 0 < 10))
  have tenthsDigit : Nat.digitChar (n / 10 % 10) ≠ '.' :=
    ne_point (digitChar_isDigit (Nat.mod_lt _ (by decide)))
  have lastDigit : Nat.digitChar (n % 10) ≠ '.' :=
    ne_point (digitChar_isDigit (Nat.mod_lt _ (by decide)))
  unfold formatPriceChars places pointed
  rw [backwards]
  by_cases noLast : n % 10 = 0
  · by_cases noTenths : n / 10 % 10 = 0
    · have none : n % 100 = 0 := by omega
      simp [last.mpr noLast, tenths.mpr noTenths, none, whole]
    · have some : n % 100 ≠ 0 := by omega
      have kept : Nat.digitChar (n / 10 % 10) ≠ '0' := fun same => noTenths (tenths.mp same)
      simp [kept, some, noLast, tenthsDigit]
  · have some : n % 100 ≠ 0 := by omega
    have kept : Nat.digitChar (n % 10) ≠ '0' := fun same => noLast (last.mp same)
    simp [kept, some, noLast, lastDigit]

/-! ## What is read of it -/

/-- The numeral that is written for so many hundredths. -/
def written (n : Nat) : Numeral :=
  ⟨Nat.toDigits 10 (n / 100), places n, 0⟩

theorem written_digits (n : Nat) :
    ∃ k, (places n).length + k = 2 ∧ (written n).digits * 10 ^ k = n := by
  obtain ⟨k, count, value⟩ := places_value n
  refine ⟨k, count, ?_⟩
  calc (written n).digits * 10 ^ k
      = n / 100 * (10 ^ (places n).length * 10 ^ k) +
          Nat.ofDigitChars 10 (places n) 0 * 10 ^ k := by
        unfold written
        rw [digits_plain (toDigits_digits _) (places_digits n), Nat.ofDigitChars_ten_toDigits,
          Nat.add_mul, Nat.mul_assoc]
    _ = n / 100 * 100 + n % 100 := by rw [← Nat.pow_add, count, value]
    _ = n := Nat.div_add_mod' n 100

theorem written_digits_eq_zero_iff (n : Nat) : (written n).digits = 0 ↔ n = 0 := by
  obtain ⟨k, -, value⟩ := written_digits n
  have positive : 0 < 10 ^ k := Nat.pow_pos (by decide)
  constructor
  · intro none
    rw [← value, none, Nat.zero_mul]
  · intro none
    rw [none] at value ⊢
    exact (Nat.mul_eq_zero.mp value).resolve_right (Nat.ne_of_gt positive)

/-- What is written for some hundredths stands for the number nearest to so many. -/
theorem toBinary64_written {n : Nat} (some : n ≠ 0) :
    (written n).toBinary64 false = .ofRatio false n 100 := by
  obtain ⟨k, count, value⟩ := written_digits n
  have positive : 0 < 10 ^ k := Nat.pow_pos (by decide)
  have hundred : 10 ^ (places n).length * 10 ^ k = 100 := by rw [← Nat.pow_add, count]
  have expanded : roundUnits (n * one) 100 =
      roundUnits ((written n).digits * one) (10 ^ (places n).length) := by
    calc roundUnits (n * one) 100
        = roundUnits ((written n).digits * one * 10 ^ k) (10 ^ (places n).length * 10 ^ k) := by
          rw [hundred, Nat.mul_right_comm, value]
      _ = roundUnits ((written n).digits * one) (10 ^ (places n).length) :=
          roundUnits_expand _ _ positive
  have plain := Numeral.toBinary64_plain fun none => some ((written_digits_eq_zero_iff n).mp none)
  unfold written at plain expanded ⊢
  rw [plain]
  unfold ofRatio ofUnits
  rw [expanded]

theorem dropPlus_pointed {whole : List Char} (fraction : List Char) (given : whole ≠ [])
    (digits : ∀ c ∈ whole, c.isDigit = true) :
    dropPlus (pointed whole fraction) = pointed whole fraction := by
  cases whole with
  | nil => exact absurd rfl given
  | cons c rest =>
    have digit : c.isDigit = true := digits c (List.mem_cons_self ..)
    have noPlus : c ≠ '+' := by
      rintro rfl
      exact absurd digit (by decide)
    unfold pointed dropPlus
    split
    · rename_i same
      cases same
      exact absurd rfl noPlus
    · rfl

/-- What is written of a price is read as the numeral that it was written as. -/
theorem plainNumeral?_formatPriceChars (units : Nat) :
    plainNumeral? (dropPlus (formatPriceChars (.finite false units))) =
      some (written (hundredths units)) := by
  have whole := toDigits_digits (hundredths units / 100)
  rw [formatPriceChars_eq, dropPlus_pointed _ Nat.toDigits_ne_nil whole,
    plainNumeral?_pointed Nat.toDigits_ne_nil whole (places_digits _)]
  rfl

/-! ## The hundredths of a price -/

theorem hundredths_eq_zero_iff (units : Nat) : hundredths units = 0 ↔ 200 * units ≤ one := by
  unfold hundredths
  rw [roundDiv_eq_zero_iff _ zero_lt_units, ← Nat.mul_assoc]

/-- A whole number is its hundredths. -/
theorem hundredths_whole (m : Nat) : hundredths (m * one) = 100 * m := by
  unfold hundredths
  rw [← Nat.mul_assoc]
  exact roundDiv_mul _ zero_lt_units

/-- The number nearest to the hundredths of a representable number is finite. -/
theorem roundUnits_hundredths_lt {units : Nat} (held : Representable units) :
    roundUnits (hundredths units * one) 100 < bound := by
  obtain ⟨onGrid, finite⟩ := held
  by_cases whole : one ∣ units
  · -- A whole number is read as itself.
    obtain ⟨m, same⟩ := whole
    have hundred : hundredths units * one = units * 100 := by
      rw [same, Nat.mul_comm one m, hundredths_whole, Nat.mul_comm 100 m, Nat.mul_right_comm]
    rw [hundred, roundUnits_exact (by decide) onGrid]
    exact finite
  · -- A number with a fraction is far below the bound.
    have fine : spacing units < 1074 := by
      rcases Nat.lt_or_ge (spacing units) 1074 with fine | coarse
      · exact fine
      · exact absurd (Nat.dvd_trans (one_dvd coarse) onGrid) whole
    have small : units < 2 ^ 1126 := by
      have log : Nat.log2 units < 1126 := by
        unfold spacing at fine
        omega
      exact Nat.lt_of_lt_of_le Nat.lt_log2_self (Nat.pow_le_pow_right (by decide) log)
    have near : hundredths units * one ≤ 100 * units + one := by
      calc hundredths units * one
          ≤ (100 * units / one + 1) * one := Nat.mul_le_mul_right _ (roundDiv_le _ _)
        _ = 100 * units / one * one + one := by rw [Nat.add_mul, Nat.one_mul]
        _ ≤ 100 * units + one := Nat.add_le_add_right (Nat.div_mul_le_self ..) _
    have unit : one ≤ 2 ^ 1126 := one_le_two_pow (by decide)
    have quotient : hundredths units * one / 100 < 2 ^ (1126 + 1) := by
      rw [Nat.pow_succ]
      omega
    exact lt_bound (roundUnits_lt quotient) (by decide)

/-- Some hundredths are not read as zero. -/
theorem roundUnits_hundredths_pos {units : Nat} (counted : hundredths units ≠ 0) :
    0 < roundUnits (hundredths units * one) 100 := by
  have hundred : 100 ≤ one := Nat.le_trans (by decide : 100 ≤ 2 ^ 7) (two_pow_le_one (by decide))
  exact roundUnits_pos (by decide)
    (Nat.le_trans hundred (Nat.le_mul_of_pos_left _ (Nat.pos_of_ne_zero counted)))

/-! ## Prices that are accepted -/

/-- The number is more than half a hundredth. -/
def HasHundredths : Binary64 → Prop
  | .finite negative units => negative = false ∧ one < 200 * units
  | _ => False

instance : DecidablePred HasHundredths
  | .finite negative units => inferInstanceAs (Decidable (negative = false ∧ one < 200 * units))
  | .infinite _ => inferInstanceAs (Decidable False)
  | .nan => inferInstanceAs (Decidable False)

/-- The number nearest to the hundredths of a number. -/
def toHundredths : Binary64 → Binary64
  | .finite negative units => .ofRatio negative (hundredths units) 100
  | x => x

theorem parsePrice_of_numeral {value : String} {numeral : Numeral} {units : Nat}
    (read : plainNumeral? (dropPlus value.toList) = some numeral)
    (nearest : numeral.toBinary64 false = .finite false units) :
    parsePrice value = if units = 0 then none else some (.finite false units) := by
  unfold parsePrice
  rw [read]
  dsimp only
  rw [nearest]

/-- An accepted price is a finite number greater than zero. -/
theorem parsePrice_some {value : String} {price : Binary64} (parsed : parsePrice value = some price) :
    ∃ units, price = .finite false units ∧ units ≠ 0 ∧ Representable units := by
  unfold parsePrice at parsed
  cases read : plainNumeral? (dropPlus value.toList) with
  | none =>
    rw [read] at parsed
    cases parsed
  | some numeral =>
    rw [read] at parsed
    dsimp only at parsed
    split at parsed
    · rename_i sign units nearest
      split at parsed
      · cases parsed
      · rename_i something
        cases parsed
        have held := Numeral.toBinary64_representable nearest
        exact ⟨units, rfl, something, held.resolve_left something⟩
    · cases parsed

theorem hasHundredths_iff (units : Nat) :
    HasHundredths (.finite false units) ↔ hundredths units ≠ 0 := by
  rw [Ne, hundredths_eq_zero_iff, Nat.not_le]
  exact and_iff_right rfl

/-- What is written of an accepted price of more than half a hundredth is accepted again, as the number
nearest to the hundredths of the price. -/
theorem parsePrice_formatPrice {value : String} {price : Binary64}
    (parsed : parsePrice value = some price) (has : HasHundredths price) :
    parsePrice (formatPrice price) = some (toHundredths price) := by
  obtain ⟨units, rfl, -, held⟩ := parsePrice_some parsed
  have counted : hundredths units ≠ 0 := (hasHundredths_iff units).mp has
  have read : plainNumeral? (dropPlus (formatPrice (.finite false units)).toList) =
      some (written (hundredths units)) := by
    unfold formatPrice
    rw [String.toList_ofList, plainNumeral?_formatPriceChars]
  have nearest := ofRatio_finite false (roundUnits_hundredths_lt held)
  have meant := toBinary64_written counted
  rw [nearest] at meant
  rw [parsePrice_of_numeral read meant, if_neg (Nat.ne_of_gt (roundUnits_hundredths_pos counted))]
  exact congrArg some nearest.symm

/-- Of any other accepted price a zero is written. -/
theorem formatPrice_zero {value : String} {price : Binary64}
    (parsed : parsePrice value = some price) (hasNone : ¬HasHundredths price) :
    formatPrice price = "0" := by
  obtain ⟨units, rfl, -, -⟩ := parsePrice_some parsed
  have nothing : hundredths units = 0 :=
    Decidable.byContradiction fun counted => hasNone ((hasHundredths_iff units).mpr counted)
  unfold formatPrice
  rw [formatPriceChars_eq, nothing]
  rfl

theorem parsePrice_zero : parsePrice "0" = none := by
  decide +kernel

end Storekeeper
