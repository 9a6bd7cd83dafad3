import Storekeeper.Decimal.Numeral
import Storekeeper.Proofs.Decimal.Rounding

/-!
# Numerals that are written and read

A row of digits is read as the library reads it, so that what is written with a point is read back as
the quotient that it was written for.

* `plainNumeral?_pointed`: digits with a point between them are read apart again.
* `Numeral.toBinary64_plain`: a numeral without an exponent is the number nearest to its digits divided
  by a power of ten.
-/

namespace Storekeeper.Text

/-! ## Rows of digits -/

theorem isAsciiDigit_iff {c : Char} : isAsciiDigit c = true ↔ c.isDigit = true := by
  unfold isAsciiDigit Char.isDigit
  simp only [decide_eq_true_eq, Bool.and_eq_true, ge_iff_le]
  exact Iff.rfl

theorem asciiDigit?_of_isDigit {c : Char} (digit : c.isDigit = true) :
    asciiDigit? c = some (c.toNat - '0'.toNat) := by
  have inside : '0' ≤ c ∧ c ≤ '9' := by simpa [isAsciiDigit] using isAsciiDigit_iff.mpr digit
  exact if_pos inside

/-- A row of digits is read as the library reads it. -/
theorem ofDigits_eq {row : List Char} (digits : ∀ c ∈ row, c.isDigit = true) :
    ofDigits (row.filterMap asciiDigit?) = Nat.ofDigitChars 10 row 0 := by
  suffices every : ∀ start, (row.filterMap asciiDigit?).foldl (fun value digit => 10 * value + digit)
      start = Nat.ofDigitChars 10 row start from every 0
  induction row with
  | nil => intro start; rfl
  | cons c row ih =>
    intro start
    have first : asciiDigit? c = some (c.toNat - '0'.toNat) :=
      asciiDigit?_of_isDigit (digits c (List.mem_cons_self ..))
    rw [List.filterMap_cons, first, List.foldl_cons, Nat.ofDigitChars_cons]
    exact ih (fun c member => digits c (List.mem_cons_of_mem _ member)) _

/-- A row of digits after another moves it by as many places. -/
theorem ofDigitChars_append (first second : List Char) :
    Nat.ofDigitChars 10 (first ++ second) 0 =
      Nat.ofDigitChars 10 first 0 * 10 ^ second.length + Nat.ofDigitChars 10 second 0 := by
  suffices shifted : ∀ start, Nat.ofDigitChars 10 second start =
      start * 10 ^ second.length + Nat.ofDigitChars 10 second 0 by
    rw [Nat.ofDigitChars_append, shifted]
  induction second with
  | nil => intro start; simp
  | cons c second ih =>
    intro start
    rw [Nat.ofDigitChars_cons, Nat.ofDigitChars_cons, ih, ih (10 * 0 + _), List.length_cons,
      Nat.pow_succ]
    simp only [Nat.mul_zero, Nat.zero_add, Nat.add_mul]
    rw [Nat.mul_comm 10 start, Nat.mul_assoc, Nat.mul_comm 10, Nat.add_assoc]

end Storekeeper.Text

namespace Storekeeper.Decimal

open Storekeeper.Text

/-! ## A point between digits -/

/-- A row of digits is taken up to its end or to a point. -/
theorem takeDigits_append {row rest : List Char} (digits : ∀ c ∈ row, c.isDigit = true)
    (ends : rest = [] ∨ ∃ more, rest = '.' :: more) : takeDigits (row ++ rest) = (row, rest) := by
  have taken : ∀ c ∈ row, isAsciiDigit c = true :=
    fun c member => isAsciiDigit_iff.mpr (digits c member)
  have point : isAsciiDigit '.' = false := by decide
  unfold takeDigits
  rw [List.takeWhile_append_of_pos taken, List.dropWhile_append_of_pos taken]
  rcases ends with rfl | ⟨more, rfl⟩
  · simp
  · simp [point]

/-- The digits before the point, and the point with the digits after it if there are any. -/
def pointed (whole fraction : List Char) : List Char :=
  whole ++ if fraction = [] then [] else '.' :: fraction

variable {whole fraction : List Char}

/-- A row of digits alone is read as what is before the point. -/
theorem plainNumeral?_row {row : List Char} (given : row ≠ []) (digits : ∀ c ∈ row, c.isDigit = true) :
    plainNumeral? row = some ⟨row, [], 0⟩ := by
  have starts : row.isEmpty = false := List.isEmpty_eq_false_iff.mpr given
  have taken : takeDigits (row ++ []) = (row, []) := takeDigits_append digits (.inl rfl)
  rw [List.append_nil] at taken
  unfold plainNumeral? takeSignificand
  rw [taken]
  simp [starts]

/-- Digits on at least one side of a point are read apart again. -/
theorem plainNumeral?_point (given : whole ≠ [] ∨ fraction ≠ []) (before : ∀ c ∈ whole, c.isDigit = true)
    (after : ∀ c ∈ fraction, c.isDigit = true) :
    plainNumeral? (whole ++ '.' :: fraction) = some ⟨whole, fraction, 0⟩ := by
  have some : (whole.isEmpty && fraction.isEmpty) = false := by
    rcases given with left | right
    · simp [List.isEmpty_eq_false_iff.mpr left]
    · simp [List.isEmpty_eq_false_iff.mpr right]
  have rest : takeDigits (fraction ++ []) = (fraction, []) := takeDigits_append after (.inl rfl)
  rw [List.append_nil] at rest
  unfold plainNumeral? takeSignificand
  rw [takeDigits_append before (.inr ⟨fraction, rfl⟩)]
  simp [rest, some]

/-- Digits with a point between them are read apart again. -/
theorem plainNumeral?_pointed (given : whole ≠ []) (before : ∀ c ∈ whole, c.isDigit = true)
    (after : ∀ c ∈ fraction, c.isDigit = true) :
    plainNumeral? (pointed whole fraction) = some ⟨whole, fraction, 0⟩ := by
  unfold pointed
  split
  · rename_i nothing
    rw [List.append_nil, plainNumeral?_row given before, nothing]
  · exact plainNumeral?_point (.inl given) before after

theorem takeDigits_digits (cs : List Char) : ∀ c ∈ (takeDigits cs).1, c.isDigit = true :=
  fun c member => isAsciiDigit_iff.mp (List.all_eq_true.mp List.all_takeWhile c member)

theorem takeDigits_join (cs : List Char) : (takeDigits cs).1 ++ (takeDigits cs).2 = cs :=
  List.takeWhile_append_dropWhile

/-- What a text begins with are digits, and a point with digits if the point is there. -/
theorem takeSignificand_join {cs rest : List Char} (taken : takeSignificand cs = ((whole, fraction), rest)) :
    (∀ c ∈ whole, c.isDigit = true) ∧ (∀ c ∈ fraction, c.isDigit = true) ∧
      (cs = whole ++ rest ∧ fraction = [] ∨ cs = whole ++ '.' :: (fraction ++ rest)) := by
  have joined := takeDigits_join cs
  have before := takeDigits_digits cs
  unfold takeSignificand at taken
  dsimp only at taken
  split at taken
  · rename_i more point
    cases taken
    refine ⟨before, takeDigits_digits more, .inr ?_⟩
    rw [takeDigits_join, ← point, joined]
  · cases taken
    exact ⟨before, fun c member => absurd member List.not_mem_nil, .inl ⟨joined.symm, rfl⟩⟩

/-- Nothing else is read as a numeral without an exponent. -/
theorem plainNumeral?_some {cs : List Char} {x : Numeral} (read : plainNumeral? cs = some x) :
    ∃ whole fraction, x = ⟨whole, fraction, 0⟩ ∧ (∀ c ∈ whole, c.isDigit = true) ∧
      (∀ c ∈ fraction, c.isDigit = true) ∧ (whole ≠ [] ∨ fraction ≠ []) ∧
      (cs = whole ∧ fraction = [] ∨ cs = whole ++ '.' :: fraction) := by
  unfold plainNumeral? at read
  generalize taken : takeSignificand cs = parts at read
  obtain ⟨⟨whole, fraction⟩, rest⟩ := parts
  obtain ⟨before, after, shape⟩ := takeSignificand_join taken
  dsimp only at read
  split at read
  · cases read
  · rename_i accepted
    cases read
    have ends : rest = [] := by
      cases rest with
      | nil => rfl
      | cons c rest => simp at accepted
    subst ends
    have given : whole ≠ [] ∨ fraction ≠ [] := by
      cases whole with
      | nil => exact .inr fun none => accepted (by simp [none])
      | cons c whole => exact .inl (List.cons_ne_nil c whole)
    rw [List.append_nil, List.append_nil] at shape
    exact ⟨whole, fraction, rfl, before, after, given, shape⟩

theorem digits_plain (before : ∀ c ∈ whole, c.isDigit = true)
    (after : ∀ c ∈ fraction, c.isDigit = true) :
    (Numeral.mk whole fraction 0).digits =
      Nat.ofDigitChars 10 whole 0 * 10 ^ fraction.length + Nat.ofDigitChars 10 fraction 0 := by
  have digits : ∀ c ∈ whole ++ fraction, c.isDigit = true := by
    intro c member
    rcases List.mem_append.mp member with left | right
    · exact before c left
    · exact after c right
  unfold Numeral.digits
  rw [ofDigits_eq digits, ofDigitChars_append]

/-- A numeral without an exponent is the number nearest to its digits divided by a power of ten. -/
theorem Numeral.toBinary64_plain (something : (Numeral.mk whole fraction 0).digits ≠ 0) :
    (Numeral.mk whole fraction 0).toBinary64 false =
      .ofRatio false (Numeral.mk whole fraction 0).digits (10 ^ fraction.length) := by
  have scale : (Numeral.mk whole fraction 0).scale = -(fraction.length : Int) := Int.zero_sub _
  unfold Numeral.toBinary64
  rw [scale]
  have small : ¬((Numeral.mk whole fraction 0).digits = 0 ∨
      -(fraction.length : Int) + ↑(whole.length + fraction.length) < -400) := by
    omega
  have low : ¬(400 < -(fraction.length : Int)) := by omega
  simp only [if_neg small, if_neg low, Int.neg_neg, Int.toNat_natCast]
  have shift : (-(fraction.length : Int)).toNat = 0 := by omega
  rw [shift]
  exact congrArg (fun n => Binary64.ofRatio false n _) (Nat.mul_one _)

theorem Numeral.toBinary64_zero {x : Numeral} (none : x.digits = 0) (negative : Bool) :
    x.toBinary64 negative = .finite negative 0 :=
  if_pos (.inl none)

/-- The finite number nearest to a numeral is zero or representable. -/
theorem Numeral.toBinary64_representable {x : Numeral} {negative sign : Bool} {units : Nat}
    (nearest : x.toBinary64 negative = .finite sign units) :
    units = 0 ∨ Binary64.Representable units := by
  unfold Numeral.toBinary64 at nearest
  dsimp only at nearest
  split at nearest
  · cases nearest
    exact .inl rfl
  · split at nearest
    · cases nearest
    · exact .inr (Binary64.ofRatio_representable nearest)

end Storekeeper.Decimal
