import Storekeeper.Decimal.Binary64
import Storekeeper.Text.Digit

/-!
# Decimal numerals

A numeral is a row of digits before the point, a row after it and an exponent.  Its value is an
exact quotient of integers, and `Numeral.toBinary64` is the binary number nearest to it.  An
exponent far beyond the range of the binary numbers is answered without computing the power.
-/

namespace Storekeeper.Decimal

open Storekeeper.Text

/-- The numeral `whole.fraction e exponent`. -/
structure Numeral where
  whole : List Char
  fraction : List Char
  exponent : Int

namespace Numeral

/-- The digits of a numeral as one number. -/
def digits (x : Numeral) : Nat :=
  ofDigits ((x.whole ++ x.fraction).filterMap asciiDigit?)

/-- The power of ten that the digits are multiplied by. -/
def scale (x : Numeral) : Int :=
  x.exponent - x.fraction.length

/-- The binary number nearest to a numeral with a sign. -/
def toBinary64 (x : Numeral) (negative : Bool) : Binary64 :=
  let count := x.whole.length + x.fraction.length
  if x.digits = 0 ∨ x.scale + count < -400 then .finite negative 0
  else if 400 < x.scale then .infinite negative
  else .ofRatio negative (x.digits * Nat.pow 10 x.scale.toNat) (Nat.pow 10 (-x.scale).toNat)

end Numeral

/-- The digits that a text begins with, and the rest. -/
def takeDigits (cs : List Char) : List Char × List Char :=
  (cs.takeWhile isAsciiDigit, cs.dropWhile isAsciiDigit)

/-- A sign that a text begins with, as whether it is a minus, and the rest. -/
def takeSign : List Char → Bool × List Char
  | '+' :: r => (false, r)
  | '-' :: r => (true, r)
  | r => (false, r)

/-- The exponent that a text consists of: a letter E, a sign if any, digits; none if it is empty. -/
def exponent? : List Char → Option Int
  | [] => some 0
  | c :: r =>
    if c = 'e' ∨ c = 'E' then
      let (negative, r) := takeSign r
      if r.isEmpty || !r.all isAsciiDigit then none
      else
        let n : Int := ofDigits (r.filterMap asciiDigit?)
        some (if negative then -n else n)
    else none

/-- The digits before and after the point with which a text begins, and the rest of it. -/
def takeSignificand (cs : List Char) : (List Char × List Char) × List Char :=
  let (whole, r) := takeDigits cs
  match r with
  | '.' :: r =>
    let (fraction, r) := takeDigits r
    ((whole, fraction), r)
  | r => ((whole, []), r)

/-- The numeral without a sign that a text writes: digits on at least one side of a point, or
digits alone, and an exponent if there is one. -/
def numeral? (cs : List Char) : Option Numeral :=
  let ((whole, fraction), r) := takeSignificand cs
  if whole.isEmpty && fraction.isEmpty then none
  else (exponent? r).map (⟨whole, fraction, ·⟩)

/-- The numeral without a sign and without an exponent that a text writes. -/
def plainNumeral? (cs : List Char) : Option Numeral :=
  let ((whole, fraction), r) := takeSignificand cs
  if (whole.isEmpty && fraction.isEmpty) || !r.isEmpty then none
  else some ⟨whole, fraction, 0⟩

end Storekeeper.Decimal
