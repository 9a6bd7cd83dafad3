import Storekeeper.Decimal.Binary64

/-!
# Decimals with two places

A number is written with two places after the point: its exact value times a hundred, rounded to
the nearest integer, a half to the even one.  The sign of a zero is kept.
-/

namespace Storekeeper.Decimal

/-- A number of hundredths, written with a point. -/
def hundredthsChars (n : Nat) : List Char :=
  Nat.toDigits 10 (n / 100) ++
    ['.', Nat.digitChar (n / 10 % 10), Nat.digitChar (n % 10)]

/-- The hundredths nearest to a number of units. -/
def hundredths (units : Nat) : Nat :=
  roundDiv (100 * units) Binary64.one

/-- The number with two places after the point. -/
def Binary64.twoPlaces : Binary64 → List Char
  | finite negative units =>
    (if negative then ['-'] else []) ++ hundredthsChars (hundredths units)
  | infinite negative => if negative then ['-', 'i', 'n', 'f'] else ['i', 'n', 'f']
  | nan => ['n', 'a', 'n']

end Storekeeper.Decimal
