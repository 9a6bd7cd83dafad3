import Storekeeper.Decimal.Rounding

/-!
# Binary floating-point numbers of 64 bits

A finite number is an integer multiple of the unit `2 ^ -1074`, so it is held as a sign and a
number of units, and every question about it is a question about integers.  A number of units is
representable when it is `m * 2 ^ e` with `m < 2 ^ 53`; `roundUnits` takes a quotient to the
nearest such number, `ofRatio` puts the sign and the overflow to infinity to it.
-/

namespace Storekeeper.Decimal

/-- A binary floating-point number; a finite one is `units * 2 ^ -1074` with its sign. -/
inductive Binary64 where
  | finite (negative : Bool) (units : Nat)
  | infinite (negative : Bool)
  | nan
  deriving DecidableEq, Repr, Inhabited

namespace Binary64

/-- How many units make one. -/
def one : Nat :=
  Nat.pow 2 1074

/-- The least number of units that is too large for a finite number. -/
def bound : Nat :=
  Nat.pow 2 2098

/-- The exponent of the spacing of the representable numbers around a number of units. -/
def spacing (units : Nat) : Nat :=
  Nat.log2 units - 52

/-- The representable number of units nearest to a quotient, the even one of two. -/
def roundUnits (n d : Nat) : Nat :=
  let gap := Nat.pow 2 (spacing (n / d))
  roundDiv n (d * gap) * gap

/-- The number nearest to so many units, given as a quotient. -/
def ofUnits (negative : Bool) (n d : Nat) : Binary64 :=
  let units := roundUnits n d
  if units < bound then finite negative units else infinite negative

/-- The number nearest to a quotient. -/
def ofRatio (negative : Bool) (n d : Nat) : Binary64 :=
  ofUnits negative (n * one) d

/-- The number nearest to an integer. -/
def ofInt (n : Int) : Binary64 :=
  ofRatio (n < 0) n.natAbs 1

/-- The sign and units of a finite number as one integer. -/
def signedUnits (negative : Bool) (units : Nat) : Int :=
  if negative then -(units : Int) else units

/-- The number nearest to an integer number of units; zero is positive. -/
def ofSignedUnits (units : Int) : Binary64 :=
  ofUnits (units < 0) units.natAbs 1

/-- The sum of two numbers, rounded to the nearest. -/
def add : Binary64 → Binary64 → Binary64
  | finite s a, finite t b =>
    if a = 0 ∧ b = 0 then finite (s && t) 0 else ofSignedUnits (signedUnits s a + signedUnits t b)
  | infinite s, infinite t => if s = t then infinite s else nan
  | infinite s, finite _ _ => infinite s
  | finite _ _, infinite t => infinite t
  | nan, _ => nan
  | _, nan => nan

/-- The number with the other sign. -/
def negate : Binary64 → Binary64
  | finite s a => finite (!s) a
  | infinite s => infinite (!s)
  | nan => nan

/-- The difference of two numbers, rounded to the nearest. -/
def sub (x y : Binary64) : Binary64 :=
  add x (negate y)

/-- Whether one number is less than another; nothing compares with a NaN. -/
def less : Binary64 → Binary64 → Bool
  | finite s a, finite t b => signedUnits s a < signedUnits t b
  | infinite s, infinite t => s && !t
  | infinite s, finite _ _ => s
  | finite _ _, infinite t => !t
  | nan, _ => false
  | _, nan => false

/-- Whether two numbers are equal as numbers: the two zeros are, a NaN equals nothing. -/
def same : Binary64 → Binary64 → Bool
  | finite s a, finite t b => signedUnits s a == signedUnits t b
  | infinite s, infinite t => s == t
  | _, _ => false

/-- Whether the number is one of the two zeros. -/
def isZero : Binary64 → Bool
  | finite _ units => units == 0
  | _ => false

/-- Whether the number is neither infinite nor a NaN. -/
def isFinite : Binary64 → Bool
  | finite _ _ => true
  | _ => false

/-- The integer part of a finite number, rounded towards zero. -/
def truncate? : Binary64 → Option Int
  | finite s units => some (signedUnits s (units / one))
  | _ => none

/-- The integer that a finite number is, if it is one. -/
def toInt? : Binary64 → Option Int
  | finite s units => if units % one = 0 then some (signedUnits s (units / one)) else none
  | _ => none

/-- The word that stores the number: sign, eleven bits of exponent, fraction. -/
def toBits : Binary64 → Nat
  | finite s units =>
    let e := spacing units
    (if s then Nat.pow 2 63 else 0) + (e * Nat.pow 2 52 + units / Nat.pow 2 e)
  | infinite s => (if s then Nat.pow 2 63 else 0) + 2047 * Nat.pow 2 52
  | nan => 2047 * Nat.pow 2 52 + Nat.pow 2 51

end Binary64

end Storekeeper.Decimal
