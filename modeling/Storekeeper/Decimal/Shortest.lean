import Storekeeper.Decimal.Binary64

/-!
# The shortest decimal that reads back

Every number has an interval of reals that round to it.  `shortest` tries 1, 2, … 17 significant
digits and takes the first decimal grid with a point in the interval, the nearer point if there
are two.  `Binary64.text` writes the digits: by position from `10 ^ -4` up to below `10 ^ 16`, with
an exponent otherwise.
-/

namespace Storekeeper.Decimal

/-- The reals that round to a finite number: `lowest`, `highest` and the number itself, all in
quarters of a unit, and whether the ends belong to them. -/
structure Interval where
  lowest : Nat
  value : Nat
  highest : Nat
  closed : Bool

namespace Interval

/-- The interval of a finite number other than zero. -/
def ofUnits (units : Nat) : Interval :=
  let e := Binary64.spacing units
  let gap := Nat.pow 2 e
  let below := if 0 < e ∧ units = Nat.pow 2 (e + 52) then gap else 2 * gap
  { lowest := 4 * units - below
    value := 4 * units
    highest := 4 * units + 2 * gap
    closed := units / gap % 2 = 0 }

/-- Whether the quotient `n / d`, in quarters of a unit, lies in the interval. -/
def holds (i : Interval) (n d : Nat) : Bool :=
  if i.closed then decide (i.lowest * d ≤ n ∧ n ≤ i.highest * d)
  else decide (i.lowest * d < n ∧ n < i.highest * d)

end Interval

/-- How many decimal digits a number has. -/
def digitCount (n : Nat) : Nat :=
  (Nat.toDigits 10 n).length

/-- The exponent `k` with `10 ^ k ≤ n / d < 10 ^ (k + 1)`, for a positive quotient. -/
def decimalExponent (n d : Nat) : Int :=
  if d ≤ n then (digitCount (n / d) : Int) - 1
  else -(digitCount ((d - 1) / n) : Int)

/-- Digits and an exponent: the number `digits * 10 ^ exponent`. -/
structure Scaled where
  digits : Nat
  exponent : Int

/-- The point of the grid `10 ^ exponent` nearest to the number among its two neighbours there
that lie in the interval. -/
def gridPoint? (i : Interval) (exponent : Int) : Option Scaled :=
  -- a point `k` of the grid is `k * up / down` quarters of a unit
  let up := Nat.pow 10 exponent.toNat * (4 * Binary64.one)
  let down := Nat.pow 10 (-exponent).toNat
  let low := i.value * down / up
  let high := low + 1
  let lowFits := 0 < low && i.holds (low * up) down
  let highFits := i.holds (high * up) down
  let nearest := roundDiv (i.value * down) up
  if lowFits && highFits then some ⟨nearest, exponent⟩
  else if lowFits then some ⟨low, exponent⟩
  else if highFits then some ⟨high, exponent⟩
  else none

/-- The digits of the shortest decimal that rounds to a number of units other than zero. -/
def shortest (units : Nat) : Scaled :=
  let i := Interval.ofUnits units
  let exponent := decimalExponent units Binary64.one
  ((List.range 17).findSome? fun (more : Nat) => gridPoint? i (exponent - more)).getD ⟨0, 0⟩

/-- Digits without the zeros at their end. -/
def dropZeros (digits : List Char) : List Char :=
  (digits.reverse.dropWhile (· == '0')).reverse

/-- A number of at least two digits for an exponent. -/
def exponentDigits (n : Nat) : List Char :=
  let digits := Nat.toDigits 10 n
  if digits.length < 2 then '0' :: digits else digits

/-- The characters of a positive decimal, by position or with an exponent. -/
def Scaled.chars (x : Scaled) : List Char :=
  let digits := Nat.toDigits 10 x.digits
  let exponent := x.exponent + ((digits.length : Int) - 1)
  let digits := dropZeros digits
  if exponent < -4 ∨ 16 ≤ exponent then
    let fraction := if digits.length ≤ 1 then [] else '.' :: digits.drop 1
    digits.take 1 ++ fraction ++ ['e', if exponent < 0 then '-' else '+'] ++
      exponentDigits exponent.natAbs
  else if exponent < 0 then
    '0' :: '.' :: List.replicate (exponent.natAbs - 1) '0' ++ digits
  else
    let whole := exponent.toNat + 1
    let filled := digits ++ List.replicate (whole - digits.length) '0'
    let fraction := filled.drop whole
    filled.take whole ++ ['.'] ++ (if fraction.isEmpty then ['0'] else fraction)

/-- The shortest text that reads back as the number. -/
def Binary64.text : Binary64 → String
  | finite negative units =>
    let digits := if units = 0 then ['0', '.', '0'] else (shortest units).chars
    String.ofList (if negative then '-' :: digits else digits)
  | infinite negative => if negative then "-inf" else "inf"
  | nan => "nan"

end Storekeeper.Decimal
