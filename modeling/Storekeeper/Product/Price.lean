import Storekeeper.Decimal.Fixed
import Storekeeper.Decimal.Numeral
import Storekeeper.Failure

/-!
# Prices and stock counts

A price is a plain decimal in ASCII digits, a plus sign allowed, whose nearest binary number is
finite and greater than zero; it is written with at most two places and no needless zeros.  A
stock count is a row of ASCII digits.
-/

namespace Storekeeper

open Storekeeper.Text Storekeeper.Decimal

/-- The text without a plus sign at its front. -/
def dropPlus : List Char → List Char
  | '+' :: rest => rest
  | cs => cs

/-- The price that a text gives. -/
def parsePrice (value : String) : Option Binary64 :=
  match plainNumeral? (dropPlus value.toList) with
  | none => none
  | some numeral =>
    match numeral.toBinary64 false with
    | .finite _ units => if units = 0 then none else some (.finite false units)
    | _ => none

/-- The stock count that a text gives; one with too many digits is a failure. -/
def parseStock (value : String) : Except Failure (Option Int) :=
  let digits := dropPlus value.toList
  if digits.isEmpty || !digits.all isAsciiDigit then .ok none
  else if 4300 < digits.length then .error .integerTooLong
  else .ok (some (ofDigits (digits.filterMap asciiDigit?)))

/-- The text of a price, with two places at first and then without its last zeros and without a
point at its end. -/
def formatPriceChars (price : Binary64) : List Char :=
  let kept := (price.twoPlaces.reverse.dropWhile (· == '0'))
  (kept.dropWhile (· == '.')).reverse

/-- The text of a price. -/
def formatPrice (price : Binary64) : String :=
  String.ofList (formatPriceChars price)

end Storekeeper
