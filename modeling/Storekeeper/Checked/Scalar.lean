import Storekeeper.Checked.Basic
import Storekeeper.Json.Basic
import Storekeeper.Decimal.Numeral
import Storekeeper.Text.Blank
import Storekeeper.Text.Replace

/-!
# Readings of single values

The readings are lenient where nothing is lost: a number may be given as a text, an integer as a
number without a fraction, a truth value as one of a few words, and truth values count as 0 and 1
where a number is wanted.
-/

namespace Storekeeper.Checked

open Storekeeper.Text Storekeeper.Decimal

/-- A text. -/
def text : Json → Checked String
  | .str s => ok s
  | _ => fail .notText

/-- A value that may be null. -/
def nullable {α : Type} (reading : Json → Checked α) : Json → Checked (Option α)
  | .null => ok none
  | value => (reading value).map some

/-- The text without the white space at its ends. -/
def trimSpace (cs : List Char) : List Char :=
  dropBoth isSpace cs

/-- The values of a row of digits in which single underscores may divide digits. -/
def groupedDigits? (digit? : Char → Option Nat) : List Char → Option (List Nat)
  | [] => none
  | [c] => (digit? c).map ([·])
  | c :: '_' :: rest => do
    let d ← digit? c
    let ds ← groupedDigits? digit? rest
    return d :: ds
  | c :: rest => do
    let d ← digit? c
    let ds ← groupedDigits? digit? rest
    return d :: ds

/-- The digits before a point that only zeros follow, or the whole text if it has no point. -/
def dropZeroFraction? (cs : List Char) : Option (List Char) :=
  match cs.dropWhile (· != '.') with
  | [] => some cs
  | _ :: zeros =>
    if zeros.isEmpty || !zeros.all (· == '0') then none else some (cs.takeWhile (· != '.'))

/-- The integer that a text writes: digits with single underscores between them, a sign and a
fraction of zeros if any. -/
def integerText (s : String) : Checked Int :=
  let (negative, cs) := takeSign (trimSpace s.toList)
  match (dropZeroFraction? cs).bind (groupedDigits? asciiDigit?) with
  | none => fail .notIntegerText
  | some digits =>
    if 4300 < digits.length then fail .integerTooLarge
    else
      let n : Int := ofDigits digits
      ok (if negative then -n else n)

/-- An integer. -/
def integer : Json → Checked Int
  | .int n => ok n
  | .bool b => ok (if b then 1 else 0)
  | .num x =>
    if !x.isFinite then fail .notFinite
    else
      match x.toInt? with
      | none => fail .fraction
      | some n =>
        let bound : Int := Nat.pow 2 63
        if -bound < n ∧ n < bound then ok n else fail .integerTooLarge
  | .str s => integerText s
  | _ => fail .notInteger

/-- The number that a text writes, as a numeral or as one of the words for the numbers that have
none. -/
def numberChars? (cs : List Char) : Option Binary64 :=
  let (negative, cs) := takeSign cs
  let word := String.ofList (cs.map Char.toLower)
  if word = "inf" ∨ word = "infinity" then some (.infinite negative)
  else if word = "nan" then some .nan
  else (numeral? cs).map (·.toBinary64 negative)

/-- The text without its underscores, if none stands at an end or beside another. -/
def dropUnderscores? (cs : List Char) : Option (List Char) :=
  if cs.head? = some '_' ∨ cs.getLast? = some '_' ∨ occurs ['_', '_'] cs then none
  else some (cs.filter (· != '_'))

/-- A number. -/
def number : Json → Checked Binary64
  | .num x => ok x
  | .bool b => ok (.ofInt (if b then 1 else 0))
  | .int n =>
    match Binary64.ofInt n with
    | .finite s units => ok (.finite s units)
    | _ => fail .notNumber
  | .str s =>
    match (numberChars? (trimSpace s.toList)).orElse fun _ =>
        (dropUnderscores? s.toList).bind fun cs => numberChars? (trimSpace cs) with
    | some x => ok x
    | none => fail .notNumberText
  | _ => fail .notNumber

/-- The words for true and false. -/
def truthWords : List (String × Bool) :=
  [("0", false), ("off", false), ("f", false), ("false", false), ("n", false), ("no", false),
   ("1", true), ("on", true), ("t", true), ("true", true), ("y", true), ("yes", true)]

/-- A truth value. -/
def truth : Json → Checked Bool
  | .bool b => ok b
  | .int n => if n = 0 then ok false else if n = 1 then ok true else fail .notTruthText
  | .num x =>
    if x.same (.ofInt 0) then ok false
    else if x.same (.ofInt 1) then ok true
    else fail .notTruth
  | .str s =>
    match truthWords.lookup (String.ofList (s.toList.map Char.toLower)) with
    | some b => ok b
    | none => fail .notTruthText
  | _ => fail .notTruth

end Storekeeper.Checked
