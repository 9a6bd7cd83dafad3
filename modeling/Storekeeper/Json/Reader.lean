import Storekeeper.Json.Basic
import Storekeeper.Decimal.Numeral
import Storekeeper.Text.Encoding

/-!
# Reading JSON

A reader for JSON texts with three liberties: `NaN`, `Infinity` and `-Infinity` are numbers, a
number too large is an infinity, and a name that appears twice in an object keeps its first place
and its last value.  An integer may be limited to a number of digits; a longer one is an error of
its own kind, since a caller may tell it from a text that is no JSON.

The reader walks a list of characters.  `fuel` bounds the nesting and the number of items; the
length of the text is always enough, because every item takes a character.

Two things are left out.  Arrays and objects may be nested to any depth here, while a program that
reads by recursion gives up on a text nested deeper than its stack; that failure is in no statement.
And a text is a list of characters: a surrogate that an escape writes on its own becomes the
replacement character, so that two texts or member names that differ in such surrogates only are
one here, and a text with one is written again as U+FFFD.
-/

namespace Storekeeper.Json

open Storekeeper.Text Storekeeper.Decimal

/-- Why a text is not read. -/
inductive ReadError where
  | malformed
  | integerTooLong
  deriving DecidableEq, Repr

/-- The text without the JSON blanks at its front. -/
def skipBlanks (cs : List Char) : List Char :=
  cs.dropWhile fun c => c == ' ' || c == '\t' || c == '\n' || c == '\r'

/-- The value of a hexadecimal digit. -/
def hexDigit? (c : Char) : Option Nat :=
  if '0' ≤ c ∧ c ≤ '9' then some (c.toNat - '0'.toNat)
  else if 'a' ≤ c ∧ c ≤ 'f' then some (c.toNat - 'a'.toNat + 10)
  else if 'A' ≤ c ∧ c ≤ 'F' then some (c.toNat - 'A'.toNat + 10)
  else none

/-- The number that four hexadecimal digits write, and what follows them. -/
def fourHex? : List Char → Option (Nat × List Char)
  | a :: b :: c :: d :: rest => do
    let a ← hexDigit? a
    let b ← hexDigit? b
    let c ← hexDigit? c
    let d ← hexDigit? d
    return (((a * 16 + b) * 16 + c) * 16 + d, rest)
  | _ => none

/-- The character that a one-letter escape stands for. -/
def escape? : Char → Option Char
  | '"' => some '"'
  | '\\' => some '\\'
  | '/' => some '/'
  | 'b' => some '\x08'
  | 'f' => some '\x0c'
  | 'n' => some '\n'
  | 'r' => some '\r'
  | 't' => some '\t'
  | _ => none

/-- The code points of a string after its opening quote, with what follows the closing one.  An
escape may write a surrogate. -/
def stringCodes : List Char → Option (List Nat × List Char)
  | [] => none
  | '"' :: rest => some ([], rest)
  | '\\' :: 'u' :: a :: b :: c :: d :: rest => do
    let (code, _) ← fourHex? [a, b, c, d]
    let (codes, after) ← stringCodes rest
    return (code :: codes, after)
  | '\\' :: c :: rest => do
    let plain ← escape? c
    let (codes, after) ← stringCodes rest
    return (plain.toNat :: codes, after)
  | c :: rest =>
    if c.toNat < 0x20 then none
    else do
      let (codes, after) ← stringCodes rest
      return (c.toNat :: codes, after)

/-- The rest of a string after its opening quote, with what follows the closing one; a surrogate that
stands alone becomes the replacement character. -/
def stringRest (cs : List Char) : Option (List Char × List Char) :=
  (stringCodes cs).map fun (codes, after) => (ofUnits codes, after)

/-- The exponent with which a text begins, if it begins with one, and the rest. -/
def takeExponent (cs : List Char) : Option Int × List Char :=
  match cs with
  | c :: r =>
    if c = 'e' ∨ c = 'E' then
      let (negative, r) := takeSign r
      let (digits, r) := takeDigits r
      if digits.isEmpty then (none, cs)
      else
        let n : Int := ofDigits (digits.filterMap asciiDigit?)
        (some (if negative then -n else n), r)
    else (none, cs)
  | [] => (none, cs)

/-- The digits after a point with which a text begins, if it begins with them, and the rest. -/
def takeFraction (cs : List Char) : List Char × List Char :=
  match cs with
  | '.' :: r =>
    let (digits, r) := takeDigits r
    if digits.isEmpty then ([], cs) else (digits, r)
  | _ => ([], cs)

/-- The number with which a text begins. -/
def readNumber (limit : Option Nat) (cs : List Char) : Except ReadError (Json × List Char) :=
  let (negative, r) :=
    match cs with
    | '-' :: r => (true, r)
    | r => (false, r)
  let (whole, r) :=
    match r with
    | '0' :: r => (['0'], r)
    | r => takeDigits r
  if whole.isEmpty then .error .malformed
  else
    let (fraction, r) := takeFraction r
    let (exponent, r) := takeExponent r
    if fraction.isEmpty && exponent.isNone then
      if limit.any (· < whole.length) then .error .integerTooLong
      else
        let n : Int := ofDigits (whole.filterMap asciiDigit?)
        .ok (int (if negative then -n else n), r)
    else
      .ok (num (Numeral.toBinary64 ⟨whole, fraction, exponent.getD 0⟩ negative), r)

/-- What follows a word, if the text begins with it. -/
def after? (word : String) (cs : List Char) : Option (List Char) :=
  if word.toList.isPrefixOf cs then some (cs.drop word.length) else none

/-- The words that are values. -/
def words : List (String × Json) :=
  [("null", null), ("true", bool true), ("false", bool false), ("NaN", num .nan),
   ("Infinity", num (.infinite false)), ("-Infinity", num (.infinite true))]

/-- The word or number with which a text begins. -/
def readScalar (limit : Option Nat) (cs : List Char) : Except ReadError (Json × List Char) :=
  match words.findSome? fun (word, value) => (after? word cs).map (value, ·) with
  | some result => .ok result
  | none => readNumber limit cs

mutual

/-- The value with which a text begins, and the rest of the text. -/
def readValue (limit : Option Nat) : Nat → List Char → Except ReadError (Json × List Char)
  | 0, _ => .error .malformed
  | fuel + 1, cs =>
    match cs with
    | '"' :: r =>
      match stringRest r with
      | some (text, r) => .ok (str (String.ofList text), r)
      | none => .error .malformed
    | '[' :: r =>
      match skipBlanks r with
      | ']' :: r => .ok (arr [], r)
      | r => do
        let (items, r) ← readItems limit fuel r
        return (arr items, r)
    | '{' :: r =>
      match skipBlanks r with
      | '}' :: r => .ok (obj [], r)
      | r => do
        let (members, r) ← readMembers limit fuel [] r
        return (obj members, r)
    | cs => readScalar limit cs

/-- The items of an array up to its closing bracket. -/
def readItems (limit : Option Nat) : Nat → List Char → Except ReadError (List Json × List Char)
  | 0, _ => .error .malformed
  | fuel + 1, cs => do
    let (item, r) ← readValue limit fuel cs
    match skipBlanks r with
    | ']' :: r => return ([item], r)
    | ',' :: r =>
      let (items, r) ← readItems limit fuel (skipBlanks r)
      return (item :: items, r)
    | _ => .error .malformed

/-- The members of an object up to its closing brace, put over those already read. -/
def readMembers (limit : Option Nat) :
    Nat → Table Json → List Char → Except ReadError (Table Json × List Char)
  | 0, _, _ => .error .malformed
  | fuel + 1, members, cs =>
    match cs with
    | '"' :: r =>
      match stringRest r with
      | none => .error .malformed
      | some (name, r) =>
        match skipBlanks r with
        | ':' :: r => do
          let (value, r) ← readValue limit fuel (skipBlanks r)
          let members := Table.put members (String.ofList name) value
          match skipBlanks r with
          | '}' :: r => return (members, r)
          | ',' :: r => readMembers limit fuel members (skipBlanks r)
          | _ => .error .malformed
        | _ => .error .malformed
    | _ => .error .malformed

end

/-- The value that a text writes, with at most so many digits to an integer. -/
def readChars (limit : Option Nat) (cs : List Char) : Except ReadError Json := do
  let (value, r) ← readValue limit (2 * cs.length + 2) (skipBlanks cs)
  if (skipBlanks r).isEmpty then return value else .error .malformed

/-- The most digits that an integer may be written with in a document. -/
def digitLimit : Nat :=
  4300

/-- The value that a document's text writes. -/
def read (cs : List Char) : Except ReadError Json :=
  readChars (some digitLimit) cs

/-- The value that a message body writes; bytes that are no text are malformed. -/
def readBody (bytes : Bytes) : Except ReadError Json :=
  match ofBody? bytes with
  | some cs => read cs
  | none => .error .malformed

end Storekeeper.Json
