import Storekeeper.Text.CharacterName
import Storekeeper.Text.Spans

/-!
# Character references

HTML writes a character as `&name;` or by its number, decimal or hexadecimal.  The names of
`openNames` may stand without the semicolon, and then the longest name that the text begins with
counts; those of `closedNames` may not.  A number without a character is the replacement character,
one of a control or of a code point that is never a character is dropped, and the numbers 128 to
159 stand for the characters of the Windows code page.  What is no reference stays as it is.
-/

namespace Storekeeper.Text

/-- The characters of the Windows code page that numbers from 128 to 159 stand for. -/
def windowsCodes : List (Nat × Nat) :=
  [(0x80, 0x20AC), (0x82, 0x201A), (0x83, 0x192), (0x84, 0x201E), (0x85, 0x2026), (0x86, 0x2020),
    (0x87, 0x2021), (0x88, 0x2C6), (0x89, 0x2030), (0x8A, 0x160), (0x8B, 0x2039), (0x8C, 0x152),
    (0x8E, 0x17D), (0x91, 0x2018), (0x92, 0x2019), (0x93, 0x201C), (0x94, 0x201D), (0x95, 0x2022),
    (0x96, 0x2013), (0x97, 0x2014), (0x98, 0x2DC), (0x99, 0x2122), (0x9A, 0x161), (0x9B, 0x203A),
    (0x9C, 0x153), (0x9E, 0x17E), (0x9F, 0x178)]

/-- Code points that a reference may not stand for: they are dropped. -/
def droppedSpans : List (Nat × Nat) :=
  [(0x1, 0x8), (0xB, 0xB), (0xE, 0x1F), (0x7F, 0x7F), (0xFDD0, 0xFDEF)]

/-- Whether a code point is dropped: a control, or one that is never a character. -/
def isDropped (code : Nat) : Bool :=
  inSpans droppedSpans code || code % 0x10000 == 0xFFFE || code % 0x10000 == 0xFFFF

/-- What the number of a reference stands for. -/
def numberedCharacter (code : Nat) : List Char :=
  if code = 0 then [Char.ofNat 0xFFFD]
  else
    match windowsCodes.lookup code with
    | some image => [Char.ofNat image]
    | none =>
      if (0xD800 ≤ code && code ≤ 0xDFFF) || 0x10FFFF < code then [Char.ofNat 0xFFFD]
      else if isDropped code then []
      else [Char.ofNat code]

/-- The text without a semicolon at its front. -/
def dropSemicolon : List Char → List Char
  | ';' :: rest => rest
  | cs => cs

/-- Whether a character may stand in the name of a reference. -/
def isNameChar (c : Char) : Bool :=
  !(['\t', '\n', '\x0c', ' ', '<', '&', '#', ';'].contains c)

/-- The longest name, of at most so many characters, that a text begins with and that may stand
without a semicolon: its character and how long it is. -/
def longestName? : Nat → List Char → Option (Nat × Nat)
  | 0, _ => none
  | length + 1, cs =>
    match openNames.lookup (String.ofList (cs.take (length + 1))) with
    | some code => some (code, length + 1)
    | none => longestName? length cs

/-- What a named reference stands for, and what follows it: `name` are the characters after the
ampersand that may belong to a name, at most 32 of them. -/
def namedReference? (name rest : List Char) : Option (List Char × List Char) :=
  let closed :=
    if rest.head? = some ';' then
      closedNames.lookup (String.ofList name) <|> (openNames.lookup (String.ofList name)).map ([·])
    else none
  match closed with
  | some codes => some (codes.map Char.ofNat, rest.drop 1)
  | none =>
    (longestName? name.length name).map fun (code, length) =>
      ([Char.ofNat code], name.drop length ++ rest)

/-- The number that a row of digits to a base writes. -/
def ofBase (base : Nat) (digits : List Char) : Nat :=
  digits.foldl
    (fun n c =>
      n * base +
        (if '0' ≤ c ∧ c ≤ '9' then c.toNat - '0'.toNat
         else if 'a' ≤ c ∧ c ≤ 'f' then c.toNat - 'a'.toNat + 10
         else c.toNat - 'A'.toNat + 10)) 0

/-- Whether a character is a digit to base sixteen. -/
def isHexDigit (c : Char) : Bool :=
  decide ('0' ≤ c ∧ c ≤ '9') || decide ('a' ≤ c ∧ c ≤ 'f') || decide ('A' ≤ c ∧ c ≤ 'F')

/-- The number of a numeric reference and what follows it, given what stands after the hash. -/
def numericReference? (cs : List Char) : Option (Nat × List Char) :=
  let decimal := cs.takeWhile Char.isDigit
  if !decimal.isEmpty then
    some (ofBase 10 decimal, dropSemicolon (cs.dropWhile Char.isDigit))
  else
    match cs with
    | x :: cs =>
      let digits := cs.takeWhile isHexDigit
      if (x = 'x' ∨ x = 'X') ∧ !digits.isEmpty then
        some (ofBase 16 digits, dropSemicolon (cs.dropWhile isHexDigit))
      else none
    | [] => none

/-- What the reference after an ampersand stands for, and what follows it. -/
def reference? : List Char → Option (List Char × List Char)
  | '#' :: cs => (numericReference? cs).map fun (code, rest) => (numberedCharacter code, rest)
  | cs =>
    let name := (cs.takeWhile isNameChar).take 32
    namedReference? name (cs.drop name.length)

/-- The text with its references replaced, for at most `fuel` characters. -/
def resolveFrom : Nat → List Char → List Char
  | 0, cs => cs
  | _ + 1, [] => []
  | fuel + 1, c :: cs =>
    if c = '&' then
      match reference? cs with
      | some (image, rest) => image ++ resolveFrom fuel rest
      | none => c :: resolveFrom fuel cs
    else c :: resolveFrom fuel cs

/-- The text with its references replaced. -/
def resolveReferences (cs : List Char) : List Char :=
  resolveFrom cs.length cs

/-- Whether a text has a reference by a decimal number of more than so many digits. -/
def hasLongNumber (limit : Nat) : List Char → Bool
  | [] => false
  | '&' :: '#' :: cs => limit < (cs.takeWhile Char.isDigit).length || hasLongNumber limit cs
  | _ :: cs => hasLongNumber limit cs

end Storekeeper.Text
