import Storekeeper.Text.Spans

/-!
# Blank characters

`isBlank` is the class that is taken off the ends of a text; it is Unicode's white space together
with the four separators U+001C to U+001F.  `isSpace` is white space alone, which may stand around
a number that is given as a text.
-/

namespace Storekeeper.Text

/-- Unicode's white space. -/
def spaceSpans : List (Nat × Nat) :=
  [(0x9, 0xD), (0x20, 0x20), (0x85, 0x85), (0xA0, 0xA0), (0x1680, 0x1680), (0x2000, 0x200A),
   (0x2028, 0x2029), (0x202F, 0x202F), (0x205F, 0x205F), (0x3000, 0x3000)]

/-- Whether the character is white space. -/
def isSpace (c : Char) : Bool :=
  inSpans spaceSpans c.toNat

/-- Whether the character is taken off the ends of a text. -/
def isBlank (c : Char) : Bool :=
  isSpace c || (0x1C ≤ c.toNat && c.toNat ≤ 0x1F)

/-- The text without the characters of a class at its end. -/
def dropEnd (drop : Char → Bool) (cs : List Char) : List Char :=
  (cs.reverse.dropWhile drop).reverse

/-- The text without the characters of a class at either end. -/
def dropBoth (drop : Char → Bool) (cs : List Char) : List Char :=
  dropEnd drop (cs.dropWhile drop)

/-- The text without the blanks at its ends. -/
def trim (cs : List Char) : List Char :=
  dropBoth isBlank cs

/-- The text without the blanks at its ends. -/
def strip (s : String) : String :=
  String.ofList (trim s.toList)

/-- The text without one character, repeated, at its end. -/
def stripEnd (last : Char) (s : String) : String :=
  String.ofList (dropEnd (· == last) s.toList)

end Storekeeper.Text
